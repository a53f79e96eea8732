import MarkupAudit.Expr.Escape

/-!
# Formatted strings

The body of a formatted string literal is cut into the fields that stand in braces. A field holds
the code of an expression and perhaps a format of its own, in which further fields may stand, one
level deep. Doubled braces are text. The code of a field has no backslash and no comment in it.
-/

namespace MarkupAudit

/-- A field of a formatted string: the code of its expression, and the fields of its format if it has
a format. -/
inductive Field where
  | mk (code : Text) (format : Option (List Field))

namespace Field

/-- The most brackets that may be open in the code of a field. -/
def maxDepth : Nat := 200

/-- Where the code of a field is read: in a string that a quotation mark ends, one or three of them,
or outside of strings. -/
inductive Mode where
  | code
  | short (quote : Char)
  | long (quote : Char)

/-- The closing bracket of an opening one. -/
def closing? : Char → Option Char
  | '(' => some ')'
  | '[' => some ']'
  | '\x7b' => some '\x7d'
  | _ => none

/-- A character that ends the code of a field outside of brackets, or might do so. -/
def mayEnd (c : Char) : Bool :=
  c = '!' || c = ':' || c = '\x7d' || c = '=' || c = '>' || c = '<'

/-- Puts characters before the code that follows. -/
def before (cs : Text) (r : Option (Text × Text)) : Option (Text × Text) :=
  r.map fun (code, rest) => (cs ++ code, rest)

/-- Reads the code of a field: the code, and the rest from the character that ends it. `brackets`
are the closing brackets still to come, the nearest first. -/
def code? : (fuel : Nat) → Mode → (brackets : List Char) → Text → Option (Text × Text)
  | 0, _, _, _ => none
  | _, _, _, [] => none
  | fuel + 1, mode, brackets, c :: rest =>
      if c = '\\' then none
      else
        match mode with
        | .short q => before [c] (code? fuel (if c = q then .code else .short q) brackets rest)
        | .long q =>
            if c = q && rest.take 2 = [q, q] then
              before [q, q, q] (code? fuel .code brackets (rest.drop 2))
            else before [c] (code? fuel (.long q) brackets rest)
        | .code =>
            if c = '\'' || c = '"' then
              if rest.take 2 = [c, c] then
                before [c, c, c] (code? fuel (.long c) brackets (rest.drop 2))
              else before [c] (code? fuel (.short c) brackets rest)
            else
              match closing? c with
              | some close =>
                  if brackets.length < maxDepth then
                    before [c] (code? fuel .code (close :: brackets) rest)
                  else none
              | none =>
                  if c = '#' then none
                  else if brackets.isEmpty && mayEnd c then
                    if (c = '!' || c = '=' || c = '<' || c = '>') && rest.take 1 = ['='] then
                      before [c, '='] (code? fuel .code brackets (rest.drop 1))
                    else if c = '>' || c = '<' then before [c] (code? fuel .code brackets rest)
                    else some ([], c :: rest)
                  else if c = ')' || c = ']' || c = '\x7d' then
                    match brackets with
                    | b :: more => if b = c then before [c] (code? fuel .code more rest) else none
                    | [] => none
                  else before [c] (code? fuel .code brackets rest)

/-- What ends a stretch of literal text: nothing more, a doubled brace, or a brace. -/
inductive LiteralEnd where
  | stop
  | doubled (rest : Text)
  | brace (rest : Text)

/-- Reads literal text up to a brace: the text as written, and what ends it. Only at the outermost
level are doubled braces text; there a single closing brace is a fault. -/
def literal? (raw : Bool) (level : Nat) : (fuel : Nat) → Text → Option (Text × LiteralEnd)
  | 0, _ => none
  | _, [] => some ([], .stop)
  | fuel + 1, c :: rest =>
      let keep (cs : Text) (r : Option (Text × LiteralEnd)) : Option (Text × LiteralEnd) :=
        r.map fun (text, e) => (cs ++ text, e)
      if !raw && c = '\\' && rest.take 1 = ['N'] then
        match rest.drop 1 with
        | '\x7b' :: more =>
            let name := more.takeWhile (· ≠ '\x7d')
            let after := more.dropWhile (· ≠ '\x7d')
            keep (c :: 'N' :: '\x7b' :: name ++ after.take 1)
              (literal? raw level fuel (after.drop 1))
        | more => keep (c :: 'N' :: more.take 1) (literal? raw level fuel (more.drop 1))
      else if !raw && c = '\\' && !rest.isEmpty && rest.take 1 ≠ ['\x7b'] &&
          rest.take 1 ≠ ['\x7d'] then
        keep (c :: rest.take 1) (literal? raw level fuel (rest.drop 1))
      else if c = '\x7b' || c = '\x7d' then
        if level = 0 && rest.take 1 = [c] then some ([c], .doubled (rest.drop 1))
        else if level = 0 && c = '\x7d' then none
        else some ([], .brace (c :: rest))
      else keep [c] (literal? raw level fuel rest)

/-- A blank in the code of a field. -/
def isGap (c : Char) : Bool :=
  c = ' ' || c = '\t' || c = '\n' || c = '\x0c'

/-- A blank behind the sign that asks for the code of a field to be shown. -/
def isSpace (c : Char) : Bool :=
  isGap c || c = '\r' || c = '\x0b'

/-- The rest behind the sign that asks for the code of a field to be shown, if there is one. -/
def skipShown (s : Text) : Text :=
  match s with
  | '=' :: rest => rest.dropWhile isSpace
  | _ => s

/-- The rest behind a conversion, if there is one. -/
def skipConversion? (s : Text) : Option Text :=
  match s with
  | '!' :: c :: rest => if c = 's' || c = 'r' || c = 'a' then some rest else none
  | '!' :: [] => none
  | _ => some s

mutual

/-- Reads fields and the literal text between them up to the end of the text or, inside a format, up
to a closing brace: the fields, and the rest. -/
def fields? (raw : Bool) : (fuel : Nat) → (level : Nat) → Text → Option (List Field × Text)
  | 0, _, _ => none
  | fuel + 1, level, s =>
      match literal? raw level (s.length + 1) s with
      | none => none
      | some (text, e) =>
          if !raw && (Escape.text? text).isNone then none
          else
            match e with
            | .stop => if level = 0 then some ([], []) else none
            | .doubled rest => fields? raw fuel level rest
            | .brace ('\x7b' :: rest) =>
                match field? raw fuel level rest with
                | none => none
                | some (f, rest) =>
                    (fields? raw fuel level rest).map fun (fs, after) => (f :: fs, after)
            | .brace rest => some ([], rest)

/-- Reads a field behind its opening brace. -/
def field? (raw : Bool) : (fuel : Nat) → (level : Nat) → Text → Option (Field × Text)
  | 0, _, _ => none
  | fuel + 1, level, s =>
      if 2 ≤ level then none
      else
        match code? (s.length + 1) .code [] s with
        | none => none
        | some (code, rest) =>
            if code.all isGap then none
            else
              match skipConversion? (skipShown rest) with
              | none => none
              | some (':' :: rest) =>
                  match fields? raw fuel (level + 1) rest with
                  | some (format, '\x7d' :: after) => some (.mk code (some format), after)
                  | _ => none
              | some ('\x7d' :: after) => some (.mk code none, after)
              | some _ => none

end

/-- The fields of a formatted string. -/
def ofBody? (raw : Bool) (body : Text) : Option (List Field) :=
  (fields? raw (2 * body.length + 2) 0 body).map (·.1)

end Field

end MarkupAudit
