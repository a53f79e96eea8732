import MarkupAudit.Markup.Reference
import MarkupAudit.Text.Case

/-!
# Start tags

How the attributes of a start tag are read. Reading is lenient: names may hold almost any
characters, a value may be quoted or bare, and slashes count as blanks unless they end the tag. A
quotation mark that is never closed is not the start of a value.
-/

namespace MarkupAudit

/-- A start tag as read: its name in lower case, and its attributes in order, with the value of
those that have one. -/
structure StartTag where
  name : Text
  attributes : List (Text × Option Text)
  closed : Bool
  deriving DecidableEq, Repr

namespace StartTag

/-- A place in markup: the character before it and the text behind it. -/
structure Cursor where
  before : Char
  rest : Text

/-- Moves on over some characters and leaves the rest. -/
def Cursor.pass (c : Cursor) (chars rest : Text) : Cursor :=
  ⟨chars.getLast?.getD c.before, rest⟩

/-- Moves on while a condition holds. -/
def Cursor.passWhile (c : Cursor) (p : Char → Bool) : Cursor :=
  c.pass (c.rest.takeWhile p) (c.rest.dropWhile p)

/-- A character of the name of a tag. -/
def isNameChar (c : Char) : Bool :=
  !(c = '\t' || c = '\n' || c = '\r' || c = '\x0c' || c = ' ' || c = '/' || c = '>' || c = '\x00')

/-- A character that may start the name of an attribute. -/
def startsAttribute (c : Char) : Bool :=
  !(Text.isBlank c || c = '/' || c = '>')

/-- A character that may continue the name of an attribute. -/
def continuesAttribute (c : Char) : Bool :=
  startsAttribute c && c ≠ '='

/-- A character behind which the name of an attribute may start. -/
def precedesAttribute (c : Char) : Bool :=
  c = '\'' || c = '"' || c = '/' || Text.isBlank c

/-- A character of a bare value. -/
def isBareChar (c : Char) : Bool :=
  !(c = '>' || Text.isBlank c)

/-- Passes over blanks, and over slashes that do not end a tag. -/
def Cursor.passGaps (before : Char) : Text → Cursor
  | [] => ⟨before, []⟩
  | c :: rest =>
      if Text.isBlank c || (c = '/' && rest.head? ≠ some '>') then Cursor.passGaps c rest
      else ⟨before, c :: rest⟩

/-- The value of an attribute as written, with the place behind it: quoted, or bare. An open
quotation mark is no value. -/
def value? (c : Cursor) : Option (Text × Cursor) :=
  match c.rest with
  | q :: rest =>
      if q = '\'' || q = '"' then
        if rest.contains q then
          let inner := rest.takeWhile (· ≠ q)
          some (inner, ⟨q, rest.drop (inner.length + 1)⟩)
        else none
      else some (c.rest.takeWhile isBareChar, c.passWhile isBareChar)
  | [] => some ([], c)

/-- The value of an attribute behind its name, with the place behind it, if a `=` follows. If the
value would be an open quotation mark, a blank before the mark is left as the value's end, or the
last of several `=` becomes the start of a bare value; else there is no value. -/
def assigned? (c : Cursor) : Option (Text × Cursor) :=
  let signs := c.passWhile Text.isBlank
  match signs.rest with
  | '=' :: _ =>
      let behind := signs.passWhile (· = '=')
      let start := behind.passWhile Text.isBlank
      match value? start with
      | some r => some r
      | none =>
          let blanks := behind.rest.takeWhile Text.isBlank
          if !blanks.isEmpty then
            some ([], behind.pass blanks.dropLast (behind.rest.drop (blanks.length - 1)))
          else if (signs.rest.takeWhile (· = '=')).length > 1 then
            let last : Cursor := ⟨'=', '=' :: behind.rest⟩
            some (last.rest.takeWhile isBareChar, last.passWhile isBareChar)
          else none
  | _ => none

/-- Reads an attribute: its name and value as written, and the place behind it. -/
def attribute? (c : Cursor) : Option ((Text × Option Text) × Cursor) :=
  match c.rest with
  | first :: more =>
      if precedesAttribute c.before && startsAttribute first then
        let name := first :: more.takeWhile continuesAttribute
        let named := c.pass name (more.dropWhile continuesAttribute)
        match assigned? named with
        | some (value, after) => some ((name, some value), Cursor.passGaps after.before after.rest)
        | none => some ((name, none), Cursor.passGaps named.before named.rest)
      else none
  | [] => none

/-- The place behind as many attributes as can be read; `fuel` bounds their number. -/
def passAttributes : (fuel : Nat) → Cursor → Cursor
  | 0, c => c
  | fuel + 1, c =>
      match attribute? c with
      | some (_, after) => passAttributes fuel after
      | none => c

/-- The end of a start tag, found before its parts are read. -/
inductive Extent where
  /-- The tag goes on behind the text at hand. -/
  | incomplete
  /-- The text behind the tag. -/
  | upTo (rest : Text)

/-- Finds the end of the start tag at the head of a text. -/
def extent (s : Text) : Extent :=
  let named := (Cursor.mk '<' (s.drop 1)).passWhile isNameChar
  let gap := named.passWhile fun c => Text.isBlank c || c = '/'
  let c := (passAttributes s.length gap).passWhile Text.isBlank
  match c.rest with
  | [] => .incomplete
  | '>' :: rest => .upTo rest
  | '/' :: '>' :: rest => .upTo rest
  | d :: rest => if d = '/' || d = '=' || Text.isLetter d then .incomplete else .upTo (d :: rest)

/-- Reads attributes up to the given number of characters before the end of the text: the attributes,
and the text behind them. Values have their character references replaced. -/
def attributesUpTo (left : Nat) :
    (fuel : Nat) → Cursor → Except NumeralTooLong (List (Text × Option Text) × Text)
  | 0, c => .ok ([], c.rest)
  | fuel + 1, c =>
      if c.rest.length ≤ left then .ok ([], c.rest)
      else
        match attribute? c with
        | none => .ok ([], c.rest)
        | some ((name, value), after) =>
            let decoded : Except NumeralTooLong (Option Text) :=
              match value with
              | none => .ok none
              | some v => (Reference.decode v).map some
            match decoded with
            | .error fault => .error fault
            | .ok value =>
                (attributesUpTo left fuel after).map fun (more, rest) =>
                  ((Text.lower name, value) :: more, rest)

/-- Reads the start tag at the head of a text, whose end is known: nothing if the text up to there
is no start tag after all. -/
def read? (s rest : Text) : Except NumeralTooLong (Option StartTag) :=
  let named := (Cursor.mk '<' (s.drop 1)).passWhile isNameChar
  let start := Cursor.passGaps named.before named.rest
  let name := Text.lower ((s.drop 1).takeWhile isNameChar)
  match attributesUpTo rest.length s.length start with
  | .error fault => .error fault
  | .ok (attributes, behind) =>
      let closer := Text.trim (behind.take (behind.length - rest.length))
      if closer = ['>'] then .ok (some ⟨name, attributes, false⟩)
      else if closer = ['/', '>'] then .ok (some ⟨name, attributes, true⟩)
      else .ok none

end StartTag

end MarkupAudit
