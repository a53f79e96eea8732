import MarkupAudit.Markup.StartTag
import MarkupAudit.Text.Quoted

/-!
# Reading markup

Markup is read from left to right for its first start tag. The rest is read too, because markup that
cannot be read is rejected wherever the fault lies.

A text is read twice: first as if more could follow, which stops at the first construct that is not
complete, and then, from there on, as if nothing follows.
-/

namespace MarkupAudit

/-- Why markup is rejected. -/
inductive Rejection where
  /-- A declaration in brackets has no name; the text it starts with is given. -/
  | unnamed (text : Text)
  /-- A declaration in brackets has an unknown name. -/
  | unknown (name : Text)
  /-- A number has too many digits. -/
  | numeral (fault : NumeralTooLong)
  deriving DecidableEq, Repr

/-- The words for a fault in a declaration. -/
def Rejection.reason : Rejection → String
  | .unnamed text => "expected name token at " ++ String.ofList (Text.quoted text)
  | .unknown name =>
      "unknown status keyword " ++ String.ofList (Text.quoted name) ++ " in marked section"
  | .numeral fault => fault.message

/-- The fault in words. -/
def Rejection.message (r : Rejection) : String :=
  match r with
  | .numeral fault => fault.message
  | _ =>
      "The markup you provided was rejected by the parser. Trying a different parser or a " ++
        "different encoding may help.\n\nOriginal exception(s) from parser:\n AssertionError: " ++
        r.reason

namespace Markup

/-- What a construct at the head of a text turns out to be. -/
inductive Construct where
  /-- It is not complete. -/
  | incomplete
  /-- Something that ends here. -/
  | passed (rest : Text)
  /-- A start tag. -/
  | start (tag : StartTag) (rest : Text)
  /-- An end tag that ends raw text. -/
  | endRaw (rest : Text)

/-- The text behind the first `>`, if there is one. -/
def behindAngle? (s : Text) : Option Text :=
  match s.dropWhile (· ≠ '>') with
  | [] => none
  | _ :: rest => some rest

/-- The text behind a `>`, as a construct that was passed. -/
def passAngle (s : Text) : Construct :=
  match behindAngle? s with
  | none => .incomplete
  | some rest => .passed rest

/-- The text behind some characters with blanks before each of them, if a text starts so. -/
def spaced? : (chars : Text) → Text → Option Text
  | [], s => some s
  | c :: chars, s =>
      match s.dropWhile Text.isBlank with
      | d :: rest => if c = d then spaced? chars rest else none
      | [] => none

/-- The text behind the first place where one phrase stands and some characters, with blanks before
each of them, follow. -/
def behindSpaced? (phrase chars : Text) : Text → Option Text
  | [] => none
  | c :: s =>
      match (Text.after? phrase (c :: s)).bind (spaced? chars) with
      | some rest => some rest
      | none => behindSpaced? phrase chars s

/-- Reads a comment behind its opening. -/
def comment (s : Text) : Construct :=
  match behindSpaced? ['-', '-'] ['>'] s with
  | none => .incomplete
  | some rest => .passed rest

/-- A character of the name of a declaration. -/
def isDeclarationChar (c : Char) : Bool :=
  Text.isLetter c || Text.isAsciiDigit c || c = '-' || c = '_' || c = '.'

/-- Reads a declaration in brackets, which starts at the head of a text. Its name decides how it
ends. -/
def section? (s : Text) : Except Rejection Construct :=
  let body := s.drop 3
  match body with
  | [] => .ok .incomplete
  | c :: _ =>
      if !Text.isLetter c then .error (.unnamed (s.take 20))
      else
        let name := body.takeWhile isDeclarationChar
        let behind := body.dropWhile isDeclarationChar
        if (behind.dropWhile Text.isBlank).isEmpty then .ok .incomplete
        else
          let key := String.ofList (Text.lower name)
          let close? : Option (Option Text) :=
            if ["temp", "cdata", "ignore", "include", "rcdata"].contains key then
              some (behindSpaced? [']'] [']', '>'] body)
            else if ["if", "else", "endif"].contains key then
              some (behindSpaced? [']'] ['>'] body)
            else none
          match close? with
          | none => .error (.unknown (name ++ behind.takeWhile Text.isBlank))
          | some none => .ok .incomplete
          | some (some rest) => .ok (.passed rest)

/-- Reads what starts with `<!` at the head of a text. -/
def declaration (s : Text) : Except Rejection Construct :=
  if s.take 3 = ['<', '!', '['] then section? s
  else if Text.lower (s.take 9) = "<!doctype".toList then .ok (passAngle (s.drop 9))
  else .ok (passAngle (s.drop 2))

/-- A character of the name of an end tag. -/
def isEndNameChar (c : Char) : Bool :=
  Text.isLetter c || Text.isAsciiDigit c || c = '-' || c = '.' || c = ':' || c = '_'

/-- The name of an end tag that holds nothing else, if that is what stands at the head of a text. -/
def endName? (s : Text) : Option (Text × Text) :=
  let body := (s.drop 2).dropWhile Text.isBlank
  match body with
  | c :: _ =>
      if Text.isLetter c then
        match (body.dropWhile isEndNameChar).dropWhile Text.isBlank with
        | '>' :: rest => some (body.takeWhile isEndNameChar, rest)
        | _ => none
      else none
  | [] => none

/-- Reads what starts with `</` at the head of a text. -/
def endTag (raw : Bool) (s : Text) : Construct :=
  match behindAngle? (s.drop 1) with
  | none => .incomplete
  | some rest =>
      match endName? s with
      | some (_, rest) => .endRaw rest
      | none =>
          if raw then .passed rest
          else
            match s.drop 2 with
            | c :: _ =>
                if Text.isLetter c then passAngle ((s.drop 2).dropWhile StartTag.isNameChar)
                else if c = '>' then .passed (s.drop 3)
                else passAngle (s.drop 2)
            | [] => passAngle (s.drop 2)

/-- Reads the construct that starts with `<` at the head of a text. Nothing if the character stands
for itself. -/
def construct? (raw : Bool) (s : Text) : Except Rejection (Option Construct) :=
  match s with
  | '<' :: c :: _ =>
      if Text.isLetter c then
        match StartTag.extent s with
        | .incomplete => .ok (some .incomplete)
        | .upTo rest =>
            match StartTag.read? s rest with
            | .error fault => .error (.numeral fault)
            | .ok none => .ok (some (.passed rest))
            | .ok (some tag) => .ok (some (.start tag rest))
      else if c = '/' then .ok (some (endTag raw s))
      else if s.take 4 = ['<', '!', '-', '-'] then .ok (some (comment (s.drop 4)))
      else if c = '?' then .ok (some (passAngle (s.drop 2)))
      else if c = '!' then (declaration s).map some
      else .ok none
  | _ => .ok none

/-- The elements whose content is raw text. -/
def isRawElement (name : Text) : Bool :=
  name = "script".toList || name = "style".toList

/-- Whether the end tag of a raw element starts at the head of a text. -/
def atRawEnd (element : Text) (s : Text) : Bool :=
  s.take 2 = ['<', '/'] &&
    match endName? s with
    | some (name, _) => Text.lower name = element
    | none => false

/-- The text from the end tag of a raw element on. -/
def rawEnd? (element : Text) : Text → Option Text
  | [] => none
  | c :: s => if atRawEnd element (c :: s) then some (c :: s) else rawEnd? element s

/-- What a reference in the text between tags turns out to be: passed, or a reason to stop, perhaps
some characters further on. -/
inductive TextReference where
  | passed (rest : Text)
  | stop (rest : Text)

/-- Reads a reference in the text between tags, `&` included. What it stands for is of no interest,
but a number in it may not have too many digits. -/
def textReference (last : Bool) (s : Text) : Except Rejection TextReference :=
  match s with
  | '&' :: '#' :: body =>
      let hex := match body with
        | x :: more => (x = 'x' || x = 'X') && (more.head?.map Reference.isHexDigit).getD false
        | [] => false
      let digits :=
        if hex then body.take 1 ++ (body.drop 1).takeWhile Reference.isHexDigit
        else body.takeWhile Text.isAsciiDigit
      let after := body.drop digits.length
      match digits, after with
      | _ :: _, c :: _ =>
          if !hex && Reference.isHexDigit c then
            .ok (if s.contains ';' then .stop (s.drop 2) else .stop s)
          else if hex || digits.length ≤ NumeralTooLong.limit then
            .ok (.passed (Reference.dropSemicolon after))
          else .error (.numeral ⟨digits.length⟩)
      | _, _ => .ok (if s.contains ';' then .stop (s.drop 2) else .stop s)
  | '&' :: c :: body =>
      if Text.isLetter c then
        let isNameChar (d : Char) : Bool :=
          Text.isLetter d || Text.isAsciiDigit d || d = '-' || d = '.'
        let name := body.takeWhile isNameChar
        match body.drop name.length with
        | d :: rest => .ok (.passed (Reference.dropSemicolon (d :: rest)))
        | [] =>
            let shorter := name.reverse.dropWhile fun d => d ≠ '-' && d ≠ '.'
            if shorter.isEmpty then
              .ok (.stop (if last && body.isEmpty then s.drop 1 else s))
            else .ok (.passed (s.drop (shorter.length + 1)))
      else .ok (.passed (s.drop 1))
  | _ => .ok (.stop s)

/-- How far a reading has come. -/
structure Progress where
  /-- The first start tag. -/
  first : Option StartTag
  /-- The element whose raw text is being read. -/
  raw : Option Text
  /-- The text that is left. -/
  rest : Text

/-- The text behind an incomplete construct that nothing follows: behind the next `>`, or from the
next `<` on, or behind the first character. -/
def giveUp (s : Text) : Text :=
  match behindAngle? (s.drop 1) with
  | some rest => rest
  | none =>
      match (s.drop 1).dropWhile (· ≠ '<') with
      | [] => s.drop 1
      | rest => rest

/-- Reads a text up to its end or to where reading has to stop; `last` says that nothing follows the
text. Each step takes at least one character, so `fuel` is the length of the text. -/
def run (last : Bool) : (fuel : Nat) → Progress → Except Rejection Progress
  | 0, p => .ok p
  | fuel + 1, p =>
      let next? : Option Text :=
        match p.raw with
        | some element => rawEnd? element p.rest
        | none => some (p.rest.dropWhile fun c => c ≠ '<' && c ≠ '&')
      match next? with
      | none => .ok p
      | some [] => .ok { p with rest := [] }
      | some ('&' :: s) =>
          match textReference last ('&' :: s) with
          | .error r => .error r
          | .ok (.passed rest) => run last fuel { p with rest := rest }
          | .ok (.stop rest) => .ok { p with rest := rest }
      | some s =>
          match construct? p.raw.isSome s with
          | .error r => .error r
          | .ok none =>
              if s.length = 1 then .ok { p with rest := s }
              else run last fuel { p with rest := s.drop 1 }
          | .ok (some .incomplete) =>
              if last then run last fuel { p with rest := giveUp s } else .ok { p with rest := s }
          | .ok (some (.passed rest)) => run last fuel { p with rest := rest }
          | .ok (some (.endRaw rest)) => run last fuel { p with raw := none, rest := rest }
          | .ok (some (.start tag rest)) =>
              let raw := if !tag.closed && isRawElement tag.name then some tag.name else p.raw
              run last fuel { first := p.first <|> some tag, raw := raw, rest := rest }

/-- The first start tag of a text of markup. -/
def firstTag? (s : Text) : Except Rejection (Option StartTag) :=
  match run false (s.length + 1) ⟨none, none, s⟩ with
  | .error r => .error r
  | .ok p => (run true (p.rest.length + 1) p).map (·.first)

end Markup

end MarkupAudit
