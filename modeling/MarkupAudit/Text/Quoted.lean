import MarkupAudit.Text.CodePoint
import MarkupAudit.Text.Printable

/-!
# Quoted text

A text in quotation marks, as messages show it. Single marks are used unless the text holds single
marks and no double ones. Characters that cannot be printed, and code points that are no characters,
are shown by their numbers.
-/

namespace MarkupAudit.Text

/-- A number in hexadecimal digits of a fixed width. -/
def hexWidth (width n : Nat) : Text :=
  let digits := Nat.toDigits 16 n
  List.replicate (width - digits.length) '0' ++ digits

/-- A character as it is shown between the given quotation marks. -/
def quotedChar (mark : Char) (c : Char) : Text :=
  if c = mark || c = '\\' then ['\\', c]
  else if c = '\n' then ['\\', 'n']
  else if c = '\r' then ['\\', 'r']
  else if c = '\t' then ['\\', 't']
  else if isPrintable c then [c]
  else if c.toNat < 0x100 then '\\' :: 'x' :: hexWidth 2 c.toNat
  else if c.toNat < 0x10000 then '\\' :: 'u' :: hexWidth 4 c.toNat
  else '\\' :: 'U' :: hexWidth 8 c.toNat

end MarkupAudit.Text

namespace MarkupAudit

/-- A code point as it is shown between the given quotation marks. -/
def CodePoint.quoted (mark : Char) (p : CodePoint) : Text :=
  match p.char? with
  | some c => Text.quotedChar mark c
  | none => '\\' :: 'u' :: Text.hexWidth 4 p.val

/-- A string in quotation marks. -/
def CodeText.quoted (s : CodeText) : Text :=
  let has (c : Char) : Bool := s.contains (CodePoint.ofChar c)
  let mark := if has '\'' && !has '"' then '"' else '\''
  mark :: s.flatMap (CodePoint.quoted mark) ++ [mark]

/-- A text in quotation marks. -/
def Text.quoted (s : Text) : Text :=
  CodeText.quoted (CodeText.ofText s)

end MarkupAudit
