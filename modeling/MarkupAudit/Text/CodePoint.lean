import MarkupAudit.Text.Basic

/-!
# Texts of code points

A string literal or a settings string may spell out code points that are no characters: one half of a
surrogate pair without the other. Such a string is a list of code points. Every text is one, and a
list of code points is a text if all of them are characters.
-/

namespace MarkupAudit

/-- A code point: the number of a character, or of one half of a surrogate pair. -/
abbrev CodePoint := Fin 0x110000

namespace CodePoint

/-- The code point of a character. -/
def ofChar (c : Char) : CodePoint :=
  ⟨c.toNat, by
    have := c.valid
    simp only [UInt32.isValidChar, Nat.isValidChar] at this
    have : c.toNat = c.val.toNat := rfl
    omega⟩

/-- The character of a code point, if it has one. -/
def char? (p : CodePoint) : Option Char :=
  if p.val.isValidChar then some (Char.ofNat p.val) else none

/-- The code point of a number that is small enough. -/
def ofNat? (n : Nat) : Option CodePoint :=
  if h : n < 0x110000 then some ⟨n, h⟩ else none

theorem char?_ofChar (c : Char) : (ofChar c).char? = some c := by
  have h : c.toNat.isValidChar := c.valid
  simp only [char?, ofChar, h, if_true, Option.some.injEq]
  exact Char.ofNat_toNat c

end CodePoint

/-- A string: its code points in order. -/
abbrev CodeText := List CodePoint

namespace CodeText

/-- A text as a string of code points. -/
def ofText (s : Text) : CodeText :=
  s.map CodePoint.ofChar

/-- A literal text as a string of code points. -/
def ofString (s : String) : CodeText :=
  ofText s.toList

/-- The text of a string, if all of its code points are characters. -/
def text? : CodeText → Option Text
  | [] => some []
  | p :: ps =>
      match p.char?, text? ps with
      | some c, some cs => some (c :: cs)
      | _, _ => none

/-- The text of a string, with the replacement character for each code point that is no character. -/
def standIn (s : CodeText) : Text :=
  s.map fun p => p.char?.getD '\uFFFD'

/-- Whether a string holds something else than blanks. -/
def isVisible (s : CodeText) : Bool :=
  s.any fun p =>
    match p.char? with
    | some c => !Text.isBlank c
    | none => true

@[simp] theorem text?_ofText (s : Text) : text? (ofText s) = some s := by
  induction s with
  | nil => rfl
  | cons c s ih =>
      simp only [ofText, List.map_cons, text?, CodePoint.char?_ofChar]
      rw [ofText] at ih
      simp [ih]

end CodeText

end MarkupAudit
