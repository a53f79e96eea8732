/-!
# Text

Template text is a list of characters, so that an offset is a number of characters and every cut of
a text is a `take` or a `drop`. This module holds the few operations on texts that the rest of the
library shares: blank characters, stripping, and searching for a fixed phrase.
-/

namespace MarkupAudit

/-- A text: its characters in order. Offsets into it count characters. -/
abbrev Text := List Char

namespace Text

/-- The text of a string. -/
abbrev ofString (s : String) : Text := s.toList

/-- A blank character: a separator of words in any script, a line or paragraph separator, or one of
the control characters that separate lines and records. -/
def isBlank (c : Char) : Bool :=
  let n := c.toNat
  (0x09 ≤ n && n ≤ 0x0D) || (0x1C ≤ n && n ≤ 0x20) || n == 0x85 || n == 0xA0 || n == 0x1680 ||
    (0x2000 ≤ n && n ≤ 0x200A) || n == 0x2028 || n == 0x2029 || n == 0x202F || n == 0x205F ||
    n == 0x3000

/-- An ASCII letter. -/
def isLetter (c : Char) : Bool :=
  ('a' ≤ c && c ≤ 'z') || ('A' ≤ c && c ≤ 'Z')

/-- An ASCII digit. -/
def isAsciiDigit (c : Char) : Bool :=
  '0' ≤ c && c ≤ '9'

/-- The text without the blanks at its start. -/
def trimStart (s : Text) : Text :=
  s.dropWhile isBlank

/-- The text without the blanks at its end. -/
def trimEnd (s : Text) : Text :=
  (s.reverse.dropWhile isBlank).reverse

/-- The text without the blanks at either end. -/
def trim (s : Text) : Text :=
  trimEnd (trimStart s)

/-- The text after a given phrase, if the text starts with it. -/
def after? : (phrase : Text) → (s : Text) → Option Text
  | [], s => some s
  | _ :: _, [] => none
  | p :: phrase, c :: s => if p = c then after? phrase s else none

/-- Cuts a text behind the first occurrence of a phrase: the part up to and including the phrase,
and the rest. -/
def splitAfter? (phrase : Text) : Text → Option (Text × Text)
  | [] => if phrase.isEmpty then some ([], []) else none
  | c :: s =>
      match after? phrase (c :: s) with
      | some rest => some (phrase, rest)
      | none => (splitAfter? phrase s).map fun (before, rest) => (c :: before, rest)

/-- The pieces of a text between the occurrences of a separator character; one piece more than
there are separators. -/
def splitOn (separator : Char) : Text → List Text
  | [] => [[]]
  | c :: s =>
      if c = separator then [] :: splitOn separator s
      else
        match splitOn separator s with
        | [] => [[c]]
        | piece :: pieces => (c :: piece) :: pieces

/-- The maximal runs of a text that hold no blank. -/
def words (s : Text) : List Text :=
  let rec go : Text → Text → List Text
    | [], [] => []
    | [], word => [word.reverse]
    | c :: rest, word =>
        if isBlank c then if word.isEmpty then go rest [] else word.reverse :: go rest []
        else go rest (c :: word)
  go s []

/-- Joins texts with a separator between each two. -/
def join (separator : Text) : List Text → Text
  | [] => []
  | [s] => s
  | s :: t :: rest => s ++ separator ++ join separator (t :: rest)

/-- Every line break written as a line feed. -/
def unifyBreaks : Text → Text
  | [] => []
  | '\r' :: '\n' :: s => '\n' :: unifyBreaks s
  | '\r' :: s => '\n' :: unifyBreaks s
  | c :: s => c :: unifyBreaks s

theorem after?_eq_some_iff {phrase s rest : Text} :
    after? phrase s = some rest ↔ s = phrase ++ rest := by
  induction phrase generalizing s with
  | nil => simp [after?, eq_comm]
  | cons p phrase ih =>
      cases s with
      | nil => simp [after?]
      | cons c s =>
          by_cases h : p = c
          · simp [after?, h, ih]
          · simp [after?, h, Ne.symm h]

/-- The two parts of a cut make up the text, and the first ends with the phrase. -/
theorem append_of_splitAfter? {phrase s before rest : Text}
    (h : splitAfter? phrase s = some (before, rest)) :
    before ++ rest = s ∧ ∃ start, before = start ++ phrase := by
  induction s generalizing before rest with
  | nil =>
      simp only [splitAfter?] at h
      split at h
      · rename_i hp
        simp only [Option.some.injEq, Prod.mk.injEq] at h
        obtain ⟨rfl, rfl⟩ := h
        exact ⟨rfl, [], by simp_all⟩
      · simp at h
  | cons c s ih =>
      simp only [splitAfter?] at h
      split at h
      · rename_i tail htail
        simp only [Option.some.injEq, Prod.mk.injEq] at h
        obtain ⟨rfl, rfl⟩ := h
        exact ⟨(after?_eq_some_iff.1 htail).symm, [], rfl⟩
      · simp only [Option.map_eq_some_iff, Prod.exists] at h
        obtain ⟨front, tail, hcut, heq⟩ := h
        simp only [Prod.mk.injEq] at heq
        obtain ⟨rfl, rfl⟩ := heq
        obtain ⟨happ, start, hstart⟩ := ih hcut
        exact ⟨by simp [happ], c :: start, by simp [hstart]⟩

end Text

end MarkupAudit
