import MarkupAudit.Text.Basic

/-!
# Sets of characters

A property of characters is given by the ranges of code points that have it. A table writes the
ranges in ascending order, in hexadecimal, with blanks or line breaks between them: `30-39 41 5F`.
-/

namespace MarkupAudit

/-- A set of characters as disjoint ranges of code points in ascending order. -/
structure CharRanges where
  ranges : Array (Nat × Nat)

namespace CharRanges

/-- The value of a hexadecimal digit in upper case; zero for any other character. -/
def digit (c : Char) : Nat :=
  if '0' ≤ c && c ≤ '9' then c.toNat - 48
  else if 'A' ≤ c && c ≤ 'F' then c.toNat - 55
  else 0

/-- The number that hexadecimal digits write. -/
def hex (s : Text) : Nat :=
  s.foldl (fun n c => n * 16 + digit c) 0

/-- Reads one range: `30-39`, or `41` for a single code point. -/
def range (s : Text) : Nat × Nat :=
  match Text.splitOn '-' s with
  | [a, b] => (hex a, hex b)
  | _ => (hex s, hex s)

/-- Reads a table of ranges. -/
def ofTable (table : String) : CharRanges :=
  ⟨((Text.words table.toList).map range).toArray⟩

/-- The number of ranges between `lo` and `hi` that start at or before a code point, found by
halving; `fuel` bounds the number of halvings. -/
def search (ranges : Array (Nat × Nat)) (n : Nat) : (fuel lo hi : Nat) → Nat
  | 0, lo, _ => lo
  | fuel + 1, lo, hi =>
      if hi ≤ lo then lo
      else
        let mid := (lo + hi) / 2
        if (ranges.getD mid (0, 0)).1 ≤ n then search ranges n fuel (mid + 1) hi
        else search ranges n fuel lo mid

/-- Whether a character is in the set. -/
def contains (t : CharRanges) (c : Char) : Bool :=
  match search t.ranges c.toNat 32 0 t.ranges.size with
  | 0 => false
  | i + 1 => c.toNat ≤ (t.ranges.getD i (0, 0)).2

end CharRanges

end MarkupAudit
