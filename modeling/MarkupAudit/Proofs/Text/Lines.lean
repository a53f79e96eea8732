import MarkupAudit.Proofs.Text.Splitting
import MarkupAudit.Template.Document

/-!
# Lines and columns

The places of a text are the characters of its lines and the ends of the lines. The offset of a place is
the length of the lines before it, each with its line break, and the column. A text up to an offset ends
in the line of the offset, with as many characters of it as the column says (`exists_split`). So the
place of an offset has that offset (`offset_place`). Offsets grow with the places (`offset_lt_offset`),
so every place is that of its offset (`place_offset`) and places grow with the offsets
(`place_before_place`).
-/

namespace MarkupAudit

/-- A place comes before another: in a line above, or in the same line and further left. -/
def Place.Before (p q : Place) : Prop :=
  p.line < q.line ∨ p.line = q.line ∧ p.column < q.column

theorem Place.before_or_before {p q : Place} (h : p ≠ q) : p.Before q ∨ q.Before p := by
  obtain ⟨line, column⟩ := p
  obtain ⟨line', column'⟩ := q
  simp only [ne_eq, Place.mk.injEq] at h
  simp only [Before]
  omega

namespace Text

/-- The lines of a text: what stands between its line breaks. -/
def linesOf (s : Text) : List Text :=
  splitOn '\n' s

/-- The offset at which a line starts, by the number of lines before it. -/
def lineStart (s : Text) (n : Nat) : Nat :=
  (((linesOf s).take n).map (·.length + 1)).sum

/-- A place of a text: one of its lines, and a column up to the end of that line. -/
structure HasPlace (s : Text) (p : Place) : Prop where
  line : 1 ≤ p.line ∧ p.line ≤ (linesOf s).length
  column : 0 ≤ p.column ∧
    ∃ line, (linesOf s)[(p.line - 1).toNat]? = some line ∧ p.column ≤ line.length

/-- The offset of a place: the length of the lines before it, each with its line break, and the
column. -/
def offset (s : Text) (p : Place) : Int :=
  lineStart s (p.line - 1).toNat + p.column

theorem lineStart_succ {s line : Text} {n : Nat} (h : (linesOf s)[n]? = some line) :
    lineStart s (n + 1) = lineStart s n + line.length + 1 := by
  rw [lineStart, lineStart, List.take_add_one, h]
  simp [Nat.add_assoc]

theorem lineStart_le_lineStart (s : Text) {n m : Nat} (h : n ≤ m) : lineStart s n ≤ lineStart s m := by
  obtain ⟨k, rfl⟩ := Nat.exists_eq_add_of_le h
  rw [lineStart, lineStart, List.take_add, List.map_append, List.sum_append]
  exact Nat.le_add_right _ _

/-- Offsets grow with the places. -/
theorem offset_lt_offset {s : Text} {p q : Place} (hp : s.HasPlace p) (hq : s.HasPlace q)
    (h : p.Before q) : offset s p < offset s q := by
  obtain ⟨⟨hpline, -⟩, -, line, hline, hcolumn⟩ := hp
  obtain ⟨-, hqcolumn, -⟩ := hq
  unfold offset
  rcases h with habove | ⟨hsame, hleft⟩
  · -- the whole line of `p`, with its line break, lies before `q`
    have hnext := lineStart_succ hline
    have hle := lineStart_le_lineStart s (show (p.line - 1).toNat + 1 ≤ (q.line - 1).toNat by omega)
    omega
  · rw [hsame]
    omega

/-- A text that is cut at an offset: the offset is in the line that the first part ends in. -/
theorem exists_split {s : Text} {pos : Nat} (h : pos ≤ s.length) :
    ∃ front last first rest, linesOf s = front ++ (last ++ first) :: rest ∧
      s.place pos = ⟨front.length + 1, last.length⟩ ∧
        pos = (front.map (·.length + 1)).sum + last.length := by
  obtain ⟨front, last, first, rest, hbefore, -, happend⟩ := splitOn_append '\n' (s.take pos) (s.drop pos)
  obtain ⟨start, htake, hstart, -⟩ := exists_of_splitOn hbefore
  have hcount := length_splitOn '\n' (s.take pos)
  have hlast := takeWhile_reverse_of_splitOn hbefore
  have hlength : (s.take pos).length = start.length + last.length := by
    rw [htake, List.length_append]
  have hpos : (s.take pos).length = pos := List.length_take_of_le h
  have hbound : bound s.length pos = pos := by
    unfold bound
    rw [if_neg (by omega)]
    omega
  rw [List.take_append_drop] at happend
  rw [hbefore, List.length_append, List.length_singleton] at hcount
  refine ⟨front, last, first, rest, happend, ?_, by omega⟩
  simp only [place, hbound, hlast, List.length_reverse, Place.mk.injEq]
  constructor <;> omega

theorem lineStart_append {s : Text} {front rest : List Text} (h : linesOf s = front ++ rest) :
    lineStart s front.length = (front.map (·.length + 1)).sum := by
  rw [lineStart, h, List.take_left']
  rfl

theorem hasPlace_place {s : Text} {pos : Nat} (h : pos ≤ s.length) : s.HasPlace (s.place pos) := by
  obtain ⟨front, last, first, rest, hlines, hplace, -⟩ := exists_split h
  rw [hplace]
  constructor
  · simp only [hlines, List.length_append, List.length_cons]
    omega
  · refine ⟨by simp, last ++ first, ?_, ?_⟩
    · simp [hlines]
    · simp only [List.length_append]
      omega

theorem offset_place {s : Text} {pos : Nat} (h : pos ≤ s.length) : offset s (s.place pos) = pos := by
  obtain ⟨front, last, first, rest, hlines, hplace, hpos⟩ := exists_split h
  have hstart := lineStart_append hlines
  rw [hplace, offset]
  simp only [add_sub_cancel_right, Int.toNat_natCast]
  omega

/-- The lines of a text and the line breaks between them make up the text. -/
theorem lineStart_length (s : Text) : lineStart s (linesOf s).length = s.length + 1 := by
  obtain ⟨front, last, hlines⟩ : ∃ front last, linesOf s = front ++ [last] := by
    obtain ⟨front, last, -, -, hlines, -⟩ := splitOn_append '\n' s []
    exact ⟨front, last, hlines⟩
  obtain ⟨start, hs, hlength, -⟩ := exists_of_splitOn hlines
  have hall : s.length = start.length + last.length := by
    rw [hs, List.length_append]
  rw [lineStart, List.take_length, hlines, List.map_append, List.sum_append, ← hlength, hall]
  simp [Nat.add_assoc]

theorem offset_bounds {s : Text} {p : Place} (h : s.HasPlace p) :
    0 ≤ offset s p ∧ offset s p ≤ s.length := by
  obtain ⟨⟨hlow, hhigh⟩, hnonneg, line, hline, hcolumn⟩ := h
  have hnext := lineStart_succ hline
  have hle := lineStart_le_lineStart s
    (show (p.line - 1).toNat + 1 ≤ (linesOf s).length by omega)
  have hwhole := lineStart_length s
  unfold offset
  omega

/-- A place is that of its offset, because no other place has this offset. -/
theorem place_offset {s : Text} {p : Place} (h : s.HasPlace p) : s.place (offset s p) = p := by
  obtain ⟨hlow, hhigh⟩ := offset_bounds h
  obtain ⟨pos, hpos⟩ := Int.eq_ofNat_of_zero_le hlow
  have hle : pos ≤ s.length := by omega
  have hother := hasPlace_place hle
  have hoffset := offset_place hle
  rw [hpos]
  by_contra hne
  rcases Place.before_or_before hne with hbefore | hbefore
  · have := offset_lt_offset hother h hbefore
    omega
  · have := offset_lt_offset h hother hbefore
    omega

/-- Places grow with the offsets. -/
theorem place_before_place {s : Text} {pos next : Nat} (hlt : pos < next) (hnext : next ≤ s.length) :
    (s.place pos).Before (s.place next) := by
  have hpos : pos ≤ s.length := by omega
  have hoffset := offset_place hpos
  have hoffset' := offset_place hnext
  have hne : s.place pos ≠ s.place next := by
    intro heq
    rw [heq] at hoffset
    omega
  rcases Place.before_or_before hne with hbefore | hbefore
  · exact hbefore
  · have := offset_lt_offset (hasPlace_place hnext) (hasPlace_place hpos) hbefore
    omega

end Text

end MarkupAudit
