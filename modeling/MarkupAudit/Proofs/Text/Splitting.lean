import Mathlib.Algebra.BigOperators.Group.List.Basic
import Mathlib.Algebra.Ring.Nat
import Mathlib.Data.List.TakeWhile
import MarkupAudit.Text.Basic

/-!
# Pieces of a text

A text is cut at a separator into pieces that hold none, and the pieces joined by the separator are the
text (`join_splitOn`, `splitOn_join`). Where two texts stand side by side, the last piece of the first
runs on into the first piece of the second (`splitOn_append`).
-/

namespace MarkupAudit.Text

theorem splitOn_ne_nil (separator : Char) (s : Text) : splitOn separator s ≠ [] := by
  cases s with
  | nil => exact List.cons_ne_nil _ _
  | cons c s =>
      rw [splitOn]
      split
      · exact List.cons_ne_nil _ _
      · split <;> exact List.cons_ne_nil _ _

/-- The pieces of a text, put together again, are the text. -/
theorem join_splitOn (separator : Char) (s : Text) :
    join [separator] (splitOn separator s) = s := by
  induction s with
  | nil => rfl
  | cons c s ih =>
      obtain ⟨piece, pieces, hsplit⟩ := List.exists_cons_of_ne_nil (splitOn_ne_nil separator s)
      rw [splitOn, hsplit]
      rw [hsplit] at ih
      split
      · rename_i hc
        rw [join, ih, hc]
        rfl
      · rw [← ih]
        cases pieces <;> rfl

theorem not_mem_of_mem_splitOn {separator : Char} {s piece : Text}
    (h : piece ∈ splitOn separator s) : separator ∉ piece := by
  induction s generalizing piece with
  | nil =>
      rw [List.mem_singleton.1 h]
      exact List.not_mem_nil
  | cons c s ih =>
      obtain ⟨first, pieces, hsplit⟩ := List.exists_cons_of_ne_nil (splitOn_ne_nil separator s)
      rw [splitOn, hsplit] at h
      rw [hsplit] at ih
      split at h
      · rcases List.mem_cons.1 h with rfl | h
        · exact List.not_mem_nil
        · exact ih h
      · rename_i hc
        rcases List.mem_cons.1 h with rfl | h
        · exact List.not_mem_cons_of_ne_of_not_mem (Ne.symm hc) (ih List.mem_cons_self)
        · exact ih (List.mem_cons_of_mem _ h)

theorem splitOn_of_not_mem {separator : Char} {s : Text} (h : separator ∉ s) :
    splitOn separator s = [s] := by
  induction s with
  | nil => rfl
  | cons c s ih =>
      rw [List.mem_cons, not_or] at h
      rw [splitOn, if_neg (Ne.symm h.1), ih h.2]

/-- Of two texts side by side, the last piece of the one and the first piece of the other make up one
piece. -/
theorem splitOn_append (separator : Char) (u v : Text) :
    ∃ front last first rest, splitOn separator u = front ++ [last] ∧
      splitOn separator v = first :: rest ∧
        splitOn separator (u ++ v) = front ++ (last ++ first) :: rest := by
  induction u with
  | nil =>
      obtain ⟨first, rest, hsplit⟩ := List.exists_cons_of_ne_nil (splitOn_ne_nil separator v)
      exact ⟨[], [], first, rest, rfl, hsplit, by simpa using hsplit⟩
  | cons c u ih =>
      obtain ⟨front, last, first, rest, hu, hv, happend⟩ := ih
      by_cases hc : c = separator
      · refine ⟨[] :: front, last, first, rest, ?_, hv, ?_⟩
        · simp [splitOn, hc, hu]
        · simp [splitOn, hc, happend]
      · cases front with
        | nil =>
            refine ⟨[], c :: last, first, rest, ?_, hv, ?_⟩
            · simp [splitOn, hc, hu]
            · simp [splitOn, hc, happend]
        | cons piece pieces =>
            refine ⟨(c :: piece) :: pieces, last, first, rest, ?_, hv, ?_⟩
            · simp [splitOn, hc, hu]
            · simp [splitOn, hc, happend]

/-- The pieces of a text that was joined are those it was joined from. -/
theorem splitOn_join {separator : Char} {pieces : List Text} (hne : pieces ≠ [])
    (h : ∀ piece ∈ pieces, separator ∉ piece) :
    splitOn separator (join [separator] pieces) = pieces := by
  induction pieces with
  | nil => exact absurd rfl hne
  | cons piece pieces ih =>
      have hpiece := h piece List.mem_cons_self
      cases pieces with
      | nil => exact splitOn_of_not_mem hpiece
      | cons next pieces =>
          have hrest := ih (List.cons_ne_nil _ _) fun p hp => h p (List.mem_cons_of_mem _ hp)
          obtain ⟨front, last, first, rest, hu, hv, happend⟩ :=
            splitOn_append separator piece (separator :: join [separator] (next :: pieces))
          rw [splitOn_of_not_mem hpiece] at hu
          rw [splitOn, if_pos rfl, hrest] at hv
          obtain ⟨rfl, rfl⟩ := List.cons.inj hv
          obtain ⟨rfl, rfl⟩ : front = [] ∧ last = piece := by
            cases front with
            | nil => exact ⟨rfl, (List.cons.inj hu).1.symm⟩
            | cons f fs => simp at hu
          rw [join, List.append_assoc, List.singleton_append, happend]
          simp

/-- There is one piece more than there are separators. -/
theorem length_splitOn (separator : Char) (s : Text) :
    (splitOn separator s).length = s.count separator + 1 := by
  induction s with
  | nil => rfl
  | cons c s ih =>
      obtain ⟨piece, pieces, hsplit⟩ := List.exists_cons_of_ne_nil (splitOn_ne_nil separator s)
      rw [hsplit] at ih
      by_cases hc : c = separator
      · simp only [splitOn, hc, if_true, List.length_cons, List.count_cons_self, hsplit] at ih ⊢
        omega
      · rw [splitOn, if_neg hc, hsplit, List.count_cons_of_ne hc]
        exact ih

/-- A text up to its last piece is empty or ends with a separator. Its characters are those of the
pieces and a separator behind each of them. -/
theorem exists_of_splitOn {separator : Char} {s last : Text} {front : List Text}
    (h : splitOn separator s = front ++ [last]) :
    ∃ start, s = start ++ last ∧ start.length = (front.map (·.length + 1)).sum ∧
      (start = [] ∨ ∃ u, start = u ++ [separator]) := by
  rw [← join_splitOn separator s, h]
  clear h
  induction front with
  | nil => exact ⟨[], rfl, rfl, .inl rfl⟩
  | cons piece front ih =>
      obtain ⟨start, hjoin, hlength, hend⟩ := ih
      have hstep : join [separator] (piece :: (front ++ [last])) =
          piece ++ [separator] ++ join [separator] (front ++ [last]) := by
        cases front <;> rfl
      refine ⟨piece ++ [separator] ++ start, ?_, ?_, .inr ?_⟩
      · rw [List.cons_append, hstep, hjoin, List.append_assoc _ start]
      · simp only [List.length_append, List.length_singleton, hlength, List.map_cons, List.sum_cons]
      · rcases hend with rfl | ⟨u, rfl⟩
        · exact ⟨piece, by simp⟩
        · exact ⟨piece ++ [separator] ++ u, by simp⟩

/-- The last piece of a text does not reach back over a separator. -/
theorem takeWhile_reverse_append {separator : Char} {u v : Text}
    (h : u = [] ∨ ∃ front, u = front ++ [separator]) :
    (u ++ v).reverse.takeWhile (· ≠ separator) = v.reverse.takeWhile (· ≠ separator) := by
  have hnone : u.reverse.takeWhile (· ≠ separator) = [] := by
    rcases h with rfl | ⟨front, rfl⟩ <;> simp
  rw [List.reverse_append, List.takeWhile_append, hnone]
  split
  · rename_i hall
    rw [List.append_nil, (List.takeWhile_sublist _).eq_of_length hall]
  · rfl

/-- What stands behind the last separator of a text is its last piece. -/
theorem takeWhile_reverse_of_splitOn {separator : Char} {s last : Text} {front : List Text}
    (h : splitOn separator s = front ++ [last]) :
    s.reverse.takeWhile (· ≠ separator) = last.reverse := by
  obtain ⟨start, hs, -, hend⟩ := exists_of_splitOn h
  have hlast : separator ∉ last := not_mem_of_mem_splitOn (s := s) (by simp [h])
  rw [hs, takeWhile_reverse_append hend]
  apply List.takeWhile_eq_self_iff.2
  intro c hc
  simp only [decide_eq_true_eq]
  rintro rfl
  exact hlast (List.mem_reverse.1 hc)

end MarkupAudit.Text
