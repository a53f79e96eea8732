import Mathlib.Data.List.Lex
import Mathlib.Data.Char
import MarkupAudit.FileTree.Location
import MarkupAudit.Proofs.Text.Splitting

/-!
# Names of locations

A name has many spellings, but all of them are read as one location. The location has a spelling of its
own, which is read as the location again (`Location.ofText_toText`). Locations that are read are told
apart by their keys (`Location.key_injective`), so sorting them and dropping repetitions puts them in
strict order (`Location.pairwise_sortedSet`).
-/

namespace MarkupAudit.Location

/-! ### Spellings -/

/-- A part that is not left out when a name is read. -/
def IsPart (part : Text) : Prop :=
  part ≠ [] ∧ part ≠ ['.'] ∧ '/' ∉ part

/-- A location that a name can be read as. -/
structure Valid (l : Location) : Prop where
  anchor : l.anchor = [] ∨ l.anchor = ['/'] ∨ l.anchor = ['/', '/']
  parts : ∀ part ∈ l.parts, IsPart part

theorem valid_ofText (s : Text) : (ofText s).Valid where
  anchor := by
    simp only [ofText, anchorOf]
    split <;> simp
  parts := by
    intro part hpart
    obtain ⟨hsplit, hkept⟩ := List.mem_filter.1 hpart
    simp only [Bool.and_eq_true, decide_eq_true_eq] at hkept
    exact ⟨hkept.1, hkept.2, Text.not_mem_of_mem_splitOn hsplit⟩

theorem Valid.extend {l : Location} (h : l.Valid) {rest : List Text}
    (hrest : ∀ part ∈ rest, IsPart part) : (l.extend rest).Valid := by
  refine ⟨h.anchor, fun part hpart => ?_⟩
  rcases List.mem_append.1 hpart with hpart | hpart
  · exact h.parts part hpart
  · exact hrest part hpart

/-- A slash at the start of a name adds no part. -/
theorem parts_ofText_slash (s : Text) : (ofText ('/' :: s)).parts = (ofText s).parts := by
  simp [ofText, Text.splitOn]

theorem parts_ofText_join {parts : List Text} (h : ∀ part ∈ parts, IsPart part) :
    (ofText (Text.join ['/'] parts)).parts = parts := by
  by_cases hnil : parts = []
  · subst hnil
    rfl
  · have hsplit : Text.splitOn '/' (Text.join ['/'] parts) = parts :=
      Text.splitOn_join hnil fun part hpart => (h part hpart).2.2
    simp only [ofText, hsplit]
    refine List.filter_eq_self.2 fun part hpart => ?_
    obtain ⟨hne, hdot, -⟩ := h part hpart
    simp [hne, hdot]

/-- The parts of a name start with no slash. -/
theorem takeWhile_join {parts : List Text} (h : ∀ part ∈ parts, IsPart part) :
    (Text.join ['/'] parts).takeWhile (· = '/') = [] := by
  cases parts with
  | nil => rfl
  | cons part parts =>
      obtain ⟨hne, -, hslash⟩ := h part List.mem_cons_self
      obtain ⟨c, part, rfl⟩ := List.exists_cons_of_ne_nil hne
      have hc : c ≠ '/' := by
        rintro rfl
        exact hslash List.mem_cons_self
      cases parts <;> simp [Text.join, hc]

/-- The spelling of a location is read as the location. -/
theorem ofText_toText {l : Location} (h : l.Valid) : ofText l.toText = l := by
  obtain ⟨anchor, parts⟩ := l
  obtain ⟨hanchor, hparts⟩ := h
  have hjoin := parts_ofText_join hparts
  have hstart := takeWhile_join hparts
  simp only at hanchor
  unfold toText
  split
  case isTrue hempty =>
    simp only [Bool.and_eq_true, List.isEmpty_iff] at hempty
    obtain ⟨rfl, rfl⟩ := hempty
    rfl
  case isFalse =>
    have hparts' : (ofText (anchor ++ Text.join ['/'] parts)).parts = parts := by
      rcases hanchor with rfl | rfl | rfl
      · exact hjoin
      · rw [List.singleton_append, parts_ofText_slash, hjoin]
      · rw [List.cons_append, List.singleton_append, parts_ofText_slash, parts_ofText_slash, hjoin]
    have hanchor' : (ofText (anchor ++ Text.join ['/'] parts)).anchor = anchor := by
      rcases hanchor with rfl | rfl | rfl <;> simp [ofText, anchorOf, hstart]
    exact congrArg₂ Location.mk hanchor' hparts'

/-! ### Order -/

theorem Valid.slash_mem {l : Location} (h : l.Valid) (hne : l.anchor ≠ []) : '/' ∈ l.anchor := by
  rcases h.anchor with heq | heq | heq
  · exact absurd heq hne
  · simp [heq]
  · simp [heq]

/-- Locations that can be read are told apart by their keys: an anchor holds a slash, a part none. -/
theorem key_injective {l m : Location} (hl : l.Valid) (hm : m.Valid) (h : l.key = m.key) : l = m := by
  obtain ⟨anchor, parts⟩ := l
  obtain ⟨anchor', parts'⟩ := m
  simp only [key, List.isEmpty_iff] at h
  by_cases hnil : anchor = []
  · by_cases hnil' : anchor' = []
    · rw [if_pos hnil, if_pos hnil'] at h
      rw [hnil, hnil', h]
    · rw [if_pos hnil, if_neg hnil'] at h
      have hpart := hl.parts anchor' (h ▸ List.mem_cons_self)
      exact absurd (hm.slash_mem hnil') hpart.2.2
  · by_cases hnil' : anchor' = []
    · rw [if_neg hnil, if_pos hnil'] at h
      have hpart := hm.parts anchor (h ▸ List.mem_cons_self)
      exact absurd (hl.slash_mem hnil) hpart.2.2
    · rw [if_neg hnil, if_neg hnil'] at h
      obtain ⟨rfl, rfl⟩ := List.cons.inj h
      rfl

theorem partLt_iff {s t : Text} : partLt s t = true ↔ s < t := by
  have hchar : (fun c d : Char => decide (c.toNat < d.toNat) = true) = fun c d => c < d := by
    funext c d
    rw [decide_eq_true_eq, Char.lt_def, UInt32.lt_iff_toNat_lt]
    rfl
  rw [partLt, List.lex_eq_true_iff_lex, hchar]
  rfl

theorem le_iff {a b : Location} : a.le b = true ↔ a.key ≤ b.key := by
  have hpart : (fun s t : Text => partLt s t = true) = fun s t => s < t := by
    funext s t
    rw [partLt_iff]
  rw [le, Bool.not_eq_true', ← Bool.not_eq_true, List.lex_eq_true_iff_lex, hpart, ← not_lt]
  rfl

theorem mem_dropRepeats {l : Location} {ls : List Location} : l ∈ dropRepeats ls ↔ l ∈ ls := by
  fun_induction dropRepeats ls with
  | case1 b rest ih => rw [ih]; simp
  | case2 a b rest hne ih => rw [List.mem_cons, ih, List.mem_cons (a := l) (b := a)]
  | case3 short => rfl

theorem mem_sortedSet {l : Location} {ls : List Location} : l ∈ sortedSet ls ↔ l ∈ ls := by
  rw [sortedSet, mem_dropRepeats, List.mem_mergeSort]

theorem pairwise_dropRepeats {ls : List Location} (hvalid : ∀ l ∈ ls, l.Valid)
    (h : ls.Pairwise fun a b => a.key ≤ b.key) :
    (dropRepeats ls).Pairwise fun a b => a.key < b.key := by
  fun_induction dropRepeats ls with
  | case1 b rest ih =>
      exact ih (fun l hl => hvalid l (List.mem_cons_of_mem _ hl)) (List.Pairwise.of_cons h)
  | case2 a b rest hne ih =>
      obtain ⟨hfirst, hrest⟩ := List.pairwise_cons.1 h
      have hab : a.key < b.key := by
        refine lt_of_le_of_ne (hfirst b List.mem_cons_self) fun heq => hne ?_
        exact key_injective (hvalid a List.mem_cons_self)
          (hvalid b (List.mem_cons_of_mem _ List.mem_cons_self)) heq
      refine List.pairwise_cons.2
        ⟨?_, ih (fun l hl => hvalid l (List.mem_cons_of_mem _ hl)) hrest⟩
      intro c hc
      rcases List.mem_cons.1 (mem_dropRepeats.1 hc) with rfl | hc
      · exact hab
      · exact lt_of_lt_of_le hab ((List.pairwise_cons.1 hrest).1 c hc)
  | case3 short hshort =>
      match short, hshort with
      | [], _ => exact List.Pairwise.nil
      | [a], _ => exact List.pairwise_singleton _ a
      | a :: b :: rest, hshort => exact (hshort a b rest rfl).elim

/-- Sorted locations are in strict order. -/
theorem pairwise_sortedSet {ls : List Location} (hvalid : ∀ l ∈ ls, l.Valid) :
    (sortedSet ls).Pairwise fun a b => a.key < b.key := by
  have sorted : (ls.mergeSort le).Pairwise fun a b => a.le b = true := by
    refine List.pairwise_mergeSort ?_ ?_ ls
    · intro a b c hab hbc
      exact le_iff.2 (le_trans (le_iff.1 hab) (le_iff.1 hbc))
    · intro a b
      rw [Bool.or_eq_true, le_iff, le_iff]
      exact le_total _ _
  refine pairwise_dropRepeats ?_ (sorted.imp le_iff.1)
  intro l hl
  exact hvalid l (List.mem_mergeSort.1 hl)

end MarkupAudit.Location
