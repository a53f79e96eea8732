import Mathlib.Algebra.BigOperators.Group.List.Basic
import Mathlib.Algebra.Ring.Int.Defs
import MarkupAudit.Proofs.Audit.Substitution
import MarkupAudit.Proofs.Template.Tokenization

/-!
# Where corrections move a text

A correction moves what stands behind it by the difference of the lengths. So an offset outside of the
corrected places is moved by what the corrections before it add (`moved`). Offsets keep their order
(`InTurn.moved_lt_moved`), a character that is not corrected stands at its moved offset
(`getElem?_interleave`), and between the moved ends of a corrected place stands the replacement
(`slice_interleave`).
-/

namespace MarkupAudit

namespace Corrector

/-- How much longer a text gets by a correction. -/
def growth (c : Correction) : Int :=
  c.replacement.length - c.span.length

/-- Where an offset is when some places have been corrected. -/
def moved (es : List Correction) (p : Int) : Int :=
  p + ((es.filter fun c => decide (c.span.stop ≤ p)).map growth).sum

/-- An offset that is not inside of a corrected place; it may be the start of one. -/
def Outside (es : List Correction) (p : Int) : Prop :=
  ∀ c ∈ es, p ≤ c.span.start ∨ c.span.stop ≤ p

/-- The offset of a character that is not corrected. -/
def Untouched (es : List Correction) (p : Int) : Prop :=
  ∀ c ∈ es, ¬ c.span.Holds p

/-- Corrections of proper places, one behind the other from an offset on, that leave none of them
empty. -/
def InTurn : (pos : Int) → List Correction → Prop
  | _, [] => True
  | pos, c :: cs =>
      pos ≤ c.span.start ∧ c.span.start < c.span.stop ∧ c.replacement ≠ [] ∧ InTurn c.span.stop cs

section Moved

variable {es es' : List Correction} {c : Correction} {p q pos : Int}

theorem Untouched.outside (h : Untouched es p) : Outside es p := by
  intro c hc
  have hnot := h c hc
  unfold Span.Holds at hnot
  omega

theorem moved_nil (p : Int) : moved [] p = p :=
  Int.add_zero p

theorem moved_cons_of_le (h : c.span.stop ≤ p) : moved (c :: es) p = moved es p + growth c := by
  unfold moved
  rw [List.filter_cons_of_pos (by simpa using h), List.map_cons, List.sum_cons]
  omega

theorem moved_cons_of_lt (h : p < c.span.stop) : moved (c :: es) p = moved es p := by
  unfold moved
  rw [List.filter_cons_of_neg (by simpa using h)]

theorem moved_perm (h : es.Perm es') (p : Int) : moved es p = moved es' p := by
  unfold moved
  rw [((h.filter _).map growth).sum_eq]

theorem Outside.tail (h : Outside (c :: es) p) : Outside es p :=
  fun d hd => h d (List.mem_cons_of_mem c hd)

theorem InTurn.mono (h : InTurn pos es) (hpos : q ≤ pos) : InTurn q es := by
  cases es with
  | nil => trivial
  | cons c es => exact ⟨Int.le_trans hpos h.1, h.2⟩

/-- All places lie behind the offset and are proper. -/
theorem InTurn.bounds (h : InTurn pos es) :
    ∀ c ∈ es, pos ≤ c.span.start ∧ c.span.start < c.span.stop := by
  induction es generalizing pos with
  | nil => exact List.forall_mem_nil _
  | cons c es ih =>
      obtain ⟨hpos, hlt, -, hrest⟩ := h
      refine List.forall_mem_cons.2 ⟨⟨hpos, hlt⟩, ih (hrest.mono ?_)⟩
      omega

theorem InTurn.outside (h : InTurn pos es) : Outside es pos :=
  fun c hc => .inl (h.bounds c hc).1

/-- An offset before all places stays where it is. -/
theorem InTurn.moved_eq_self (h : InTurn pos es) (hp : p ≤ pos) : moved es p = p := by
  have hnone : (es.filter fun c => decide (c.span.stop ≤ p)) = [] := by
    rw [List.filter_eq_nil_iff]
    intro c hc
    have := h.bounds c hc
    simp only [decide_eq_true_eq]
    omega
  unfold moved
  rw [hnone, List.map_nil, List.sum_nil, Int.add_zero]

/-- An offset behind the start of all places stays behind it. -/
theorem InTurn.le_moved (h : InTurn pos es) (hp : Outside es p) (hpos : pos ≤ p) :
    pos ≤ moved es p := by
  induction es generalizing pos with
  | nil => rwa [moved_nil]
  | cons c es ih =>
      obtain ⟨hstart, hlt, -, hrest⟩ := h
      rcases hp c List.mem_cons_self with hp' | hp'
      · rwa [moved_cons_of_lt (by omega), hrest.moved_eq_self (by omega)]
      · have := ih hrest hp.tail hp'
        rw [moved_cons_of_le hp', growth, Span.length]
        omega

/-- Offsets outside of the places keep their order. -/
theorem InTurn.moved_lt_moved (h : InTurn pos es) (hp : Outside es p) (hq : Outside es q)
    (hpq : p < q) : moved es p < moved es q := by
  induction es generalizing pos with
  | nil => rwa [moved_nil, moved_nil]
  | cons c es ih =>
      obtain ⟨-, hlt, hne, hrest⟩ := h
      have hlength : 0 < c.replacement.length := List.length_pos_iff.2 hne
      rcases hp c List.mem_cons_self with hp' | hp'
      · have hself : moved (c :: es) p = p := by
          rw [moved_cons_of_lt (by omega), hrest.moved_eq_self (by omega)]
        rcases hq c List.mem_cons_self with hq' | hq'
        · rwa [hself, moved_cons_of_lt (by omega), hrest.moved_eq_self (by omega)]
        · -- the place lies between the two, and something stands there now
          have := hrest.le_moved hq.tail hq'
          rw [hself, moved_cons_of_le hq', growth, Span.length]
          omega
      · rw [moved_cons_of_le hp', moved_cons_of_le (by omega)]
        have := ih hrest hp.tail hq.tail
        omega

/-- The moved ends of a corrected place are as far apart as the replacement is long. -/
theorem InTurn.moved_stop (h : InTurn pos es) (hc : c ∈ es) :
    moved es c.span.stop = moved es c.span.start + c.replacement.length := by
  induction es generalizing pos with
  | nil => cases hc
  | cons d es ih =>
      obtain ⟨-, hlt, -, hrest⟩ := h
      rcases List.mem_cons.1 hc with rfl | hc
      · rw [moved_cons_of_le (Int.le_refl _), moved_cons_of_lt hlt,
          hrest.moved_eq_self (Int.le_refl _), hrest.moved_eq_self (Int.le_of_lt hlt), growth,
          Span.length]
        omega
      · have := hrest.bounds c hc
        rw [moved_cons_of_le (by omega), moved_cons_of_le (by omega), ih hrest hc]
        omega

theorem InTurn.outside_start (h : InTurn pos es) (hc : c ∈ es) : Outside es c.span.start := by
  induction es generalizing pos with
  | nil => cases hc
  | cons d es ih =>
      obtain ⟨-, hlt, -, hrest⟩ := h
      rcases List.mem_cons.1 hc with rfl | hc
      · exact List.forall_mem_cons.2 ⟨.inl (Int.le_refl _), (hrest.mono (Int.le_of_lt hlt)).outside⟩
      · exact List.forall_mem_cons.2 ⟨.inr (hrest.bounds c hc).1, ih hrest hc⟩

/-- The places from a corrected place on begin with it. -/
theorem InTurn.exists_filter_eq_cons (h : InTurn pos es) (hc : c ∈ es) :
    ∃ later, (es.filter fun d => decide (c.span.start ≤ d.span.start)) = c :: later := by
  induction es generalizing pos with
  | nil => cases hc
  | cons d es ih =>
      obtain ⟨-, hlt, -, hrest⟩ := h
      rcases List.mem_cons.1 hc with rfl | hc
      · exact ⟨_, List.filter_cons_of_pos (decide_eq_true (Int.le_refl _))⟩
      · have := hrest.bounds c hc
        rw [List.filter_cons_of_neg (by rw [decide_eq_true_eq]; omega)]
        exact ih hrest hc

/-- A character that is not corrected is between two offsets outside of the places if and only if it
was between them before. -/
theorem InTurn.holds_moved_iff (h : InTurn pos es) {a b : Int} (ha : Outside es a)
    (hb : Outside es b) (hp : Untouched es p) :
    (⟨moved es a, moved es b⟩ : Span).Holds (moved es p) ↔ (⟨a, b⟩ : Span).Holds p := by
  have lt_iff : ∀ {x y : Int}, Outside es x → Outside es y → (moved es x < moved es y ↔ x < y) := by
    intro x y hx hy
    constructor
    · intro hlt
      by_contra hle
      rcases Int.lt_or_eq_of_le (Int.not_lt.1 hle) with hyx | rfl
      · have := h.moved_lt_moved hy hx hyx
        omega
      · omega
    · exact h.moved_lt_moved hx hy
  have hleft := lt_iff hp.outside ha
  have hright := lt_iff hp.outside hb
  unfold Span.Holds
  simp only
  omega

end Moved

/-! ### The corrected text from an offset on -/

section Interleave

variable {es : List Correction} {text : Text} {pos p : Nat}

/-- What stands from a moved offset on is what stood from the offset on, corrected. -/
theorem drop_interleave (h : InTurn pos es) (inside : ∀ c ∈ es, c.span.stop ≤ pos + text.length)
    (hpos : pos ≤ p) (outside : Outside es p) :
    (interleave pos text es).drop (moved es p - pos).toNat =
      interleave p (text.drop (p - pos)) (es.filter fun c => decide ((p : Int) ≤ c.span.start)) := by
  induction es generalizing pos text with
  | nil =>
      rw [moved_nil, interleave, List.filter_nil, interleave]
      congr 1
      omega
  | cons c es ih =>
      obtain ⟨hstart, hlt, -, hrest⟩ := h
      obtain ⟨hstop, inside⟩ := List.forall_mem_cons.1 inside
      rcases outside c List.mem_cons_self with hp | hp
      · -- all places are still to come
        have hall : ((c :: es).filter fun d => decide ((p : Int) ≤ d.span.start)) = c :: es := by
          rw [List.filter_eq_self]
          refine List.forall_mem_cons.2 ⟨decide_eq_true hp, fun d hd => ?_⟩
          have := (hrest.bounds d hd).1
          exact decide_eq_true (by omega)
        have hself : moved (c :: es) p = p := by
          rw [moved_cons_of_lt (by omega), hrest.moved_eq_self (by omega)]
        have hfront : (text.take (c.span.start.toNat - pos)).drop ((p : Int) - pos).toNat =
            (text.drop (p - pos)).take (c.span.start.toNat - p) := by
          rw [List.drop_take]
          congr 1
          · omega
          · congr 1
            omega
        have hlength : ((p : Int) - pos).toNat ≤
            (text.take (c.span.start.toNat - pos)).length := by
          rw [List.length_take]
          omega
        rw [hall, hself, interleave, interleave, List.drop_append_of_le_length hlength, hfront,
          List.drop_drop]
        congr 4
        omega
      · -- the first place lies before the offset
        have hgone : ¬ (p : Int) ≤ c.span.start := by omega
        have hnext : c.span.stop = (c.span.stop.toNat : Nat) := by omega
        rw [hnext] at hrest
        have inside' : ∀ d ∈ es, d.span.stop ≤
            c.span.stop.toNat + (text.drop (c.span.stop.toNat - pos)).length := by
          intro d hd
          have := inside d hd
          rw [List.length_drop]
          omega
        have later := ih hrest inside' (by omega) outside.tail
        have hle : (c.span.stop.toNat : Int) ≤ moved es p :=
          hrest.le_moved outside.tail (by omega)
        have hindex : (moved (c :: es) p - pos).toNat =
            (text.take (c.span.start.toNat - pos)).length +
              (c.replacement.length + (moved es p - c.span.stop.toNat).toNat) := by
          rw [moved_cons_of_le hp, growth, Span.length, List.length_take]
          omega
        rw [interleave, hindex, List.drop_length_add_append, List.drop_length_add_append, later,
          List.filter_cons_of_neg (by simpa using hgone), List.drop_drop]
        congr 2
        omega

/-- The same of a whole text. -/
theorem drop_interleave_zero (h : InTurn 0 es) (inside : ∀ c ∈ es, c.span.stop ≤ text.length)
    (outside : Outside es p) :
    (interleave 0 text es).drop (moved es p).toNat =
      interleave p (text.drop p) (es.filter fun c => decide ((p : Int) ≤ c.span.start)) := by
  have hturn : InTurn ((0 : Nat) : Int) es := h
  have hinside : ∀ c ∈ es, c.span.stop ≤ ((0 : Nat) : Int) + text.length := by
    simpa using inside
  have behind := drop_interleave hturn hinside (Nat.zero_le p) outside
  rwa [Int.natCast_zero, Int.sub_zero, Nat.sub_zero] at behind

/-- A character that is not corrected stands at its moved offset. -/
theorem getElem?_interleave (h : InTurn 0 es) (inside : ∀ c ∈ es, c.span.stop ≤ text.length)
    (hp : p < text.length) (free : Untouched es p) :
    (interleave 0 text es)[(moved es p).toNat]? = text[p]? := by
  rw [← List.head?_drop, ← List.head?_drop, drop_interleave_zero h inside free.outside]
  cases hlater : es.filter fun c => decide ((p : Int) ≤ c.span.start) with
  | nil => rfl
  | cons c later =>
      obtain ⟨hc, hle⟩ := List.mem_filter.1 (hlater ▸ List.mem_cons_self : c ∈ es.filter _)
      have hbounds := h.bounds c hc
      have hstop := inside c hc
      have hstart : (p : Int) < c.span.start := by
        have hnot := free c hc
        have := of_decide_eq_true hle
        unfold Span.Holds at hnot
        omega
      obtain ⟨a, rest, hdrop⟩ := List.exists_cons_of_ne_nil
        (List.length_pos_iff.1 (by rw [List.length_drop]; omega : 0 < (text.drop p).length))
      obtain ⟨k, hk⟩ : ∃ k, c.span.start.toNat - p = k + 1 := ⟨c.span.start.toNat - p - 1, by omega⟩
      rw [interleave, hdrop, hk, List.take_succ_cons]
      rfl

/-- Between the moved ends of a corrected place stands the replacement. -/
theorem slice_interleave (h : InTurn 0 es) (inside : ∀ c ∈ es, c.span.stop ≤ text.length)
    {c : Correction} (hc : c ∈ es) :
    (interleave 0 text es).slice ⟨moved es c.span.start, moved es c.span.stop⟩ =
      c.replacement := by
  obtain ⟨hstart, -⟩ := h.bounds c hc
  obtain ⟨start, hstart⟩ := Int.eq_ofNat_of_zero_le hstart
  obtain ⟨later, hlater⟩ := h.exists_filter_eq_cons hc
  have behind := drop_interleave_zero h inside (hstart ▸ h.outside_start hc)
  rw [← hstart, hlater, interleave, hstart, Int.toNat_natCast, Nat.sub_self, List.take_zero,
    List.nil_append] at behind
  have hlength : (moved es c.span.stop - moved es c.span.start).toNat = c.replacement.length := by
    rw [h.moved_stop hc]
    omega
  rw [Text.slice]
  simp only
  rw [hlength, hstart, behind, List.take_left]

end Interleave

end Corrector

end MarkupAudit
