import MarkupAudit.Audit.Corrector

/-!
# Corrections as one substitution

Corrections are applied one after the other, the last place first, but for those that overlap one
that was applied before (`kept`). If all of them lie in the text, the result is the text with those
that were applied made at once: the gaps between the places and the replacements in turn
(`text_apply`). If none overlaps another, none is dropped (`dropped_apply`).
-/

namespace MarkupAudit

namespace Corrector

/-- A correction of a place in a text. -/
def InBounds (text : Text) (c : Correction) : Prop :=
  0 ≤ c.span.start ∧ c.span.start ≤ c.span.stop ∧ c.span.stop ≤ text.length

/-- Two corrections that do not overlap. -/
def Apart (c d : Correction) : Prop :=
  c.span.overlaps d.span = false

/-- A text from an offset on, with corrections of places in ascending order made: what stands before
the first place, the replacement, and in the same way what stands behind. -/
def interleave (pos : Nat) (text : Text) : List Correction → Text
  | [] => text
  | c :: cs =>
      text.take (c.span.start.toNat - pos) ++
        (c.replacement ++ interleave c.span.stop.toNat (text.drop (c.span.stop.toNat - pos)) cs)

/-- The first correction splits the text into what stands before its place, the place and what stands
behind. -/
theorem interleave_append {pos start stop : Nat} {pre m post : Text} (rule : String)
    (replacement : Text) (cs : List Correction) (hstart : start = pos + pre.length)
    (hstop : stop = start + m.length) :
    interleave pos (pre ++ (m ++ post)) (⟨rule, ⟨start, stop⟩, replacement⟩ :: cs) =
      pre ++ (replacement ++ interleave stop post cs) := by
  have hlength : stop - pos = (pre ++ m).length := by
    rw [List.length_append]
    omega
  rw [interleave]
  simp only [Int.toNat_natCast]
  rw [hlength, hstart, Nat.add_sub_cancel_left, List.take_left, ← List.append_assoc pre m,
    List.drop_left]

theorem apart_iff {c d : Correction} :
    Apart c d ↔ d.span.stop ≤ c.span.start ∨ c.span.stop ≤ d.span.start := by
  unfold Apart Span.overlaps
  rw [Bool.and_eq_false_iff, decide_eq_false_iff_not, decide_eq_false_iff_not, Int.not_lt,
    Int.not_lt]

theorem Apart.symm {c d : Correction} (h : Apart c d) : Apart d c :=
  apart_iff.2 (apart_iff.1 h).symm

/-! ### The order of application -/

theorem before_trans (a b c : Correction × Nat) (hab : before a b = true)
    (hbc : before b c = true) : before a c = true := by
  unfold before at *
  grind

theorem before_total (a b : Correction × Nat) : (before a b || before b a) = true := by
  unfold before
  grind

theorem ordered_perm (cs : List Correction) : (ordered cs).Perm cs := by
  have h := (List.mergeSort_perm cs.zipIdx fun a b => before b a).map Prod.fst
  rwa [List.zipIdx_map_fst] at h

/-- One place comes before another, or has the same start and does not reach further. -/
def NotAfter (c d : Correction) : Prop :=
  c.span.start < d.span.start ∨ c.span.start = d.span.start ∧ c.span.stop ≤ d.span.stop

theorem pairwise_ordered (cs : List Correction) :
    (ordered cs).Pairwise fun c d => NotAfter d c := by
  have sorted : (cs.zipIdx.mergeSort fun a b => before b a).Pairwise fun a b => before b a :=
    List.pairwise_mergeSort (fun a b c hab hbc => before_trans c b a hbc hab)
      (fun a b => before_total b a) cs.zipIdx
  unfold ordered
  rw [List.pairwise_map]
  refine sorted.imp ?_
  intro a b h
  unfold before at h
  unfold NotAfter
  grind

/-- Of two places that do not overlap, the one that does not come after the other ends before it. -/
theorem stop_le_start {text : Text} {c d : Correction} (hc : InBounds text c)
    (hd : InBounds text d) (order : NotAfter c d) (apart : Apart c d) :
    c.span.stop ≤ d.span.start := by
  have hapart := apart_iff.1 apart
  have := hc.2.1
  have := hd.2.1
  unfold NotAfter at order
  omega

theorem nodup_of_ascending {l : List Correction}
    (ascending : l.Pairwise fun c d => c.span.stop ≤ d.span.start)
    (proper : ∀ c ∈ l, c.span.start < c.span.stop) : l.Nodup := by
  refine ascending.imp_of_mem ?_
  rintro c d hc hd hle rfl
  exact absurd (proper c hc) (Int.not_lt.2 hle)

/-- Proper places in ascending order are determined by which places they are. -/
theorem eq_of_ascending {l l' : List Correction}
    (ascending : l.Pairwise fun c d => c.span.stop ≤ d.span.start)
    (ascending' : l'.Pairwise fun c d => c.span.stop ≤ d.span.start)
    (proper : ∀ c ∈ l, c.span.start < c.span.stop) (same : ∀ c, c ∈ l ↔ c ∈ l') : l = l' := by
  have proper' : ∀ c ∈ l', c.span.start < c.span.stop := fun c hc => proper c ((same c).2 hc)
  have perm : l.Perm l' := (List.perm_ext_iff_of_nodup (nodup_of_ascending ascending proper)
    (nodup_of_ascending ascending' proper')).2 same
  refine List.Perm.eq_of_pairwise ?_ ascending ascending' perm
  intro c d hc hd hcd hdc
  have := proper c hc
  have := proper' d hd
  omega

/-! ### Application in turn -/

/-- The corrections that are made in turn: each of them that overlaps none that was made before. -/
def kept (done : List Correction) : List Correction → List Correction
  | [] => []
  | c :: cs =>
      if done.any fun d => c.span.overlaps d.span then kept done cs else c :: kept (done ++ [c]) cs

section Kept

variable {text : Text} {done cs : List Correction} {c : Correction}

theorem overlaps_iff : (done.any fun d => c.span.overlaps d.span) = true ↔ ∃ d ∈ done, ¬ Apart c d := by
  unfold Apart
  simp only [List.any_eq_true, Bool.not_eq_false]

theorem kept_cons_of_apart (h : ∀ d ∈ done, Apart c d) :
    kept done (c :: cs) = c :: kept (done ++ [c]) cs := by
  rw [kept, if_neg]
  rw [overlaps_iff]
  rintro ⟨d, hd, hnot⟩
  exact hnot (h d hd)

theorem kept_cons_of_not_apart (h : ∃ d ∈ done, ¬ Apart c d) :
    kept done (c :: cs) = kept done cs := by
  rw [kept, if_pos (overlaps_iff.2 h)]

/-- A correction overlaps one that was made, or none. -/
theorem apart_or_not (done : List Correction) (c : Correction) :
    (∀ d ∈ done, Apart c d) ∨ ∃ d ∈ done, ¬ Apart c d := by
  by_cases h : ∃ d ∈ done, ¬ Apart c d
  · exact .inr h
  · exact .inl fun d hd => Classical.byContradiction fun hnot => h ⟨d, hd, hnot⟩

theorem text_applyInTurn : (applyInTurn text done cs).text = (kept done cs).foldl edit text := by
  induction cs generalizing text done with
  | nil => rfl
  | cons c cs ih =>
      rw [applyInTurn, kept]
      split
      · exact ih
      · exact ih

theorem kept_sublist : (kept done cs).Sublist cs := by
  induction cs generalizing done with
  | nil => exact List.Sublist.slnil
  | cons c cs ih =>
      rw [kept]
      split
      · exact ih.cons c
      · exact ih.cons_cons c

/-- Each correction is made or dropped. -/
theorem kept_append_dropped_perm : (kept done cs ++ (applyInTurn text done cs).dropped).Perm cs := by
  induction cs generalizing text done with
  | nil => exact .nil
  | cons c cs ih =>
      rw [applyInTurn, kept]
      split
      · exact List.perm_middle.trans (ih.cons c)
      · exact ih.cons c

/-- The corrections that are made do not overlap, neither each other nor those made before. -/
theorem apart_kept :
    (∀ c ∈ kept done cs, ∀ d ∈ done, Apart c d) ∧ (kept done cs).Pairwise fun c d => Apart d c := by
  induction cs generalizing done with
  | nil => exact ⟨List.forall_mem_nil _, List.Pairwise.nil⟩
  | cons c cs ih =>
      rcases apart_or_not done c with free | taken
      · rw [kept_cons_of_apart free]
        obtain ⟨before, pairwise⟩ := @ih (done ++ [c])
        refine ⟨List.forall_mem_cons.2 ⟨free, ?_⟩, List.pairwise_cons.2 ⟨?_, pairwise⟩⟩
        · exact fun e he d hd => before e he d (List.mem_append_left _ hd)
        · exact fun e he => before e he c (List.mem_append_right _ List.mem_cons_self)
      · rw [kept_cons_of_not_apart taken]
        exact ih

/-- A correction that is not made overlaps one that is. -/
theorem mem_kept_or (hc : c ∈ cs) : c ∈ kept done cs ∨ ∃ d ∈ done ++ kept done cs, ¬ Apart c d := by
  induction cs generalizing done with
  | nil => cases hc
  | cons first cs ih =>
      rcases apart_or_not done first with free | taken
      · rw [kept_cons_of_apart free]
        rcases List.mem_cons.1 hc with rfl | hc
        · exact .inl List.mem_cons_self
        · rcases @ih (done ++ [first]) hc with hmem | ⟨d, hd, hnot⟩
          · exact .inl (List.mem_cons_of_mem first hmem)
          · rw [List.append_assoc, List.singleton_append] at hd
            exact .inr ⟨d, hd, hnot⟩
      · rw [kept_cons_of_not_apart taken]
        rcases List.mem_cons.1 hc with rfl | hc
        · obtain ⟨d, hd, hnot⟩ := taken
          exact .inr ⟨d, List.mem_append_left _ hd, hnot⟩
        · exact ih hc

/-- All corrections of a class are made if none of them overlaps any correction. -/
theorem filter_kept {p : Correction → Bool}
    (h : ∀ c ∈ cs, p c = true → ∀ d ∈ done ++ cs, Apart c d) :
    (kept done cs).filter p = cs.filter p := by
  induction cs generalizing done with
  | nil => rfl
  | cons c cs ih =>
      have later : ∀ e ∈ cs, p e = true → ∀ d ∈ done ++ [c] ++ cs, Apart e d := by
        intro e he hp d hd
        rw [List.append_assoc, List.singleton_append] at hd
        exact h e (List.mem_cons_of_mem c he) hp d hd
      rcases apart_or_not done c with free | ⟨d, hd, hnot⟩
      · rw [kept_cons_of_apart free, List.filter_cons, List.filter_cons, ih later]
      · have hp : ¬ p c = true := fun hp =>
          hnot (h c List.mem_cons_self hp d (List.mem_append_left _ hd))
        rw [kept_cons_of_not_apart ⟨d, hd, hnot⟩, List.filter_cons_of_neg hp]
        refine ih fun e he hpe d hd => later e he hpe d ?_
        rcases List.mem_append.1 hd with hd | hd
        · exact List.mem_append_left _ (List.mem_append_left _ hd)
        · exact List.mem_append_right _ hd

/-- If no correction overlaps another, none is dropped. -/
theorem dropped_applyInTurn (before : ∀ c ∈ cs, ∀ d ∈ done, Apart c d)
    (apart : cs.Pairwise fun c d => Apart d c) : (applyInTurn text done cs).dropped = [] := by
  induction cs generalizing text done with
  | nil => rfl
  | cons c cs ih =>
      obtain ⟨head, apart⟩ := List.pairwise_cons.1 apart
      rw [applyInTurn, if_neg]
      · refine ih ?_ apart
        intro e he d hd
        rcases List.mem_append.1 hd with hd | hd
        · exact before e (List.mem_cons_of_mem c he) d hd
        · rw [List.mem_singleton.1 hd]
          exact head e he
      · rw [overlaps_iff]
        rintro ⟨d, hd, hnot⟩
        exact hnot (before c List.mem_cons_self d hd)

end Kept

theorem edit_eq_of_inBounds {text : Text} {c : Correction} (h : InBounds text c) :
    edit text c =
      text.take c.span.start.toNat ++ (c.replacement ++ text.drop c.span.stop.toNat) := by
  obtain ⟨hstart, hle, hstop⟩ := h
  have b₁ : Text.bound text.length c.span.start = c.span.start.toNat := by
    unfold Text.bound
    rw [if_neg (by omega)]
    omega
  have b₂ : Text.bound text.length c.span.stop = c.span.stop.toNat := by
    unfold Text.bound
    rw [if_neg (by omega)]
    omega
  unfold edit upTo fromOn
  rw [b₁, b₂, List.append_assoc]

/-- Making corrections from the last to the first leaves the text before all of them as it is, and
interleaves the text behind with the replacements. -/
theorem foldl_edit_reverse {text : Text} {cs : List Correction} {pos : Nat}
    (inBounds : ∀ c ∈ cs, InBounds text c) (behind : ∀ c ∈ cs, (pos : Int) ≤ c.span.start)
    (ascending : cs.Pairwise fun c d => c.span.stop ≤ d.span.start) :
    cs.reverse.foldl edit text = text.take pos ++ interleave pos (text.drop pos) cs := by
  induction cs generalizing pos with
  | nil => exact (List.take_append_drop pos text).symm
  | cons c cs ih =>
      have hc := inBounds c List.mem_cons_self
      have hpos := behind c List.mem_cons_self
      obtain ⟨next, ascending⟩ := List.pairwise_cons.1 ascending
      have hstop : ((c.span.stop.toNat : Nat) : Int) = c.span.stop :=
        Int.toNat_of_nonneg (Int.le_trans hc.1 hc.2.1)
      have rest : cs.reverse.foldl edit text = text.take c.span.stop.toNat ++
          interleave c.span.stop.toNat (text.drop c.span.stop.toNat) cs := by
        apply ih (fun d hd => inBounds d (List.mem_cons_of_mem c hd)) _ ascending
        intro d hd
        rw [hstop]
        exact next d hd
      obtain ⟨hstart, hle, hlength⟩ := hc
      have taken : (text.take c.span.stop.toNat).length = c.span.stop.toNat := by
        rw [List.length_take]
        omega
      rw [List.reverse_cons, List.foldl_append, rest, List.foldl_cons, List.foldl_nil,
        edit_eq_of_inBounds, interleave, List.drop_drop]
      · -- the edits behind have not touched the text before the end of this one
        have front : (text.take c.span.stop.toNat ++
            interleave c.span.stop.toNat (text.drop c.span.stop.toNat) cs).take
              c.span.start.toNat =
            text.take pos ++ (text.drop pos).take (c.span.start.toNat - pos) := by
          rw [List.take_append_of_le_length (by omega), List.take_take,
            Nat.min_eq_left (by omega), ← List.take_add, Nat.add_sub_cancel' (by omega)]
        rw [front, List.drop_left' taken, Nat.add_sub_cancel' (by omega), List.append_assoc]
      · refine ⟨hstart, hle, ?_⟩
        rw [List.length_append, taken]
        omega

/-- The corrections that are made are made at once, if all of them lie in the text. -/
theorem text_apply {text : Text} {cs : List Correction} (inBounds : ∀ c ∈ cs, InBounds text c) :
    (kept [] (ordered cs)).reverse.Pairwise (fun c d => c.span.stop ≤ d.span.start) ∧
      (apply text cs).text = interleave 0 text (kept [] (ordered cs)).reverse := by
  have bounds : ∀ c ∈ kept [] (ordered cs), InBounds text c :=
    fun c hc => inBounds c ((ordered_perm cs).subset (kept_sublist.subset hc))
  have descending : (kept [] (ordered cs)).Pairwise fun c d => d.span.stop ≤ c.span.start := by
    have sublist : (kept [] (ordered cs)).Sublist (ordered cs) := kept_sublist
    have order := (pairwise_ordered cs).sublist sublist
    refine List.Pairwise.imp_of_mem ?_ (apart_kept.2.and order)
    intro c d hc hd h
    exact stop_le_start (bounds d hd) (bounds c hc) h.2 h.1
  have ascending := List.pairwise_reverse.2 descending
  refine ⟨ascending, ?_⟩
  have h : (kept [] (ordered cs)).reverse.reverse.foldl edit text =
      text.take 0 ++ interleave 0 (text.drop 0) (kept [] (ordered cs)).reverse :=
    foldl_edit_reverse (fun c hc => bounds c (List.mem_reverse.1 hc))
      (fun c hc => (bounds c (List.mem_reverse.1 hc)).1) ascending
  rw [List.reverse_reverse] at h
  rw [apply, text_applyInTurn, h, List.take_zero, List.nil_append, List.drop_zero]

/-- Corrections that do not overlap are all made. -/
theorem dropped_apply {text : Text} {cs : List Correction} (apart : cs.Pairwise Apart) :
    (apply text cs).dropped = [] := by
  have apart' : (ordered cs).Pairwise fun c d => Apart d c :=
    (apart.perm (ordered_perm cs).symm Apart.symm).imp Apart.symm
  exact dropped_applyInTurn (fun c _ d hd => absurd hd List.not_mem_nil) apart'

end Corrector

end MarkupAudit
