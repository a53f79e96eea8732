import Mathlib.Data.List.Induction
import Mathlib.Data.List.Pairwise
import MarkupAudit.Proofs.Audit.Substitution

/-!
# Which corrections are made

Of corrections that overlap only some can be made. Corrections are numbered by their place in the list
and ordered by the start of their span, its stop and their number. A correction is selected if it
overlaps no selected one behind it (`IsSelection`); this determines which are selected
(`IsSelection.eq`). Applying corrections makes exactly those, and makes them at once
(`applyTo_simultaneous`). An insertion is never given up, and it displaces every correction that it
lies strictly inside of.
-/

namespace MarkupAudit

namespace Corrector

/-! ### The order of corrections -/

/-- The order of numbered corrections: by start, by stop, by number. -/
def Precedes (a b : Correction × Nat) : Prop :=
  a.1.span.start < b.1.span.start ∨ a.1.span.start = b.1.span.start ∧
    (a.1.span.stop < b.1.span.stop ∨ a.1.span.stop = b.1.span.stop ∧ a.2 < b.2)

instance (a b : Correction × Nat) : Decidable (Precedes a b) :=
  inferInstanceAs (Decidable (_ ∨ _))

theorem Precedes.asymm {a b : Correction × Nat} (h : Precedes a b) : ¬ Precedes b a := by
  unfold Precedes at *
  omega

theorem Precedes.ne {a b : Correction × Nat} (h : Precedes a b) : a ≠ b := by
  rintro rfl
  exact h.asymm h

theorem precedes_of_before {a b : Correction × Nat} (h : before a b = true) (hne : a.2 ≠ b.2) :
    Precedes a b := by
  unfold before at h
  unfold Precedes
  grind

/-- In ascending order each correction occurs once. -/
theorem nodup_of_precedes {l : List (Correction × Nat)} (h : l.Pairwise Precedes) : l.Nodup :=
  h.imp Precedes.ne

/-- Numbered corrections in ascending order are determined by which they are. -/
theorem eq_of_precedes {l l' : List (Correction × Nat)} (h : l.Pairwise Precedes)
    (h' : l'.Pairwise Precedes) (same : ∀ e, e ∈ l ↔ e ∈ l') : l = l' := by
  have perm : l.Perm l' :=
    (List.perm_ext_iff_of_nodup (nodup_of_precedes h) (nodup_of_precedes h')).2 same
  refine List.Perm.eq_of_pairwise ?_ h h' perm
  intro a b _ _ hab hba
  exact absurd hba hab.asymm

/-- The numbered corrections in the order in which they are applied: the last place first. -/
def numbered (cs : List Correction) : List (Correction × Nat) :=
  cs.zipIdx.mergeSort fun a b => before b a

theorem mem_numbered {cs : List Correction} {e : Correction × Nat} :
    e ∈ numbered cs ↔ e ∈ cs.zipIdx :=
  (List.mergeSort_perm cs.zipIdx _).mem_iff

theorem pairwise_number (cs : List Correction) :
    cs.zipIdx.Pairwise fun a b => a.2 < b.2 := by
  have h : (cs.zipIdx.map Prod.snd).Pairwise (· < ·) := by
    rw [List.zipIdx_map_snd]
    exact List.pairwise_lt_range'
  exact List.pairwise_map.1 h

theorem pairwise_numbered (cs : List Correction) :
    (numbered cs).Pairwise fun a b => Precedes b a := by
  have sorted : (numbered cs).Pairwise fun a b => before b a :=
    List.pairwise_mergeSort (fun a b c hab hbc => before_trans c b a hbc hab)
      (fun a b => before_total b a) cs.zipIdx
  have distinct : (numbered cs).Pairwise fun a b => b.2 ≠ a.2 := by
    refine (((pairwise_number cs).imp ?_).perm (List.mergeSort_perm cs.zipIdx _).symm ?_)
    · exact fun h => Nat.ne_of_gt h
    · exact fun h => h.symm
  exact (sorted.and distinct).imp fun h => precedes_of_before h.1 h.2

/-! ### The selection -/

/-- The selected ones of numbered corrections, in ascending order: those that overlap no selected one
behind them. -/
structure IsSelection (cs : List Correction) (chosen : List (Correction × Nat)) : Prop where
  ascending : chosen.Pairwise Precedes
  mem_iff : ∀ e, e ∈ chosen ↔
    e ∈ cs.zipIdx ∧ ∀ d ∈ chosen, Precedes e d → Apart e.1 d.1

/-- Going through numbered corrections in turn and keeping each one that overlaps none kept before. -/
def choose (done : List (Correction × Nat)) : List (Correction × Nat) → List (Correction × Nat)
  | [] => []
  | e :: es =>
      if done.any fun d => e.1.span.overlaps d.1.span then choose done es
      else e :: choose (done ++ [e]) es

section Choose

variable {done es : List (Correction × Nat)} {e : Correction × Nat}

theorem map_choose : (choose done es).map Prod.fst = kept (done.map Prod.fst) (es.map Prod.fst) := by
  induction es generalizing done with
  | nil => rfl
  | cons e es ih =>
      have same : ((done.map Prod.fst).any fun d => e.1.span.overlaps d.span) =
          done.any fun d => e.1.span.overlaps d.1.span := List.any_map
      rw [choose, List.map_cons, kept, same]
      split
      · exact ih
      · rw [List.map_cons, ih, List.map_append]
        rfl

theorem choose_sublist : (choose done es).Sublist es := by
  induction es generalizing done with
  | nil => exact List.Sublist.slnil
  | cons e es ih =>
      rw [choose]
      split
      · exact ih.cons e
      · exact ih.cons_cons e

/-- What is kept of corrections in descending order: those that overlap none behind them, neither of
those kept before nor of those kept now. -/
theorem mem_choose (descending : es.Pairwise fun a b => Precedes b a)
    (behind : ∀ d ∈ done, ∀ e ∈ es, Precedes e d) :
    e ∈ choose done es ↔
      e ∈ es ∧ ∀ d ∈ done ++ choose done es, Precedes e d → Apart e.1 d.1 := by
  induction es generalizing done with
  | nil => simp [choose]
  | cons first es ih =>
      obtain ⟨head, descending⟩ := List.pairwise_cons.1 descending
      have behindRest : ∀ d ∈ done, ∀ e ∈ es, Precedes e d :=
        fun d hd e he => behind d hd e (List.mem_cons_of_mem first he)
      rw [choose]
      split
      · -- the first overlaps one that was kept before, and all of those lie behind it
        rename_i taken
        obtain ⟨d, hd, hoverlap⟩ := List.any_eq_true.1 taken
        rw [ih descending behindRest]
        constructor
        · rintro ⟨he, free⟩
          exact ⟨List.mem_cons_of_mem first he, free⟩
        · rintro ⟨he, free⟩
          refine ⟨(List.mem_cons.1 he).resolve_left ?_, free⟩
          rintro rfl
          have apart : Apart e.1 d.1 :=
            free d (List.mem_append_left _ hd) (behind d hd e List.mem_cons_self)
          rw [apart] at hoverlap
          contradiction
      · rename_i untaken
        have apart : ∀ d ∈ done, Apart first.1 d.1 := by
          intro d hd
          have hnot : ¬ first.1.span.overlaps d.1.span = true :=
            fun hoverlap => untaken (List.any_eq_true.2 ⟨d, hd, hoverlap⟩)
          exact Bool.eq_false_iff.2 hnot
        have behindNext : ∀ d ∈ done ++ [first], ∀ e ∈ es, Precedes e d := by
          intro d hd e he
          rcases List.mem_append.1 hd with hd | hd
          · exact behindRest d hd e he
          · rw [List.mem_singleton.1 hd]
            exact head e he
        have next := @ih (done ++ [first]) descending behindNext
        rw [List.append_assoc, List.singleton_append] at next
        constructor
        · intro he
          rcases List.mem_cons.1 he with rfl | he
          · -- nothing that is kept after the first lies behind it
            refine ⟨List.mem_cons_self, fun d hd order => ?_⟩
            rcases List.mem_append.1 hd with hd | hd
            · exact apart d hd
            · rcases List.mem_cons.1 hd with rfl | hd
              · exact absurd order order.asymm
              · exact absurd order (head d (choose_sublist.subset hd)).asymm
          · obtain ⟨hes, free⟩ := next.1 he
            exact ⟨List.mem_cons_of_mem first hes, free⟩
        · rintro ⟨he, free⟩
          rcases List.mem_cons.1 he with rfl | he
          · exact List.mem_cons_self
          · exact List.mem_cons_of_mem first (next.2 ⟨he, free⟩)

end Choose

theorem isSelection_choose (cs : List Correction) :
    IsSelection cs (choose [] (numbered cs)).reverse := by
  have descending := pairwise_numbered cs
  constructor
  · exact List.pairwise_reverse.2 (descending.sublist choose_sublist)
  · intro e
    rw [List.mem_reverse, mem_choose descending (fun d hd => absurd hd List.not_mem_nil),
      mem_numbered, List.nil_append]
    simp only [List.mem_reverse]

/-- Which corrections are selected is decided from the last one to the first. -/
theorem IsSelection.eq {cs : List Correction} {chosen other : List (Correction × Nat)}
    (h : IsSelection cs chosen) (h' : IsSelection cs other) : chosen = other := by
  -- the induction is on the part of the order of application that has been decided
  have decided : ∀ l, l <+: numbered cs → ∀ e ∈ l, e ∈ chosen ↔ e ∈ other := by
    intro l
    induction l using List.reverseRecOn with
    | nil => exact fun _ e he => absurd he List.not_mem_nil
    | append_singleton l last ih =>
        intro hl e he
        have agree := ih ((List.prefix_append l [last]).trans hl)
        rcases List.mem_append.1 he with he | he
        · exact agree e he
        · rw [List.mem_singleton.1 he]
          have earlier : ∀ d ∈ cs.zipIdx, Precedes last d → d ∈ l := by
            intro d hd order
            obtain ⟨rest, hrest⟩ := hl
            have hmem : d ∈ l ++ [last] ++ rest := hrest ▸ mem_numbered.2 hd
            have descending := pairwise_numbered cs
            rw [← hrest, List.append_assoc, List.singleton_append] at descending
            have after := (List.pairwise_cons.1 (List.pairwise_append.1 descending).2.1).1
            rw [List.append_assoc, List.singleton_append, List.mem_append, List.mem_cons] at hmem
            rcases hmem with hmem | rfl | hmem
            · exact hmem
            · exact absurd order order.asymm
            · exact absurd order (after d hmem).asymm
          rw [h.mem_iff, h'.mem_iff]
          refine and_congr_right fun _ => forall_congr' fun d => ?_
          constructor
          · intro free hd order
            exact free ((agree d (earlier d ((h'.mem_iff d).1 hd).1 order)).2 hd) order
          · intro free hd order
            exact free ((agree d (earlier d ((h.mem_iff d).1 hd).1 order)).1 hd) order
  refine eq_of_precedes h.ascending h'.ascending fun e => ?_
  constructor
  · intro he
    exact (decided _ (List.prefix_refl _) e (mem_numbered.2 ((h.mem_iff e).1 he).1)).1 he
  · intro he
    exact (decided _ (List.prefix_refl _) e (mem_numbered.2 ((h'.mem_iff e).1 he).1)).2 he

/-! ### Insertions -/

theorem isInsertion_iff {c : Correction} : c.isInsertion = true ↔ c.span.start = c.span.stop := by
  unfold Correction.isInsertion Span.length
  rw [beq_iff_eq]
  omega

section Insertions

variable {cs : List Correction} {chosen : List (Correction × Nat)}

/-- Every insertion is selected: what lies behind it does not begin before it. -/
theorem IsSelection.mem_of_isInsertion (h : IsSelection cs chosen) {e : Correction × Nat}
    (he : e ∈ cs.zipIdx) (hins : e.1.isInsertion = true) : e ∈ chosen := by
  refine (h.mem_iff e).2 ⟨he, fun d _ order => apart_iff.2 ?_⟩
  have := isInsertion_iff.1 hins
  unfold Precedes at order
  omega

/-- The insertions at one place are selected in the order of the list. -/
theorem IsSelection.filter_insertions (h : IsSelection cs chosen) (pos : Int) :
    chosen.filter (fun e => e.1.span = ⟨pos, pos⟩) =
      cs.zipIdx.filter fun e => e.1.span = ⟨pos, pos⟩ := by
  have inOrder : (cs.zipIdx.filter fun e => e.1.span = ⟨pos, pos⟩).Pairwise Precedes := by
    refine List.pairwise_filter.2 ((pairwise_number cs).imp ?_)
    intro a b hlt ha hb
    rw [decide_eq_true_eq] at ha hb
    rw [Precedes, ha, hb]
    exact .inr ⟨rfl, .inr ⟨rfl, hlt⟩⟩
  refine eq_of_precedes (h.ascending.filter _) inOrder fun e => ?_
  rw [List.mem_filter, List.mem_filter]
  refine and_congr_left fun hspan => ⟨fun he => ((h.mem_iff e).1 he).1, fun he => ?_⟩
  rw [decide_eq_true_eq] at hspan
  refine h.mem_of_isInsertion he (isInsertion_iff.2 ?_)
  rw [hspan]

/-- A correction is given up for an insertion strictly inside it. -/
theorem IsSelection.not_mem_of_inside (h : IsSelection cs chosen) {e i : Correction × Nat}
    (hi : i ∈ chosen) (hins : i.1.isInsertion = true) (hstart : e.1.span.start < i.1.span.start)
    (hstop : i.1.span.start < e.1.span.stop) : e ∉ chosen := by
  intro he
  have apart := apart_iff.1 (((h.mem_iff e).1 he).2 i hi (.inl hstart))
  have := isInsertion_iff.1 hins
  omega

end Insertions

/-! ### Applying corrections -/

/-- What applying corrections to a text comes to. The selected corrections lie one behind the other,
and the text that results has their replacements in their places and is the same everywhere else.
Each correction is made or dropped. All insertions are made, those at one place in the order of the
list, and a correction with an insertion strictly inside it is not. -/
structure Simultaneous (text : Text) (cs : List Correction) (chosen : List (Correction × Nat))
    (result : Corrected) : Prop where
  selection : ∀ other, IsSelection cs other ↔ other = chosen
  apart : chosen.Pairwise fun a b => a.1.span.stop ≤ b.1.span.start
  text_eq : result.text = interleave 0 text (chosen.map Prod.fst)
  dropped : (chosen.map Prod.fst ++ result.dropped).Perm cs
  inserted : ∀ e ∈ cs.zipIdx, e.1.isInsertion = true → e ∈ chosen
  inOrder : ∀ pos : Int, chosen.filter (fun e => e.1.span = ⟨pos, pos⟩) =
    cs.zipIdx.filter fun e => e.1.span = ⟨pos, pos⟩
  displaced : ∀ e ∈ cs.zipIdx, ∀ i ∈ chosen, i.1.isInsertion = true →
    e.1.span.start < i.1.span.start → i.1.span.start < e.1.span.stop → e ∉ chosen

/-- Corrections of places in the analysed text are made at once. -/
theorem applyTo_simultaneous {d : Document} (analysed : d.fingerprint = fingerprint d.source)
    {cs : List Correction} (inBounds : ∀ c ∈ cs, InBounds d.source c) :
    ∃ chosen result, applyTo d d.source cs = .ok result ∧ Simultaneous d.source cs chosen result := by
  have selection := isSelection_choose cs
  have hkept : (choose [] (numbered cs)).map Prod.fst = kept [] (ordered cs) := map_choose
  obtain ⟨ascending, htext⟩ := text_apply inBounds
  rw [← hkept, ← List.map_reverse] at ascending htext
  refine ⟨(choose [] (numbered cs)).reverse, apply d.source cs, ?_, ?_⟩
  · unfold applyTo
    rw [if_pos analysed.symm]
  · refine ⟨?_, List.pairwise_map.1 ascending, htext, ?_, ?_, selection.filter_insertions, ?_⟩
    · exact fun other => ⟨fun h => h.eq selection, fun h => h ▸ selection⟩
    · rw [List.map_reverse, hkept]
      have perm : (kept [] (ordered cs) ++ (apply d.source cs).dropped).Perm (ordered cs) :=
        kept_append_dropped_perm
      exact ((List.reverse_perm _).append_right _).trans (perm.trans (ordered_perm cs))
    · exact fun e => selection.mem_of_isInsertion
    · exact fun e _ i hi => selection.not_mem_of_inside hi

/-- A document of ten characters. -/
def tenCharacters : Document :=
  let source := "abcdefghij".toList
  ⟨source, MarkupAudit.fingerprint source, ⟨.document, ⟨0, source.length⟩, source, []⟩, none⟩

/-- Two insertions at the end of a range and one at its start, and a range with the latter inside. -/
def touchingEdits : List Correction :=
  [⟨"A", ⟨6, 6⟩, ['1']⟩, ⟨"B", ⟨2, 6⟩, ['-']⟩, ⟨"C", ⟨6, 6⟩, ['2']⟩, ⟨"D", ⟨1, 4⟩, ['+']⟩,
    ⟨"E", ⟨2, 2⟩, ['3']⟩]

theorem applyTo_simultaneous_touching :
    ∃ chosen result, applyTo tenCharacters tenCharacters.source touchingEdits = .ok result ∧
      Simultaneous tenCharacters.source touchingEdits chosen result ∧
      chosen.map Prod.snd = [4, 1, 0, 2] ∧ result.text = "ab3-12ghij".toList := by
  have analysed : tenCharacters.fingerprint = fingerprint tenCharacters.source := rfl
  have inBounds : ∀ c ∈ touchingEdits, InBounds tenCharacters.source c := by
    unfold InBounds
    decide
  obtain ⟨chosen, result, happly, made⟩ := applyTo_simultaneous analysed inBounds
  have selection : IsSelection touchingEdits
      [(⟨"E", ⟨2, 2⟩, ['3']⟩, 4), (⟨"B", ⟨2, 6⟩, ['-']⟩, 1), (⟨"A", ⟨6, 6⟩, ['1']⟩, 0),
        (⟨"C", ⟨6, 6⟩, ['2']⟩, 2)] := by
    refine ⟨by decide, fun e => ⟨fun he => ?_, fun he => ?_⟩⟩
    · revert e
      unfold Apart
      decide
    · revert e
      unfold Apart
      simp only [and_imp]
      decide
  have hchosen := (made.selection _).1 selection
  refine ⟨chosen, result, happly, made, ?_, ?_⟩
  · rw [← hchosen]
    rfl
  · rw [made.text_eq, ← hchosen]
    decide

end Corrector

end MarkupAudit
