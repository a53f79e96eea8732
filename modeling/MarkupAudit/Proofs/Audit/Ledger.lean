import MarkupAudit.Proofs.Audit.Substitution
import MarkupAudit.Proofs.Counter.Search

/-!
# Ledgers

A journal is a list of corrections that write the number of one rule each into a text: into its
directive if there is one, else into a new line at the start. However often a directive is rewritten,
it is rewritten once, but every new line is written (`IsJournal.text_apply`). In a ledger there is one
correction for each rule. All of them are made then, and afterwards the text says of every rule of the
ledger what the ledger says, and of every other rule what it said before (`IsLedger.counts_of_mem`,
`IsLedger.counts_of_not_mem`).
-/

namespace MarkupAudit

namespace Directive

open Text Corrector

/-! ### Rewriting directives in their places -/

/-- The correction of a directive by the number that is given for its rule, if one is given. -/
def edit? (f : Text → Option Nat) (w : WrittenDirective) : Option Correction :=
  (f w.rule).map fun n =>
    ⟨String.ofList w.rule, ⟨w.start, w.stop⟩, render (String.ofList w.rule) n⟩

/-- The spelling of a directive with the number that is given for its rule, if one is given. -/
def respell (f : Text → Option Nat) (e : Text × Text) : Text × Text :=
  (e.1, ((f e.1).map ofNat).getD e.2)

theorem IsSpelling.nameable {rule digits m : Text} (hm : IsSpelling rule digits m) :
    Nameable (String.ofList rule) := by
  obtain ⟨-, -, -, -, -, -, named, solid, -, -⟩ := hm
  unfold Nameable
  rw [String.toList_ofList]
  exact ⟨named, solid⟩

theorem map_respell_eq_self {f : Text → Option Nat} {pos : Nat} {s : Text}
    (h : ∀ w ∈ written pos s, edit? f w = none) : (spelled s).map (respell f) = spelled s := by
  have kept : ∀ e ∈ spelled s, respell f e = e := by
    intro e he
    rw [← map_written pos s] at he
    obtain ⟨w, hw, rfl⟩ := List.mem_map.1 he
    have hnone : f w.rule = none := Option.map_eq_none_iff.1 (h w hw)
    unfold respell
    rw [hnone]
    rfl
  rw [List.map_congr_left kept, List.map_id']

/-- Rewriting directives in their places changes the numbers of those that are rewritten, and makes
or breaks no other directive. -/
theorem spelled_interleave {f : Text → Option Nat} {cs : List Correction} {pos : Nat} {s : Text}
    (h : (written pos s).filterMap (edit? f) = cs) :
    spelled (interleave pos s cs) = (spelled s).map (respell f) := by
  induction cs generalizing pos s with
  | nil => rw [interleave, map_respell_eq_self (List.filterMap_eq_nil_iff.1 h)]
  | cons c cs ih =>
      -- the first directive that is rewritten splits the text, before and after
      obtain ⟨front, w, back, hsplit, hfront, hw, hback⟩ := List.filterMap_eq_cons_iff.1 h
      obtain ⟨pre, m, post, rfl, hm, hstart, hstop, hpre, hpost⟩ :=
        exists_of_written_eq_append hsplit
      obtain ⟨n, hn, rfl⟩ := Option.map_eq_some_iff.1 hw
      have original : spelled (pre ++ (m ++ post)) =
          spelled pre ++ (w.rule, w.digits) :: spelled post := by
        rw [← map_written pos (pre ++ (m ++ post)), hsplit, List.map_append, List.map_cons, ← hpre,
          ← hpost, map_written, map_written]
      have hhead : (spelled pre).map (respell f) = spelled pre :=
        map_respell_eq_self (by rw [hpre]; exact hfront)
      have hrewritten : respell f (w.rule, w.digits) = (w.rule, ofNat n) := by
        unfold respell
        rw [hn]
        rfl
      rw [original, List.map_append, List.map_cons, hhead, hrewritten,
        interleave_append _ _ cs hstart hstop, spelled_append_render hm.nameable,
        String.toList_ofList, ih (by rw [hpost]; exact hback)]

end Directive

open Directive Corrector

/-! ### Ledgers -/

/-- The directives for a rule in a text, as they are written. -/
def directivesFor (s : Text) (rule : String) : List WrittenDirective :=
  (written 0 s).filter fun w => w.rule == rule.toList

/-- A correction that writes the number of a rule into a text. -/
inductive IsEntry (s : Text) (n : String → Nat) : Correction → Prop
  | insertion {rule : String} (missing : directivesFor s rule = []) :
      IsEntry s n ⟨rule, ⟨0, 0⟩, render rule (n rule) ++ ['\n']⟩
  | rewriting {rule : String} {w : WrittenDirective} (only : directivesFor s rule = [w]) :
      IsEntry s n ⟨rule, ⟨w.start, w.stop⟩, render rule (n rule)⟩

/-- Corrections that write the numbers of rules into a text. There may be several for one rule, which
are all the same then. -/
structure IsJournal (s : Text) (n : String → Nat) (cs : List Correction) : Prop where
  entries : ∀ c ∈ cs, IsEntry s n c
  nameable : ∀ c ∈ cs, Nameable c.rule

/-- Corrections that write the numbers of different rules into a text. -/
structure IsLedger (s : Text) (n : String → Nat) (cs : List Correction) : Prop extends
    IsJournal s n cs where
  distinct : cs.Pairwise fun c d => c.rule ≠ d.rule

theorem mem_directivesFor {s : Text} {rule : String} {w : WrittenDirective} :
    w ∈ directivesFor s rule ↔ w ∈ written 0 s ∧ w.rule = rule.toList := by
  unfold directivesFor
  rw [List.mem_filter, beq_iff_eq]

section Entry

variable {s : Text} {n : String → Nat} {c d : Correction}

theorem mem_written_of_only {rule : String} {w : WrittenDirective}
    (only : directivesFor s rule = [w]) : w ∈ written 0 s ∧ w.rule = rule.toList :=
  mem_directivesFor.1 (by rw [only]; exact List.mem_singleton_self w)

theorem IsEntry.inBounds (h : IsEntry s n c) : InBounds s c := by
  cases h with
  | insertion missing =>
      refine ⟨Int.le_refl 0, Int.le_refl 0, ?_⟩
      exact Int.natCast_nonneg _
  | rewriting only =>
      have := bounds_of_mem_written (mem_written_of_only only).1
      refine ⟨?_, ?_, ?_⟩ <;> simp only <;> omega

/-- A new line is an insertion, and a directive that is rewritten is none. -/
theorem isInsertion_of_start {rule : String} {x : Text} :
    (⟨rule, ⟨0, 0⟩, x⟩ : Correction).isInsertion = true := rfl

theorem isInsertion_of_mem_written {rule : String} {w : WrittenDirective} {x : Text}
    (h : w ∈ written 0 s) : (⟨rule, ⟨w.start, w.stop⟩, x⟩ : Correction).isInsertion = false := by
  have := bounds_of_mem_written h
  unfold Correction.isInsertion Span.length
  rw [beq_eq_false_iff_ne]
  simp only
  omega

/-- Of a rule there is one entry. -/
theorem IsEntry.eq_of_rule_eq (hc : IsEntry s n c) (hd : IsEntry s n d) (h : c.rule = d.rule) :
    c = d := by
  rcases hc with @⟨rule, missing⟩ | @⟨rule, w, only⟩
  · rcases hd with @⟨rule', missing'⟩ | @⟨rule', v, only'⟩
    · obtain rfl : rule = rule' := h
      rfl
    · obtain rfl : rule = rule' := h
      rw [missing] at only'
      cases only'
  · rcases hd with @⟨rule', missing'⟩ | @⟨rule', v, only'⟩
    · obtain rfl : rule = rule' := h
      rw [only] at missing'
      cases missing'
    · obtain rfl : rule = rule' := h
      rw [only] at only'
      cases only'
      rfl

/-- Directives for two rules are two directives, so one lies behind the other. -/
theorem IsEntry.apart (hc : IsEntry s n c) (hd : IsEntry s n d) (h : c.rule ≠ d.rule) :
    Apart c d := by
  rw [apart_iff]
  rcases hc with missing | @⟨_, w, only⟩
  · rcases hd with missing' | only'
    · exact Or.inl (Int.le_refl 0)
    · exact Or.inr (Int.natCast_nonneg _)
  · rcases hd with missing' | @⟨_, v, only'⟩
    · exact Or.inl (Int.natCast_nonneg _)
    · obtain ⟨hw, hrule⟩ := mem_written_of_only only
      obtain ⟨hv, hrule'⟩ := mem_written_of_only only'
      have hne : w ≠ v := by
        intro heq
        rw [heq, hrule'] at hrule
        exact h (String.toList_inj.1 hrule).symm
      have hpair := stop_le_start_of_mem_written hw hv hne
      simp only [Int.ofNat_le]
      exact hpair.symm

end Entry

/-- The number that a ledger writes into the directive for a rule, if it rewrites that. -/
def rewritten (n : String → Nat) (cs : List Correction) (rule : Text) : Option Nat :=
  if cs.any fun c => !c.isInsertion && c.rule.toList == rule then some (n (String.ofList rule))
  else none

/-- The new lines of a ledger. -/
def newLines (cs : List Correction) : List Correction :=
  (ordered cs).reverse.filter (·.isInsertion)

/-- A list in which no member of a class stands behind one that is not in the class is the class
followed by the rest. -/
theorem filter_append_filter_not {α : Type} {p : α → Bool} {l : List α}
    (h : l.Pairwise fun a b => p b = true → p a = true) :
    l.filter p ++ l.filter (fun a => !p a) = l := by
  induction l with
  | nil => rfl
  | cons a l ih =>
      obtain ⟨head, tail⟩ := List.pairwise_cons.1 h
      cases ha : p a with
      | true => rw [List.filter_cons_of_pos ha, List.filter_cons_of_neg (by simp [ha]),
          List.cons_append, ih tail]
      | false =>
          have none : ∀ b ∈ l, p b = false := by
            intro b hb
            rw [← Bool.not_eq_true]
            intro hpb
            rw [head b hb hpb] at ha
            contradiction
          have hp : l.filter p = [] := List.filter_eq_nil_iff.2 fun b hb => by simp [none b hb]
          have hq : (l.filter fun a => !p a) = l :=
            List.filter_eq_self.2 fun b hb => by simp [none b hb]
          rw [List.filter_cons_of_neg (by simp [ha]), List.filter_cons_of_pos (by simp [ha]), hp, hq,
            List.nil_append]

section Ledger

variable {s : Text} {n : String → Nat} {cs : List Correction}

theorem IsJournal.inBounds (h : IsJournal s n cs) : ∀ c ∈ cs, InBounds s c :=
  fun c hc => (h.entries c hc).inBounds

theorem IsLedger.apart (h : IsLedger s n cs) : cs.Pairwise Apart :=
  h.distinct.imp_of_mem fun hc hd hne => (h.entries _ hc).apart (h.entries _ hd) hne

theorem rewritten_eq_some_iff {rule : Text} {m : Nat} :
    rewritten n cs rule = some m ↔
      (∃ c ∈ cs, c.isInsertion = false ∧ c.rule.toList = rule) ∧ m = n (String.ofList rule) := by
  unfold rewritten
  by_cases h : (cs.any fun c => !c.isInsertion && c.rule.toList == rule) = true
  · rw [if_pos h]
    simp only [List.any_eq_true, Bool.and_eq_true, Bool.not_eq_true', beq_iff_eq] at h
    simp only [Option.some.injEq, h, true_and]
    exact eq_comm
  · rw [if_neg h]
    simp only [List.any_eq_true, Bool.and_eq_true, Bool.not_eq_true', beq_iff_eq] at h
    simp only [h, false_and, reduceCtorEq]

/-- What a journal does to directives that exist, from the first to the last of them. -/
theorem IsJournal.mem_edits_iff (h : IsJournal s n cs) {c : Correction} :
    c ∈ (written 0 s).filterMap (edit? (rewritten n cs)) ↔ c ∈ cs ∧ c.isInsertion = false := by
  rw [List.mem_filterMap]
  constructor
  · rintro ⟨w, hw, hedit⟩
    obtain ⟨m, hm, rfl⟩ := Option.map_eq_some_iff.1 hedit
    obtain ⟨⟨c, hc, hinsertion, hrule⟩, rfl⟩ := rewritten_eq_some_iff.1 hm
    have entry := h.entries c hc
    rcases entry with missing | @⟨rule, v, only⟩
    · rw [isInsertion_of_start] at hinsertion
      contradiction
    · have hv : w = v := by
        have hmem : w ∈ directivesFor s rule := mem_directivesFor.2 ⟨hw, hrule.symm⟩
        rw [only] at hmem
        exact List.mem_singleton.1 hmem
      subst hv
      have hname : String.ofList w.rule = rule := by
        rw [← hrule, String.ofList_toList]
      rw [hname]
      exact ⟨hc, hinsertion⟩
  · rintro ⟨hc, hinsertion⟩
    have entry := h.entries c hc
    rcases entry with missing | @⟨rule, w, only⟩
    · rw [isInsertion_of_start] at hinsertion
      contradiction
    · obtain ⟨hw, hrule⟩ := mem_written_of_only only
      have hname : String.ofList w.rule = rule := by
        rw [hrule, String.ofList_toList]
      have hm : rewritten n cs w.rule = some (n rule) := by
        rw [← hname]
        exact rewritten_eq_some_iff.2 ⟨⟨_, hc, hinsertion, hrule.symm⟩, rfl⟩
      refine ⟨w, hw, ?_⟩
      unfold edit?
      rw [hm, hname]
      rfl

theorem pairwise_edits (f : Text → Option Nat) (s : Text) :
    ((written 0 s).filterMap (edit? f)).Pairwise fun c d => c.span.stop ≤ d.span.start := by
  rw [List.pairwise_filterMap]
  refine (pairwise_written 0 s).imp ?_
  intro w v hle c hc d hd
  obtain ⟨_, -, rfl⟩ := Option.map_eq_some_iff.1 hc
  obtain ⟨_, -, rfl⟩ := Option.map_eq_some_iff.1 hd
  exact Int.ofNat_le.2 hle

theorem start_lt_stop {c : Correction} (hc : InBounds s c) (h : c.isInsertion = false) :
    c.span.start < c.span.stop := by
  have hne : c.span.stop - c.span.start ≠ 0 := beq_eq_false_iff_ne.1 h
  have := hc.2.1
  omega

/-- A new line overlaps no correction. -/
theorem IsEntry.apart_of_isInsertion {c d : Correction} (hc : IsEntry s n c) (hd : IsEntry s n d)
    (h : c.isInsertion = true) : Apart c d := by
  rw [apart_iff]
  rcases hc with missing | only
  · exact .inr hd.inBounds.1
  · rw [isInsertion_of_mem_written (mem_written_of_only only).1] at h
    cases h

/-- Each directive that a journal rewrites is rewritten once. -/
theorem IsJournal.mem_kept_iff (h : IsJournal s n cs) {c : Correction} :
    c ∈ kept [] (ordered cs) ↔ c ∈ cs := by
  have perm := ordered_perm cs
  constructor
  · exact fun hc => perm.subset (kept_sublist.subset hc)
  · intro hc
    have made : c ∈ kept [] (ordered cs) ∨ ∃ d ∈ [] ++ kept [] (ordered cs), ¬ Apart c d :=
      mem_kept_or (perm.symm.subset hc)
    rcases made with hkept | ⟨d, hd, hnot⟩
    · exact hkept
    · -- what is not made overlaps a correction for the same rule, so it is the same correction
      rw [List.nil_append] at hd
      have entry := h.entries d (perm.subset (kept_sublist.subset hd))
      by_cases hrule : c.rule = d.rule
      · rwa [(h.entries c hc).eq_of_rule_eq entry hrule]
      · exact absurd ((h.entries c hc).apart entry hrule) hnot

/-- A journal writes its new lines first and then rewrites directives, from the first to the last. -/
theorem IsJournal.reverse_kept (h : IsJournal s n cs) :
    (kept [] (ordered cs)).reverse =
      newLines cs ++ (written 0 s).filterMap (edit? (rewritten n cs)) := by
  obtain ⟨ascending, -⟩ := text_apply h.inBounds
  have entries : ∀ c ∈ (kept [] (ordered cs)).reverse, IsEntry s n c :=
    fun c hc => h.entries c (h.mem_kept_iff.1 (List.mem_reverse.1 hc))
  have split : (kept [] (ordered cs)).reverse.filter (·.isInsertion) ++
      (kept [] (ordered cs)).reverse.filter (fun c => !c.isInsertion) =
        (kept [] (ordered cs)).reverse := by
    apply filter_append_filter_not
    refine ascending.imp_of_mem ?_
    intro c d hc hd hle hinsertion
    rcases entries c hc with missing | @⟨_, w, only⟩
    · rfl
    · rcases entries d hd with missing' | @⟨_, v, only'⟩
      · have := bounds_of_mem_written (mem_written_of_only only).1
        simp only at hle
        omega
      · rw [isInsertion_of_mem_written (mem_written_of_only only').1] at hinsertion
        contradiction
  have lines : (kept [] (ordered cs)).reverse.filter (·.isInsertion) = newLines cs := by
    rw [newLines, List.filter_reverse, List.filter_reverse, filter_kept]
    intro c hc hinsertion d hd
    have entry : ∀ e ∈ ordered cs, IsEntry s n e := fun e he => h.entries e ((ordered_perm cs).subset he)
    exact (entry c hc).apart_of_isInsertion (entry d hd) hinsertion
  have same : (kept [] (ordered cs)).reverse.filter (fun c => !c.isInsertion) =
      (written 0 s).filterMap (edit? (rewritten n cs)) := by
    refine eq_of_ascending (ascending.filter _) (pairwise_edits _ s) ?_ ?_
    · intro c hc
      obtain ⟨hc, hinsertion⟩ := List.mem_filter.1 hc
      exact start_lt_stop (entries c hc).inBounds (by simpa using hinsertion)
    · intro c
      rw [h.mem_edits_iff, List.mem_filter, List.mem_reverse, h.mem_kept_iff, Bool.not_eq_true']
  rw [← same, ← lines, split]

/-- The text of some new lines. -/
def blockOf (lines : List Correction) : Text :=
  lines.flatMap (·.replacement)

theorem interleave_insertions {lines rest : List Correction} {text : Text}
    (h : ∀ c ∈ lines, c.span = ⟨0, 0⟩) :
    interleave 0 text (lines ++ rest) = blockOf lines ++ interleave 0 text rest := by
  induction lines with
  | nil => rfl
  | cons c lines ih =>
      have hspan := h c List.mem_cons_self
      rw [List.cons_append, interleave, hspan, blockOf, List.flatMap_cons, List.append_assoc,
        ← blockOf, ← ih fun d hd => h d (List.mem_cons_of_mem c hd)]
      rfl

theorem IsJournal.of_mem_newLines (h : IsJournal s n cs) {c : Correction} (hc : c ∈ newLines cs) :
    c ∈ cs ∧ directivesFor s c.rule = [] ∧
      c = ⟨c.rule, ⟨0, 0⟩, render c.rule (n c.rule) ++ ['\n']⟩ := by
  obtain ⟨hmem, hinsertion⟩ := List.mem_filter.1 hc
  have hcs : c ∈ cs := (ordered_perm cs).subset (List.mem_reverse.1 hmem)
  rcases h.entries c hcs with missing | @⟨rule, w, only⟩
  · exact ⟨hcs, missing, rfl⟩
  · rw [isInsertion_of_mem_written (mem_written_of_only only).1] at hinsertion
    contradiction

theorem mem_newLines {c : Correction} : c ∈ newLines cs ↔ c ∈ cs ∧ c.isInsertion = true := by
  unfold newLines
  rw [List.mem_filter, List.mem_reverse, (ordered_perm cs).mem_iff]

/-- What the corrections of a journal leave: its new lines come first, and behind them stands the text
with its directives rewritten. -/
theorem IsJournal.text_apply (h : IsJournal s n cs) :
    (apply s cs).text = blockOf (newLines cs) ++
      interleave 0 s ((written 0 s).filterMap (edit? (rewritten n cs))) := by
  obtain ⟨-, happly⟩ := Corrector.text_apply h.inBounds
  rw [happly, h.reverse_kept, interleave_insertions]
  intro c hc
  obtain ⟨-, -, heq⟩ := h.of_mem_newLines hc
  rw [heq]

/-- The corrections of a ledger are all made. -/
theorem IsLedger.apply_eq (h : IsLedger s n cs) :
    apply s cs = ⟨blockOf (newLines cs) ++
      interleave 0 s ((written 0 s).filterMap (edit? (rewritten n cs))), []⟩ := by
  rw [← h.text_apply, ← Corrector.dropped_apply h.apart]

theorem spelled_lineBreak (t : Text) : spelled ('\n' :: t) = spelled t := by
  have hread : read? ('\n' :: t) = none := rfl
  rw [← map_written 0 ('\n' :: t), written_skip hread, map_written]

/-- New lines add their own directives to those of the text behind. -/
theorem spelled_blockOf {lines : List Correction} {text : Text}
    (h : ∀ c ∈ lines, Nameable c.rule ∧ c.replacement = render c.rule (n c.rule) ++ ['\n']) :
    spelled (blockOf lines ++ text) =
      lines.map (fun c => (c.rule.toList, Text.ofNat (n c.rule))) ++ spelled text := by
  induction lines with
  | nil => rfl
  | cons c lines ih =>
      obtain ⟨hname, hreplacement⟩ := h c List.mem_cons_self
      have hline := spelled_append_render hname (n c.rule) [] ('\n' :: (blockOf lines ++ text))
      have hnil : spelled [] = [] := by rw [← map_written 0 [], written_nil]; rfl
      rw [hnil, spelled_lineBreak, ih fun d hd => h d (List.mem_cons_of_mem c hd)] at hline
      rw [blockOf, List.flatMap_cons, hreplacement, ← blockOf, List.map_cons, List.cons_append]
      simpa only [List.append_assoc, List.cons_append, List.nil_append] using hline

/-- The directives of a text after the corrections of a journal. -/
theorem IsJournal.spelled_apply (h : IsJournal s n cs) :
    spelled (apply s cs).text =
      (newLines cs).map (fun c => (c.rule.toList, Text.ofNat (n c.rule))) ++
        (spelled s).map (respell (rewritten n cs)) := by
  rw [h.text_apply, spelled_blockOf, spelled_interleave rfl]
  intro c hc
  obtain ⟨hcs, -, heq⟩ := h.of_mem_newLines hc
  exact ⟨h.nameable c hcs, by conv => lhs; rw [heq]⟩

theorem filter_spelled (s : Text) (rule : String) :
    ((spelled s).filter fun e => e.1 == rule.toList) =
      (directivesFor s rule).map fun w => (w.rule, w.digits) := by
  unfold spelled directivesFor
  rw [List.filter_map]
  rfl

/-- What a text says of a rule after the corrections of a journal: the new lines for the rule come
first, then its directives, rewritten. -/
theorem IsJournal.filter_spelled_apply (h : IsJournal s n cs) (rule : String) :
    ((spelled (apply s cs).text).filter fun e => e.1 == rule.toList) =
      ((newLines cs).filter (fun c => c.rule == rule)).map
          (fun c => (c.rule.toList, Text.ofNat (n c.rule))) ++
        ((directivesFor s rule).map fun w => (w.rule, w.digits)).map
          (respell (rewritten n cs)) := by
  rw [h.spelled_apply, List.filter_append, List.filter_map, List.filter_map, ← filter_spelled]
  have named : (fun c : Correction => c.rule.toList == rule.toList) = fun c => c.rule == rule := by
    funext c
    rw [Bool.eq_iff_iff, beq_iff_eq, beq_iff_eq, String.toList_inj]
  rw [← named]
  rfl

theorem filter_newLines_eq_nil {rule : String} (hnone : ∀ c ∈ newLines cs, c.rule ≠ rule) :
    ((newLines cs).filter fun c => c.rule == rule) = [] := by
  rw [List.filter_eq_nil_iff]
  intro c hc
  rw [beq_iff_eq]
  exact hnone c hc

/-- Of a rule there is one new line. -/
theorem IsLedger.filter_newLines_eq_singleton (h : IsLedger s n cs) {c : Correction}
    (hc : c ∈ newLines cs) : ((newLines cs).filter fun d => d.rule == c.rule) = [c] := by
  have nodup : (newLines cs).Nodup := by
    have hcs : cs.Nodup := h.distinct.imp fun hne heq => hne (by rw [heq])
    have hreverse : (ordered cs).reverse.Nodup :=
      ((List.reverse_perm _).trans (ordered_perm cs)).nodup_iff.2 hcs
    exact hreverse.filter _
  have same : ∀ d ∈ newLines cs, (d.rule == c.rule) = (d == c) := by
    intro d hd
    rw [Bool.eq_iff_iff, beq_iff_eq, beq_iff_eq]
    constructor
    · exact (h.entries d (mem_newLines.1 hd).1).eq_of_rule_eq (h.entries c (mem_newLines.1 hc).1)
    · intro heq
      rw [heq]
  rw [List.filter_congr same, List.filter_beq, List.Nodup.count nodup, if_pos hc]
  rfl

/-- After the corrections of a ledger, the text has one directive for a rule of the ledger. -/
theorem IsLedger.filter_spelled_of_mem (h : IsLedger s n cs) {c : Correction} (hc : c ∈ cs) :
    ((spelled (apply s cs).text).filter fun e => e.1 == c.rule.toList) =
      [(c.rule.toList, Text.ofNat (n c.rule))] := by
  rw [h.filter_spelled_apply]
  rcases h.entries c hc with missing | @⟨rule, w, only⟩
  · rw [h.filter_newLines_eq_singleton (mem_newLines.2 ⟨hc, rfl⟩), missing]
    rfl
  · obtain ⟨hw, hrule⟩ := mem_written_of_only only
    have hinsertion : Correction.isInsertion
        ⟨rule, ⟨w.start, w.stop⟩, render rule (n rule)⟩ = false := isInsertion_of_mem_written hw
    have hnone : ∀ d ∈ newLines cs, d.rule ≠ rule := by
      intro d hd heq
      obtain ⟨hcs, hd⟩ := mem_newLines.1 hd
      rw [(h.entries d hcs).eq_of_rule_eq (h.entries _ hc) heq, hinsertion] at hd
      cases hd
    have hnumber : rewritten n cs rule.toList = some (n rule) := by
      refine rewritten_eq_some_iff.2 ⟨⟨_, hc, hinsertion, rfl⟩, ?_⟩
      rw [String.ofList_toList]
    rw [filter_newLines_eq_nil hnone, only, List.map_singleton, List.map_singleton,
      List.map_nil, List.nil_append, hrule, respell, hnumber]
    rfl

/-- After the corrections of a ledger, the text says of a rule of the ledger what the ledger says. -/
theorem IsLedger.counts_of_mem (h : IsLedger s n cs) {c : Correction} (hc : c ∈ cs)
    (short : n c.rule < 10 ^ NumeralTooLong.limit) :
    counts (apply s cs).text c.rule = .ok [n c.rule] := by
  rw [counts_eq, h.filter_spelled_of_mem hc, List.map_singleton, List.mapM_cons, List.mapM_nil,
    readNat_ofNat short]
  rfl

/-- After the corrections of a ledger, the text says of any other rule what it said before. -/
theorem IsLedger.counts_of_not_mem (h : IsLedger s n cs) {rule : String}
    (hrule : ∀ c ∈ cs, c.rule ≠ rule) : counts (apply s cs).text rule = counts s rule := by
  have kept : ∀ w ∈ directivesFor s rule,
      respell (rewritten n cs) (w.rule, w.digits) = (w.rule, w.digits) := by
    intro w hw
    have hnone : rewritten n cs w.rule = none := by
      rw [Option.eq_none_iff_forall_not_mem]
      intro m hm
      obtain ⟨⟨c, hc, -, hname⟩, -⟩ := rewritten_eq_some_iff.1 hm
      rw [(mem_directivesFor.1 hw).2] at hname
      exact hrule c hc (String.toList_inj.1 hname)
    rw [respell, hnone]
    rfl
  have hsame : ((directivesFor s rule).map fun w => (w.rule, w.digits)).map
      (respell (rewritten n cs)) = (directivesFor s rule).map fun w => (w.rule, w.digits) := by
    rw [List.map_map]
    exact List.map_congr_left kept
  have hnil := filter_newLines_eq_nil fun c hc => hrule c (mem_newLines.1 hc).1
  rw [counts_eq, counts_eq, h.filter_spelled_apply, hnil, List.map_nil, List.nil_append, hsame,
    filter_spelled]

end Ledger

end MarkupAudit
