import Mathlib.Data.List.Forall2
import Mathlib.Data.List.Nodup
import MarkupAudit.Audit.Engine
import MarkupAudit.Proofs.Audit.Ledger
import MarkupAudit.Proofs.Rule.Findings

/-!
# Reconciliation

Running rules on a document gives corrections that are a ledger of its text: each rule that has a
correction has it for the number of its own findings. So making the corrections leaves a text in
which the directives of these rules are right, and those of all other rules are as they were.
-/

namespace MarkupAudit

open Directive Corrector

/-! ### Running rules -/

namespace Engine

theorem runEach_cons_eq_ok_iff {d : Document} {r : ConfiguredRule} {rules : List ConfiguredRule}
    {results : List RuleResult} :
    runEach d (r :: rules) = .ok results ↔
      ∃ result rest, runRule r d = .ok result ∧ runEach d rules = .ok rest ∧
        results = result :: rest := by
  rw [runEach]
  cases runRule r d with
  | error e => simp
  | ok result => simp [map_eq_ok_iff]

/-- Rules are run each on its own, and all of them have to complete. -/
theorem runEach_eq_ok_iff {d : Document} {rules : List ConfiguredRule} {results : List RuleResult} :
    runEach d rules = .ok results ↔
      List.Forall₂ (fun r result => runRule r d = .ok result) rules results := by
  induction rules generalizing results with
  | nil => simp [runEach, eq_comm]
  | cons r rules ih =>
      rw [runEach_cons_eq_ok_iff, List.forall₂_cons_left_iff]
      constructor
      · rintro ⟨result, rest, hrun, hrest, rfl⟩
        exact ⟨result, rest, hrun, ih.1 hrest, rfl⟩
      · rintro ⟨result, rest, hrun, hall, rfl⟩
        exact ⟨result, rest, hrun, ih.2 hall, rfl⟩

theorem run_eq_ok_iff {d : Document} {rules : List ConfiguredRule} {result : AuditResult} :
    run rules d = .ok result ↔
      ∃ results, List.Forall₂ (fun r result => runRule r d = .ok result) rules results ∧
        result = merge results := by
  rw [run, map_eq_ok_iff]
  exact exists_congr fun results => and_congr_left fun _ => runEach_eq_ok_iff

theorem exists_rule_of_mem {d : Document} {rules : List ConfiguredRule} {results : List RuleResult}
    (h : List.Forall₂ (fun r result => runRule r d = .ok result) rules results)
    {result : RuleResult} (hresult : result ∈ results) :
    ∃ r ∈ rules, runRule r d = .ok result := by
  induction h with
  | nil => cases hresult
  | @cons r first rules results hrun _ ih =>
      rcases List.mem_cons.1 hresult with rfl | hmem
      · exact ⟨r, List.mem_cons_self, hrun⟩
      · obtain ⟨q, hq, hrun⟩ := ih hmem
        exact ⟨q, List.mem_cons_of_mem r hq, hrun⟩

theorem exists_result_of_mem {d : Document} {rules : List ConfiguredRule}
    {results : List RuleResult}
    (h : List.Forall₂ (fun r result => runRule r d = .ok result) rules results)
    {r : ConfiguredRule} (hr : r ∈ rules) : ∃ result ∈ results, runRule r d = .ok result := by
  induction h with
  | nil => cases hr
  | @cons first result rules results hrun _ ih =>
      rcases List.mem_cons.1 hr with rfl | hmem
      · exact ⟨result, List.mem_cons_self, hrun⟩
      · obtain ⟨own, hown, hrun⟩ := ih hmem
        exact ⟨own, List.mem_cons_of_mem result hown, hrun⟩

/-- A rule whose findings are counted gives the outcome for its own directives. -/
theorem runRule_eq_ok_iff {r : ConfiguredRule} {d : Document} {result : RuleResult} :
    runRule r d = .ok result ↔ ∃ raw, r.rule.run d = .ok raw ∧
      (r.counterActive = false ∧ result = ⟨r.rule.id, Finding.sort raw, none⟩ ∨
        r.counterActive = true ∧ ∃ ds, find d.source r.rule.id = .ok ds ∧
          result = ⟨r.rule.id, (Outcome.ofDirectives r.rule.id (Finding.sort raw) ds).findings,
            (Outcome.ofDirectives r.rule.id (Finding.sort raw) ds).correction⟩) := by
  unfold runRule
  cases r.rule.run d with
  | error e => simp
  | ok raw =>
      cases r.counterActive with
      | false => simp [eq_comm]
      | true =>
          unfold Outcome.count
          cases find d.source r.rule.id with
          | error fault => simp [Except.map]
          | ok ds => simp [Except.map, eq_comm]

end Engine

/-! ### The ledger of a document -/

/-- The number of findings of the rule with a given identifier, before any are absorbed. -/
def actual (rules : List ConfiguredRule) (d : Document) (id : String) : Nat :=
  match rules.find? (fun r => r.rule.id == id) with
  | none => 0
  | some r =>
      match r.rule.run d with
      | .error _ => 0
      | .ok raw => raw.length

/-- The number for an identifier is that of any rule which has it, if the rules that have it are one
rule. -/
theorem actual_eq_of_same {rules : List ConfiguredRule} {d : Document} {r : ConfiguredRule}
    (hr : r ∈ rules) (same : ∀ q ∈ rules, q.rule.id = r.rule.id → q.rule = r.rule)
    {raw : List Finding} (hrun : r.rule.run d = .ok raw) : actual rules d r.rule.id = raw.length := by
  unfold actual
  cases hq : rules.find? (fun q => q.rule.id == r.rule.id) with
  | none => exact absurd (beq_self_eq_true _) (List.find?_eq_none.1 hq r hr)
  | some q =>
      have hbeq := List.find?_some hq
      have hid : q.rule.id = r.rule.id := beq_iff_eq.1 hbeq
      simp only [same q (List.mem_of_find?_eq_some hq) hid, hrun]

theorem actual_eq {rules : List ConfiguredRule} {d : Document}
    (distinct : (rules.map (·.rule.id)).Nodup) {r : ConfiguredRule} (hr : r ∈ rules)
    {raw : List Finding} (hrun : r.rule.run d = .ok raw) : actual rules d r.rule.id = raw.length := by
  refine actual_eq_of_same hr ?_ hrun
  intro q hq hid
  rw [List.inj_on_of_nodup_map distinct hq hr hid]

theorem span_readAll {ws : List WrittenDirective} {ds : List Directive}
    (h : readAll ws = .ok ds) : ds.map (·.span) = ws.map fun w => ⟨w.start, w.stop⟩ := by
  induction ws generalizing ds with
  | nil =>
      cases h
      rfl
  | cons w ws ih =>
      rw [readAll] at h
      cases hdigits : Text.readNat w.digits with
      | error fault =>
          rw [hdigits] at h
          cases h
      | ok n =>
          cases hrest : readAll ws with
          | error fault =>
              rw [hdigits, hrest] at h
              cases h
          | ok rest =>
              rw [hdigits, hrest] at h
              cases h
              rw [List.map_cons, List.map_cons, ih hrest]

theorem directivesFor_of_find_nil {s : Text} {rule : String} (h : find s rule = .ok []) :
    directivesFor s rule = [] :=
  List.map_eq_nil_iff.1 (span_readAll h).symm

theorem directivesFor_of_find_singleton {s : Text} {rule : String} {e : Directive}
    (h : find s rule = .ok [e]) :
    ∃ w, directivesFor s rule = [w] ∧ e.span = ⟨w.start, w.stop⟩ := by
  obtain ⟨w, hw, hspan⟩ := List.map_eq_singleton_iff.1 (span_readAll h).symm
  exact ⟨w, hw, hspan.symm⟩

/-- The correction of a rule writes the number of its findings. -/
theorem isEntry_of_runRule {n : String → Nat} {r : ConfiguredRule} {d : Document}
    {result : RuleResult} {c : Correction}
    (hn : ∀ raw, r.rule.run d = .ok raw → n r.rule.id = raw.length)
    (h : Engine.runRule r d = .ok result) (hc : result.correction = some c) :
    c.rule = r.rule.id ∧ IsEntry d.source n c := by
  obtain ⟨raw, hrun, ⟨-, rfl⟩ | ⟨-, ds, hfind, rfl⟩⟩ := Engine.runRule_eq_ok_iff.1 h
  · cases hc
  · have hlength : (Finding.sort raw).length = n r.rule.id := by
      rw [length_sort, hn raw hrun]
    match ds, hfind, hc with
    | [], hfind, hcorrection =>
        simp only [Outcome.ofDirectives] at hcorrection
        split at hcorrection
        · cases hcorrection
        · cases hcorrection
          rw [hlength]
          exact ⟨rfl, .insertion (directivesFor_of_find_nil hfind)⟩
    | [e], hfind, hcorrection =>
        simp only [Outcome.ofDirectives] at hcorrection
        split at hcorrection
        · cases hcorrection
        · cases hcorrection
          obtain ⟨w, only, hspan⟩ := directivesFor_of_find_singleton hfind
          rw [hlength, hspan]
          exact ⟨rfl, .rewriting only⟩
    | _ :: _ :: _, hfind, hcorrection => cases hcorrection

/-- The corrections of rules come in the order of the rules, at most one of each. -/
theorem sublist_rules {n : String → Nat} {d : Document} {rules : List ConfiguredRule}
    {results : List RuleResult}
    (hn : ∀ r ∈ rules, ∀ raw, r.rule.run d = .ok raw → n r.rule.id = raw.length)
    (h : List.Forall₂ (fun r result => Engine.runRule r d = .ok result) rules results) :
    ((results.filterMap (·.correction)).map (·.rule)).Sublist (rules.map (·.rule.id)) := by
  induction h with
  | nil => exact List.Sublist.slnil
  | @cons r result rules results hrun _ ih =>
      have ih := ih fun q hq => hn q (List.mem_cons_of_mem r hq)
      cases hc : result.correction with
      | none =>
          rw [List.filterMap_cons_none hc, List.map_cons]
          exact ih.cons r.rule.id
      | some c =>
          have hrule := (isEntry_of_runRule (hn r List.mem_cons_self) hrun hc).1
          rw [List.filterMap_cons_some hc, List.map_cons, List.map_cons, hrule]
          exact ih.cons_cons r.rule.id

/-- The corrections of rules are a journal of the text, if the rules with one identifier have the same
number of findings. -/
theorem isJournal_of_run {n : String → Nat} {rules : List ConfiguredRule} {d : Document}
    {result : AuditResult} (nameable : ∀ r ∈ rules, Nameable r.rule.id)
    (hn : ∀ r ∈ rules, ∀ raw, r.rule.run d = .ok raw → n r.rule.id = raw.length)
    (h : Engine.run rules d = .ok result) :
    (∀ c ∈ result.corrections, ∃ r ∈ rules, r.rule.id = c.rule) ∧
      IsJournal d.source n result.corrections := by
  obtain ⟨results, hall, rfl⟩ := Engine.run_eq_ok_iff.1 h
  have origin : ∀ c ∈ (Engine.merge results).corrections,
      ∃ r ∈ rules, c.rule = r.rule.id ∧ IsEntry d.source n c := by
    intro c hc
    obtain ⟨result, hresult, hcorrection⟩ := List.mem_filterMap.1 hc
    obtain ⟨r, hr, hrun⟩ := Engine.exists_rule_of_mem hall hresult
    exact ⟨r, hr, isEntry_of_runRule (hn r hr) hrun hcorrection⟩
  refine ⟨?_, ?_, ?_⟩
  · intro c hc
    obtain ⟨r, hr, hrule, -⟩ := origin c hc
    exact ⟨r, hr, hrule.symm⟩
  · intro c hc
    obtain ⟨-, -, -, entry⟩ := origin c hc
    exact entry
  · intro c hc
    obtain ⟨r, hr, hrule, -⟩ := origin c hc
    rw [hrule]
    exact nameable r hr

/-- The corrections of different rules are a ledger of the text. -/
theorem isLedger_of_run {rules : List ConfiguredRule} {d : Document} {result : AuditResult}
    (distinct : (rules.map (·.rule.id)).Nodup) (nameable : ∀ r ∈ rules, Nameable r.rule.id)
    (h : Engine.run rules d = .ok result) :
    (∀ c ∈ result.corrections, ∃ r ∈ rules, r.rule.id = c.rule) ∧
      IsLedger d.source (actual rules d) result.corrections := by
  have hn : ∀ r ∈ rules, ∀ raw, r.rule.run d = .ok raw →
      actual rules d r.rule.id = raw.length := fun r hr raw => actual_eq distinct hr
  obtain ⟨origin, journal⟩ := isJournal_of_run nameable hn h
  obtain ⟨results, hall, rfl⟩ := Engine.run_eq_ok_iff.1 h
  exact ⟨origin, journal, List.pairwise_map.1 (distinct.sublist (sublist_rules hn hall))⟩

/-! ### What the corrections achieve -/

/-- Where the only directive for a rule has the number of some findings, these are absorbed and there
is nothing to correct. -/
theorem count_of_counts {text : Text} {rule : String} {found : List Finding}
    (h : counts text rule = .ok [found.length]) :
    Outcome.count rule found text = .ok ⟨[], none, none⟩ := by
  obtain ⟨e, hfind, hcount⟩ := find_of_counts h
  unfold Outcome.count
  rw [hfind]
  show Except.ok (Outcome.ofDirectives rule found [e]) = _
  rw [Outcome.ofDirectives, if_pos hcount, if_neg (by omega)]

/-- The corrections of rules, and the text that is left when they are made. They lie in the text and
do not overlap, and none is dropped. The corrected rules are rules that were run, each of which then
has one directive, with the number of its findings, so that any findings of that number are absorbed
by it. Every other rule has directives with the same numbers as before. -/
structure Reconciled (rules : List ConfiguredRule) (d : Document) (cs : List Correction)
    (text : Text) : Prop where
  inBounds : ∀ c ∈ cs, InBounds d.source c
  apart : cs.Pairwise Apart
  applied : Corrector.apply d.source cs = ⟨text, []⟩
  unchanged : d.fingerprint = MarkupAudit.fingerprint d.source →
    Corrector.applyTo d d.source cs = .ok ⟨text, []⟩
  origin : ∀ c ∈ cs, ∃ r ∈ rules, r.rule.id = c.rule
  corrected : ∀ r ∈ rules, ∀ c ∈ cs, c.rule = r.rule.id →
    ∃ raw, r.rule.run d = .ok raw ∧
      (∃ e, find text r.rule.id = .ok [e] ∧ e.count = raw.length) ∧
      ∀ found : List Finding, found.length = raw.length →
        Outcome.count r.rule.id found text = .ok ⟨[], none, none⟩
  others : ∀ rule : String, (∀ c ∈ cs, c.rule ≠ rule) → counts text rule = counts d.source rule

theorem exists_run_of_mem {rules : List ConfiguredRule} {d : Document} {result : AuditResult}
    (h : Engine.run rules d = .ok result) {r : ConfiguredRule} (hr : r ∈ rules) :
    ∃ raw, r.rule.run d = .ok raw := by
  obtain ⟨results, hall, -⟩ := Engine.run_eq_ok_iff.1 h
  obtain ⟨own, -, hrun⟩ := Engine.exists_result_of_mem hall hr
  obtain ⟨raw, hraw, -⟩ := Engine.runRule_eq_ok_iff.1 hrun
  exact ⟨raw, hraw⟩

/-- The corrections that running rules gives reconcile the directives with the findings. -/
theorem run_reconciles {rules : List ConfiguredRule} {d : Document} {result : AuditResult}
    (distinct : (rules.map (·.rule.id)).Nodup) (nameable : ∀ r ∈ rules, Nameable r.rule.id)
    (short : ∀ r ∈ rules, ∀ raw, r.rule.run d = .ok raw → raw.length < 10 ^ 4300)
    (h : Engine.run rules d = .ok result) :
    ∃ text, Reconciled rules d result.corrections text := by
  obtain ⟨origin, ledger⟩ := isLedger_of_run distinct nameable h
  have applied : Corrector.apply d.source result.corrections =
      ⟨(Corrector.apply d.source result.corrections).text, []⟩ := by
    rw [ledger.apply_eq]
  refine ⟨_, ledger.inBounds, ledger.apart, applied, ?_, origin, ?_, ?_⟩
  · intro hfingerprint
    unfold Corrector.applyTo
    rw [if_pos hfingerprint.symm, ← applied]
  · intro r hr c hc hrule
    obtain ⟨raw, hrun⟩ := exists_run_of_mem h hr
    have hnumber := actual_eq distinct hr hrun
    have hshort : actual rules d c.rule < 10 ^ NumeralTooLong.limit := by
      rw [hrule, hnumber, NumeralTooLong.limit]
      exact short r hr raw hrun
    have hcounts := ledger.counts_of_mem hc hshort
    rw [hrule, hnumber] at hcounts
    refine ⟨raw, hrun, find_of_counts hcounts, ?_⟩
    intro found hlength
    rw [← hlength] at hcounts
    exact count_of_counts hcounts
  · intro rule hrule
    exact ledger.counts_of_not_mem hrule

/-- A rule that reports the same places in every document. -/
def constantRule (id : String) (spans : List Span) : ConfiguredRule :=
  ⟨⟨id, id, "", true, true, fun _ => .ok (spans.map (Rule.finding id ""))⟩, { }⟩

/-- A rule without a directive and one with a wrong number. -/
def ledgerRules : List ConfiguredRule :=
  [constantRule "A" [⟨2, 5⟩], constantRule "B" []]

/-- A document with a directive right behind one that was begun and not finished. -/
def gluedDocument : Document :=
  let source := "\x7b# template-auditor:counter A\x7b# template-auditor:counter\tB 05#\x7d".toList
  ⟨source, MarkupAudit.fingerprint source, ⟨.document, ⟨0, source.length⟩, source, []⟩, none⟩

theorem run_reconciles_glued :
    ∃ result text, Engine.run ledgerRules gluedDocument = .ok result ∧
      result.corrections.length = 2 ∧
        Reconciled ledgerRules gluedDocument result.corrections text := by
  have completes : (Engine.run ledgerRules gluedDocument).toOption.map (·.corrections.length) =
      some 2 := by decide +kernel
  obtain ⟨result, hresult, hlength⟩ := Option.map_eq_some_iff.1 completes
  have hrun : Engine.run ledgerRules gluedDocument = .ok result := eq_ok_of_toOption hresult
  have short : ∀ r ∈ ledgerRules, ∀ raw, r.rule.run gluedDocument = .ok raw →
      raw.length < 10 ^ 4300 := by
    intro r hr raw hraw
    have few : raw.length < 10 := by
      simp only [ledgerRules, List.mem_cons, List.not_mem_nil, or_false] at hr
      rcases hr with rfl | rfl <;> cases hraw <;> decide
    exact Nat.lt_of_lt_of_le few (Nat.le_self_pow (by decide) 10)
  obtain ⟨text, reconciled⟩ := run_reconciles (by decide) (by decide) short hrun
  exact ⟨result, text, hrun, hlength, reconciled⟩

end MarkupAudit
