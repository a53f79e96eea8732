import MarkupAudit.Proofs.Audit.Reconciliation

/-!
# Rules side by side

The findings of several rules are merged by a stable sort. Those of one rule are in order before, so
they come out in that order, with the findings of other rules in between (`Finding.filter_sort`). What
a run says of a rule is therefore what the rule says alone (`Engine.about_of_run`), and the rules that
are run with it make no difference (`run_noninterference`).
-/

namespace MarkupAudit

/-! ### Findings in order -/

/-- Findings in the order of where they begin. -/
def Finding.InOrder (fs : List Finding) : Prop :=
  fs.Pairwise fun f g => f.span.start ≤ g.span.start

namespace Finding

theorem start_le_trans (f g h : Finding) (hfg : decide (f.span.start ≤ g.span.start) = true)
    (hgh : decide (g.span.start ≤ h.span.start) = true) :
    decide (f.span.start ≤ h.span.start) = true :=
  decide_eq_true (Int.le_trans (of_decide_eq_true hfg) (of_decide_eq_true hgh))

theorem start_le_total (f g : Finding) :
    (decide (f.span.start ≤ g.span.start) || decide (g.span.start ≤ f.span.start)) = true := by
  rw [Bool.or_eq_true, decide_eq_true_eq, decide_eq_true_eq]
  exact Int.le_total _ _

theorem inOrder_sort (fs : List Finding) : InOrder (sort fs) := by
  have sorted := List.pairwise_mergeSort start_le_trans start_le_total fs
  exact sorted.imp fun h => of_decide_eq_true h

/-- The findings of a class that are in order stay as they are when all findings are sorted. -/
theorem filter_sort {p : Finding → Bool} {fs : List Finding} (order : InOrder (fs.filter p)) :
    (sort fs).filter p = fs.filter p := by
  have stays : (fs.filter p).Sublist (sort fs) :=
    List.sublist_mergeSort start_le_trans start_le_total (order.imp fun h => decide_eq_true h)
      List.filter_sublist
  have inside : (fs.filter p).Sublist ((sort fs).filter p) := by
    have h := stays.filter p
    rwa [List.filter_eq_self.2 fun f hf => (List.mem_filter.1 hf).2] at h
  have perm : ((sort fs).filter p).Perm (fs.filter p) := (List.mergeSort_perm fs _).filter p
  exact (inside.eq_of_length perm.length_eq.symm).symm

end Finding

theorem Outcome.inOrder_ofDirectives (rule : String) (raw : List Finding) (ds : List Directive) :
    Finding.InOrder (Outcome.ofDirectives rule raw ds).findings := by
  unfold Outcome.ofDirectives
  split
  · split
    · exact List.Pairwise.nil
    · exact List.pairwise_singleton _ _
  · dsimp only
    split
    · exact List.pairwise_singleton _ _
    · exact List.Pairwise.nil
  · exact Finding.inOrder_sort _

theorem Outcome.rule_of_mem_ofDirectives (rule : String) (raw : List Finding)
    (ds : List Directive) : ∀ f ∈ (Outcome.ofDirectives rule raw ds).findings, f.rule = rule := by
  intro f hf
  unfold Outcome.ofDirectives at hf
  grind [mem_sort, noDirective, tooMany, severalDirectives, noUsableDirective]

/-! ### What a run says of a rule -/

/-- A rule whose findings in a document carry its own identifier. -/
def ConfiguredRule.Signs (r : ConfiguredRule) (d : Document) : Prop :=
  ∀ raw, r.rule.run d = .ok raw → ∀ f ∈ raw, f.rule = r.rule.id

/-- What a result says of the rule with an identifier. -/
def AuditResult.about (result : AuditResult) (id : String) : List Finding × List Correction :=
  (result.findings.filter (·.rule == id), result.corrections.filter (·.rule == id))

namespace Engine

variable {d : Document} {rules : List ConfiguredRule} {r : ConfiguredRule}

theorem inOrder_of_runRule {result : RuleResult} (h : runRule r d = .ok result) :
    Finding.InOrder result.findings := by
  obtain ⟨raw, -, ⟨-, rfl⟩ | ⟨-, ds, -, rfl⟩⟩ := runRule_eq_ok_iff.1 h
  · exact Finding.inOrder_sort raw
  · exact Outcome.inOrder_ofDirectives _ _ ds

theorem rule_of_mem_findings {result : RuleResult} (signs : r.Signs d)
    (h : runRule r d = .ok result) : ∀ f ∈ result.findings, f.rule = r.rule.id := by
  obtain ⟨raw, hrun, ⟨-, rfl⟩ | ⟨-, ds, -, rfl⟩⟩ := runRule_eq_ok_iff.1 h
  · intro f hf
    exact signs raw hrun f (mem_sort.1 hf)
  · exact Outcome.rule_of_mem_ofDirectives _ _ ds

theorem rule_of_correction {result : RuleResult} {c : Correction} (h : runRule r d = .ok result)
    (hc : result.correction = some c) : c.rule = r.rule.id := by
  obtain ⟨raw, hrun, -⟩ := runRule_eq_ok_iff.1 h
  have hn : ∀ raw', r.rule.run d = .ok raw' → raw.length = raw'.length := by
    intro raw' hrun'
    rw [hrun] at hrun'
    cases hrun'
    rfl
  exact (isEntry_of_runRule (n := fun _ => raw.length) hn h hc).1

/-- Of what several rules say, the part with the identifier of a rule is what this rule says. -/
theorem filter_flatMap {β : Type} {part : RuleResult → List β} {name : β → String}
    (named : ∀ q ∈ rules, ∀ result, runRule q d = .ok result →
      ∀ b ∈ part result, name b = q.rule.id)
    (distinct : (rules.map (·.rule.id)).Nodup) {results : List RuleResult}
    (h : List.Forall₂ (fun q result => runRule q d = .ok result) rules results) (hr : r ∈ rules)
    {own : RuleResult} (hown : runRule r d = .ok own) :
    (results.flatMap part).filter (name · == r.rule.id) = part own := by
  induction h with
  | nil => cases hr
  | @cons q first rules results hfirst hrest ih =>
      rw [List.map_cons, List.nodup_cons] at distinct
      obtain ⟨hnew, distinct⟩ := distinct
      obtain ⟨hnamed, others⟩ := List.forall_mem_cons.1 named
      rw [List.flatMap_cons, List.filter_append]
      rcases List.mem_cons.1 hr with rfl | hr
      · have all : (part first).filter (name · == r.rule.id) = part first :=
          List.filter_eq_self.2 fun b hb => beq_iff_eq.2 (hnamed first hfirst b hb)
        have none : (results.flatMap part).filter (name · == r.rule.id) = [] := by
          rw [List.filter_eq_nil_iff]
          intro b hb hbeq
          obtain ⟨result, hresult, hb⟩ := List.mem_flatMap.1 hb
          obtain ⟨p, hp, hrun⟩ := exists_rule_of_mem hrest hresult
          refine hnew (List.mem_map.2 ⟨p, hp, ?_⟩)
          rw [← others p hp result hrun b hb, beq_iff_eq.1 hbeq]
        rw [all, none, List.append_nil]
        rw [hfirst] at hown
        cases hown
        rfl
      · have none : (part first).filter (name · == r.rule.id) = [] := by
          rw [List.filter_eq_nil_iff]
          intro b hb hbeq
          refine hnew (List.mem_map.2 ⟨r, hr, ?_⟩)
          rw [← hnamed first hfirst b hb, beq_iff_eq.1 hbeq]
        rw [none, List.nil_append]
        exact ih others distinct hr

/-- The corrections of a run that are for a rule are that of the rule, if it has one. -/
theorem filter_corrections {result : AuditResult} (distinct : (rules.map (·.rule.id)).Nodup)
    (h : run rules d = .ok result) (hr : r ∈ rules) {own : RuleResult}
    (hown : runRule r d = .ok own) :
    result.corrections.filter (·.rule == r.rule.id) = own.correction.toList := by
  obtain ⟨results, hall, rfl⟩ := run_eq_ok_iff.1 h
  rw [merge, List.filterMap_eq_flatMap_toList]
  exact filter_flatMap (fun q _ result hrun c hc =>
    rule_of_correction hrun (Option.mem_toList.1 hc)) distinct hall hr hown

/-- The findings of a run that are of a rule are those of the rule, in their order. -/
theorem filter_findings {result : AuditResult} (distinct : (rules.map (·.rule.id)).Nodup)
    (signs : ∀ q ∈ rules, q.Signs d) (h : run rules d = .ok result) (hr : r ∈ rules)
    {own : RuleResult} (hown : runRule r d = .ok own) :
    result.findings.filter (·.rule == r.rule.id) = own.findings := by
  obtain ⟨results, hall, rfl⟩ := run_eq_ok_iff.1 h
  have unsorted : (results.flatMap (·.findings)).filter (·.rule == r.rule.id) = own.findings :=
    filter_flatMap (fun q hq result hrun => rule_of_mem_findings (signs q hq) hrun) distinct hall
      hr hown
  have order : Finding.InOrder
      ((results.flatMap (·.findings)).filter (·.rule == r.rule.id)) := by
    rw [unsorted]
    exact inOrder_of_runRule hown
  rw [merge, Finding.filter_sort order, unsorted]

/-- What a run says of a rule is what the rule says alone. -/
theorem about_of_run {result : AuditResult} (distinct : (rules.map (·.rule.id)).Nodup)
    (signs : ∀ q ∈ rules, q.Signs d) (h : run rules d = .ok result) (hr : r ∈ rules) :
    ∃ own, runRule r d = .ok own ∧
      result.about r.rule.id = (own.findings, own.correction.toList) := by
  obtain ⟨results, hall, -⟩ := run_eq_ok_iff.1 h
  obtain ⟨own, -, hown⟩ := exists_result_of_mem hall hr
  refine ⟨own, hown, ?_⟩
  rw [AuditResult.about, filter_findings distinct signs h hr hown,
    filter_corrections distinct h hr hown]

end Engine

/-- The findings of a run are those of its rules one after another, put in order. -/
structure AuditResult.IsMerged (rules : List ConfiguredRule) (d : Document) (result : AuditResult) :
    Prop where
  order : Finding.InOrder result.findings
  perm : ∃ results, List.Forall₂ (fun r own => Engine.runRule r d = .ok own) rules results ∧
    result.findings.Perm (results.flatMap (·.findings))

theorem Engine.isMerged_of_run {rules : List ConfiguredRule} {d : Document} {result : AuditResult}
    (h : Engine.run rules d = .ok result) : result.IsMerged rules d := by
  obtain ⟨results, hall, rfl⟩ := Engine.run_eq_ok_iff.1 h
  exact ⟨Finding.inOrder_sort _, results, hall, List.mergeSort_perm _ _⟩

/-- Rules do not interfere: two runs say the same of a rule that is run in both, and it is what the rule
says alone. -/
theorem run_noninterference {d : Document} {rules rules' : List ConfiguredRule}
    {result result' : AuditResult} (distinct : (rules.map (·.rule.id)).Nodup)
    (distinct' : (rules'.map (·.rule.id)).Nodup) (signs : ∀ q ∈ rules, q.Signs d)
    (signs' : ∀ q ∈ rules', q.Signs d) (h : Engine.run rules d = .ok result)
    (h' : Engine.run rules' d = .ok result') {r : ConfiguredRule} (hr : r ∈ rules)
    (hr' : r ∈ rules') :
    (∃ own, Engine.runRule r d = .ok own ∧
      result.about r.rule.id = (own.findings, own.correction.toList) ∧
      result'.about r.rule.id = (own.findings, own.correction.toList)) ∧
    result.IsMerged rules d ∧ result'.IsMerged rules' d := by
  obtain ⟨own, hown, habout⟩ := Engine.about_of_run distinct signs h hr
  obtain ⟨own', hown', habout'⟩ := Engine.about_of_run distinct' signs' h' hr'
  rw [hown] at hown'
  cases hown'
  exact ⟨⟨own, hown, habout, habout'⟩, Engine.isMerged_of_run h, Engine.isMerged_of_run h'⟩

/-- A rule that is not counted and reports three places, two of which begin together. -/
def uncountedRule : ConfiguredRule :=
  { constantRule "B" [⟨20, 21⟩, ⟨0, 9⟩, ⟨0, 3⟩] with config := { counter := some false } }

/-- A document with two directives for the same rule. -/
def repeatedDirective : Document :=
  let source := Directive.render "A" 1 ++ Directive.render "A" 2
  ⟨source, MarkupAudit.fingerprint source, ⟨.document, ⟨0, source.length⟩, source, []⟩, none⟩

theorem signs_constantRule (id : String) (spans : List Span) (d : Document) :
    (constantRule id spans).Signs d := by
  intro raw hraw f hf
  cases hraw
  obtain ⟨span, -, rfl⟩ := List.mem_map.1 hf
  rfl

/-- Once the rule runs behind one whose directives are ambiguous, once before one that has none. -/
theorem run_noninterference_uncounted :
    ∃ result result' own,
      Engine.run [constantRule "A" [⟨0, 5⟩, ⟨40, 41⟩], uncountedRule] repeatedDirective = .ok result ∧
      Engine.run [uncountedRule, constantRule "C" [⟨0, 1⟩]] repeatedDirective = .ok result' ∧
      result.corrections.length = 0 ∧ result'.corrections.length = 1 ∧
      Engine.runRule uncountedRule repeatedDirective = .ok own ∧
      result.about "B" = (own.findings, own.correction.toList) ∧
      result'.about "B" = (own.findings, own.correction.toList) := by
  have completes : (Engine.run [constantRule "A" [⟨0, 5⟩, ⟨40, 41⟩], uncountedRule]
      repeatedDirective).toOption.map (·.corrections.length) = some 0 := by decide +kernel
  have completes' : (Engine.run [uncountedRule, constantRule "C" [⟨0, 1⟩]]
      repeatedDirective).toOption.map (·.corrections.length) = some 1 := by decide +kernel
  obtain ⟨result, hresult, hlength⟩ := Option.map_eq_some_iff.1 completes
  obtain ⟨result', hresult', hlength'⟩ := Option.map_eq_some_iff.1 completes'
  have hrun := eq_ok_of_toOption hresult
  have hrun' := eq_ok_of_toOption hresult'
  have signs : uncountedRule.Signs repeatedDirective := signs_constantRule "B" _ _
  obtain ⟨⟨own, hown, habout, habout'⟩, -, -⟩ := run_noninterference (by decide) (by decide)
    (List.forall_mem_cons.2 ⟨signs_constantRule "A" _ _, List.forall_mem_singleton.2 signs⟩)
    (List.forall_mem_cons.2 ⟨signs, List.forall_mem_singleton.2 (signs_constantRule "C" _ _)⟩)
    hrun hrun' (List.mem_cons_of_mem _ List.mem_cons_self) List.mem_cons_self
  exact ⟨result, result', own, hrun, hrun', hlength, hlength', hown, habout, habout'⟩

end MarkupAudit
