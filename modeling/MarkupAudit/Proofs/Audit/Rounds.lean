import MarkupAudit.Audit.Round
import MarkupAudit.Proofs.Rule.Findings
import MarkupAudit.Proofs.Rule.Registration
import MarkupAudit.Proofs.Counter.Spelling
import MarkupAudit.Proofs.Template.Respelling
import MarkupAudit.Proofs.Template.Tokenization

/-!
# Rounds

A round completes if its template is read, its rules exist and all of them can be run
(`Round.run_eq_ok_iff`). The rules are those of the library that are selected and enabled, each as
often as it is selected (`Registry.exists_of_build`).
-/

namespace MarkupAudit

open Text Directive Corrector

theorem Document.fingerprint_of_parse {s : Text} {path : Option String} {d : Document}
    (h : Document.parse s path = .ok d) : d.source = s ∧ d.fingerprint = MarkupAudit.fingerprint s := by
  obtain ⟨ps, -, rfl⟩ := Document.parse_eq_ok_iff.1 h
  exact ⟨rfl, rfl⟩

theorem Document.children_of_parse {s : Text} {path : Option String} {d : Document}
    {ps : List Piece} (h : Document.parse s path = .ok d) (hs : Reads s ps) :
    d.children = Layout.nodes 0 ps := by
  obtain ⟨qs, hqs, rfl⟩ := Document.parse_eq_ok_iff.1 h
  have hpieces := (Scan.pieces_of_reads hqs).symm.trans (Scan.pieces_of_reads hs)
  rw [← Except.ok.inj hpieces]
  rfl

/-- A round completes if the template is read, the rules exist and all of them can be run. -/
theorem Round.run_eq_ok_iff {configs : List (String × RuleConfig)} {only : List String}
    {path : Option String} {s : Text} {r : Round} :
    Round.run configs only path s = .ok r ↔
      ∃ rules, Document.parse s path = .ok r.document ∧
        Registry.shipped.build configs only = .ok rules ∧
        Engine.run rules r.document = .ok r.result ∧
        r.text = (apply s r.result.corrections).text := by
  unfold Round.run
  constructor
  · intro h
    cases hparse : Document.parse s path with
    | error m =>
        rw [hparse] at h
        cases h
    | ok d =>
        cases hbuild : Registry.shipped.build configs only with
        | error e =>
            rw [hparse, hbuild] at h
            cases h
        | ok rules =>
            cases hrun : Engine.run rules d with
            | error e =>
                rw [hparse, hbuild] at h
                simp only [hrun] at h
                cases h
            | ok result =>
                have hprint := (Document.fingerprint_of_parse hparse).2
                rw [hparse, hbuild] at h
                simp only [hrun, applyTo, hprint, if_true] at h
                cases h
                exact ⟨rules, rfl, rfl, hrun, rfl⟩
  · rintro ⟨rules, hparse, hbuild, hrun, htext⟩
    have hprint := (Document.fingerprint_of_parse hparse).2
    rw [hparse, hbuild]
    simp only [hrun, applyTo, hprint, if_true, ← htext]

/-! ### The rules of the library -/

/-- The identifiers of the rules can stand in directives and mean nothing to the scanners. -/
theorem nameable_shipped : ∀ e ∈ shippedRules, Nameable e.rule.id ∧ Inert e.rule.id.toList := by
  decide +kernel

theorem Registry.getAll_cons_eq_ok_iff {r : Registry} {id : String} {only : List String}
    {es : List Registration} :
    r.getAll (id :: only) = .ok es ↔
      ∃ e rest, r.find? id = some e ∧ r.getAll only = .ok rest ∧ es = e :: rest := by
  rw [Registry.getAll, Registry.get]
  cases r.find? id with
  | none => simp
  | some e => simp [map_eq_ok_iff]

theorem Registry.of_getAll {only : List String} {es : List Registration}
    (h : Registry.shipped.getAll only = .ok es) :
    es.map (·.rule.id) = only ∧ ∀ e ∈ es, e ∈ shippedRules := by
  induction only generalizing es with
  | nil =>
      cases h
      exact ⟨rfl, List.forall_mem_nil _⟩
  | cons id only ih =>
      obtain ⟨e, rest, hfind, hrest, rfl⟩ := Registry.getAll_cons_eq_ok_iff.1 h
      obtain ⟨hids, hrest⟩ := ih hrest
      have hbeq := List.find?_some hfind
      have hid : e.rule.id = id := beq_iff_eq.1 hbeq
      refine ⟨by rw [List.map_cons, hid, hids], List.forall_mem_cons.2 ⟨?_, hrest⟩⟩
      exact List.mem_of_find?_eq_some hfind

/-- The rules that are built are the selected rules of the library that are enabled, each with the
configuration for its identifier. -/
theorem Registry.exists_of_build {configs : List (String × RuleConfig)} {only : List String}
    {rules : List ConfiguredRule} (h : Registry.shipped.build configs only = .ok rules) :
    ∃ es : List Registration,
      es.map (·.rule.id) = (if only.isEmpty then shippedRules.map (·.rule.id) else only) ∧
        (∀ e ∈ es, e ∈ shippedRules) ∧ rules =
          (es.map fun e => (⟨e.rule, configOf configs e.rule.id⟩ : ConfiguredRule)).filter
            (·.config.enabled) := by
  unfold Registry.build at h
  by_cases hempty : only.isEmpty = true
  · rw [if_pos hempty] at h ⊢
    cases h
    exact ⟨shippedRules, rfl, fun e he => he, rfl⟩
  · rw [if_neg hempty] at h ⊢
    obtain ⟨es, hall, rfl⟩ := map_eq_ok_iff.1 h
    obtain ⟨hids, hes⟩ := Registry.of_getAll hall
    exact ⟨es, hids, hes, rfl⟩

theorem Registry.mem_of_build {configs : List (String × RuleConfig)} {only : List String}
    {rules : List ConfiguredRule} (h : Registry.shipped.build configs only = .ok rules)
    {q : ConfiguredRule} (hq : q ∈ rules) :
    q.config = configOf configs q.rule.id ∧ q.config.enabled = true ∧
      ∃ e ∈ shippedRules, q.rule = e.rule := by
  obtain ⟨es, -, hes, rfl⟩ := Registry.exists_of_build h
  obtain ⟨hmem, henabled⟩ := List.mem_filter.1 hq
  obtain ⟨e, he, rfl⟩ := List.mem_map.1 hmem
  exact ⟨rfl, henabled, e, hes e he, rfl⟩

/-- The rules that are built are rules of the library, each of them at most once. -/
theorem Registry.of_build {configs : List (String × RuleConfig)} {only : List String}
    {rules : List ConfiguredRule} (nodup : only.Nodup)
    (h : Registry.shipped.build configs only = .ok rules) :
    (rules.map (·.rule.id)).Nodup ∧ ∀ q ∈ rules, ∃ e ∈ shippedRules, q.rule = e.rule := by
  refine ⟨?_, fun q hq => (Registry.mem_of_build h hq).2.2⟩
  obtain ⟨es, hids, -, rfl⟩ := Registry.exists_of_build h
  have hmap : ((es.map fun e => (⟨e.rule, configOf configs e.rule.id⟩ : ConfiguredRule)).map
      (·.rule.id)) = es.map (·.rule.id) := by rw [List.map_map]; rfl
  have hnodup : (es.map (·.rule.id)).Nodup := by
    rw [hids]
    split
    · exact nodup_ids_shipped
    · exact nodup
  exact (hmap ▸ hnodup).sublist (List.filter_sublist.map _)

end MarkupAudit
