import MarkupAudit.Proofs.Audit.Reconciliation
import MarkupAudit.Proofs.Audit.Rounds

/-!
# Ambiguous rules

Two directives for a rule are ignored, so a round should never leave a second one. A directive that is
there is rewritten in its place, however many rules want that. A rule without a directive gets a new
line instead, and it gets one as often as it was selected. So a round makes a rule ambiguous if and
only if it was selected more than once, has findings that are counted and has no directive yet
(`round_unambiguous_iff`).
-/

namespace MarkupAudit

open Text Directive Corrector

/-! ### Rules that get a new line -/

/-- A rule that gets a new line in a document: its findings are counted, it has no directive, and there
are findings. -/
def ConfiguredRule.wantsLine (q : ConfiguredRule) (d : Document) : Bool :=
  q.counterActive && (directivesFor d.source q.rule.id).isEmpty &&
    match q.rule.run d with
    | .error _ => false
    | .ok raw => !raw.isEmpty

theorem Outcome.isInsertion_ofDirectives_iff {rule : String} {raw : List Finding}
    {ds : List Directive} (proper : ∀ e ∈ ds, e.span.start < e.span.stop) :
    (Outcome.ofDirectives rule raw ds).correction.any (·.isInsertion) = true ↔
      ds = [] ∧ raw ≠ [] := by
  match ds, proper with
  | [], _ => cases raw <;> simp [Outcome.ofDirectives, Correction.isInsertion, Span.length]
  | [e], proper =>
      have hspan := proper e List.mem_cons_self
      have hlength : e.span.stop - e.span.start ≠ 0 := by omega
      simp only [Outcome.ofDirectives]
      split
      · simp
      · simp [Correction.isInsertion, Span.length, hlength]
  | _ :: _ :: _, _ => simp [Outcome.ofDirectives]

theorem bounds_of_find {s : Text} {rule : String} {ds : List Directive} (h : find s rule = .ok ds) :
    ∀ e ∈ ds, 0 ≤ e.span.start ∧ e.span.start < e.span.stop ∧ e.span.stop ≤ s.length := by
  intro e he
  have hspan : e.span ∈ (directivesFor s rule).map fun w => (⟨w.start, w.stop⟩ : Span) := by
    unfold directivesFor
    rw [← span_readAll h]
    exact List.mem_map_of_mem he
  obtain ⟨w, hw, heq⟩ := List.mem_map.1 hspan
  have := bounds_of_mem_written (mem_directivesFor.1 hw).1
  rw [← heq]
  simp only
  omega

theorem start_lt_stop_of_find {s : Text} {rule : String} {ds : List Directive}
    (h : find s rule = .ok ds) : ∀ e ∈ ds, e.span.start < e.span.stop :=
  fun e he => (bounds_of_find h e he).2.1

/-- The correction of a rule is a new line if and only if the rule wants one. -/
theorem Engine.isInsertion_iff {q : ConfiguredRule} {d : Document} {result : RuleResult}
    (h : Engine.runRule q d = .ok result) :
    result.correction.any (·.isInsertion) = q.wantsLine d := by
  obtain ⟨raw, hraw, ⟨hactive, rfl⟩ | ⟨hactive, ds, hfind, rfl⟩⟩ := Engine.runRule_eq_ok_iff.1 h
  · simp [ConfiguredRule.wantsLine, hactive]
  · have hnone : ds = [] ↔ directivesFor d.source q.rule.id = [] := by
      have hlength := congrArg List.length (span_readAll hfind)
      rw [List.length_map, List.length_map] at hlength
      rw [← List.length_eq_zero_iff, hlength, List.length_eq_zero_iff]
      rfl
    have hsort : Finding.sort raw ≠ [] ↔ raw ≠ [] := by
      rw [Ne, ← List.length_eq_zero_iff, length_sort, List.length_eq_zero_iff]
    rw [Bool.eq_iff_iff, Outcome.isInsertion_ofDirectives_iff (start_lt_stop_of_find hfind), hnone,
      hsort]
    simp [ConfiguredRule.wantsLine, hactive, hraw]

section Count

variable {n : String → Nat} {rules : List ConfiguredRule} {d : Document} {s : Text}
  {cs : List Correction}

/-- The rules with a given identifier get as many new lines as there are of them that want one. -/
theorem Engine.countP_corrections {results : List RuleResult}
    (hn : ∀ q ∈ rules, ∀ raw, q.rule.run d = .ok raw → n q.rule.id = raw.length)
    (h : List.Forall₂ (fun q result => Engine.runRule q d = .ok result) rules results)
    (rule : String) :
    (results.filterMap (·.correction)).countP (fun c => c.isInsertion && c.rule == rule) =
      rules.countP fun q => q.wantsLine d && q.rule.id == rule := by
  induction h with
  | nil => rfl
  | @cons q result rules results hrun _ ih =>
      have wanted := Engine.isInsertion_iff hrun
      rw [List.countP_cons, ← ih fun p hp => hn p (List.mem_cons_of_mem q hp), ← wanted]
      cases hc : result.correction with
      | none =>
          rw [List.filterMap_cons_none hc]
          rfl
      | some c =>
          obtain ⟨hrule, -⟩ := isEntry_of_runRule (hn q List.mem_cons_self) hrun hc
          rw [List.filterMap_cons_some hc, List.countP_cons, hrule]
          rfl

theorem length_filter_newLines (cs : List Correction) (rule : String) :
    ((newLines cs).filter fun c => c.rule == rule).length =
      cs.countP fun c => c.isInsertion && c.rule == rule := by
  have perm : (ordered cs).reverse.Perm cs := (List.reverse_perm _).trans (ordered_perm cs)
  rw [newLines, List.filter_filter, ← List.countP_eq_length_filter, perm.countP_eq]
  simp only [Bool.and_comm]

/-- A journal adds its new lines to the directives for a rule. -/
theorem IsJournal.length_directivesFor_apply (h : IsJournal s n cs) (rule : String) :
    (directivesFor (apply s cs).text rule).length =
      (directivesFor s rule).length + cs.countP fun c => c.isInsertion && c.rule == rule := by
  have hlength := congrArg List.length (h.filter_spelled_apply rule)
  rw [filter_spelled, List.length_map, List.length_append, List.length_map, List.length_map,
    List.length_map, length_filter_newLines] at hlength
  omega

end Count

/-! ### Rules that are built -/

section Build

variable {configs : List (String × RuleConfig)} {only : List String}
  {rules : List ConfiguredRule}

/-- Of an identifier only one rule is built, however often. -/
theorem Registry.eq_of_id_eq (h : Registry.shipped.build configs only = .ok rules)
    {p q : ConfiguredRule} (hp : p ∈ rules) (hq : q ∈ rules) (hid : p.rule.id = q.rule.id) :
    p = q := by
  obtain ⟨hconfig, -, e, he, hrule⟩ := Registry.mem_of_build h hp
  obtain ⟨hconfig', -, e', he', hrule'⟩ := Registry.mem_of_build h hq
  have heq : e = e' := by
    apply List.inj_on_of_nodup_map nodup_ids_shipped he he'
    rw [← hrule, ← hrule', hid]
  obtain ⟨rule, config⟩ := p
  obtain ⟨rule', config'⟩ := q
  cases hrule.trans (heq ▸ hrule'.symm)
  cases hconfig.trans hconfig'.symm
  rfl

/-- The corrections of the rules that are built are a journal, however often a rule is built. -/
theorem Registry.isJournal_of_run (h : Registry.shipped.build configs only = .ok rules) {d : Document}
    {result : AuditResult} (hrun : Engine.run rules d = .ok result) :
    (∀ q ∈ rules, ∀ raw, q.rule.run d = .ok raw → actual rules d q.rule.id = raw.length) ∧
      IsJournal d.source (actual rules d) result.corrections := by
  have nameable : ∀ q ∈ rules, Nameable q.rule.id := by
    intro q hq
    obtain ⟨-, -, e, he, hrule⟩ := Registry.mem_of_build h hq
    rw [hrule]
    exact (nameable_shipped e he).1
  have numbers : ∀ q ∈ rules, ∀ raw, q.rule.run d = .ok raw →
      actual rules d q.rule.id = raw.length := by
    intro q hq raw
    refine actual_eq_of_same hq fun p hp hid => ?_
    rw [Registry.eq_of_id_eq h hp hq hid]
  exact ⟨numbers, (MarkupAudit.isJournal_of_run nameable numbers hrun).2⟩

/-- A rule that is built at all is built as often as it is selected, once if all rules are. -/
theorem Registry.countP_of_build (h : Registry.shipped.build configs only = .ok rules)
    {q : ConfiguredRule} (hq : q ∈ rules) :
    (rules.countP fun p => p.rule.id == q.rule.id) =
      if only.isEmpty then 1 else only.count q.rule.id := by
  obtain ⟨hconfig, henabled, e, he, hrule⟩ := Registry.mem_of_build h hq
  obtain ⟨es, hids, -, rfl⟩ := Registry.exists_of_build h
  have selected : ((es.map fun e => (⟨e.rule, configOf configs e.rule.id⟩ : ConfiguredRule)).filter
      (·.config.enabled)).countP (fun p => p.rule.id == q.rule.id) =
        (es.map (·.rule.id)).count q.rule.id := by
    rw [List.countP_filter, List.countP_map, List.count, List.countP_map]
    refine List.countP_congr fun r _ => ?_
    simp only [Function.comp_apply, Bool.and_eq_true, beq_iff_eq]
    constructor
    · exact fun hr => hr.1
    · intro hid
      refine ⟨hid, ?_⟩
      rw [hid, ← hconfig]
      exact henabled
  rw [selected, hids]
  split
  · have hmem : q.rule.id ∈ shippedRules.map (·.rule.id) := by
      rw [hrule]
      exact List.mem_map_of_mem he
    exact List.count_eq_one_of_mem nodup_ids_shipped hmem
  · rfl

end Build

/-! ### Rounds -/

section Round

variable {configs : List (String × RuleConfig)} {only : List String} {path : Option String}
  {s : Text} {r : Round} {rules : List ConfiguredRule}

/-- A round adds directives for a rule as often as the rule is run and wants a new line. -/
theorem Round.length_directivesFor (h : Round.run configs only path s = .ok r)
    (hbuild : Registry.shipped.build configs only = .ok rules) (rule : String) :
    (directivesFor r.text rule).length = (directivesFor s rule).length +
      rules.countP fun q => q.wantsLine r.document && q.rule.id == rule := by
  obtain ⟨_, hparse, hbuild', hrun, htext⟩ := Round.run_eq_ok_iff.1 h
  rw [hbuild] at hbuild'
  cases hbuild'
  obtain ⟨numbers, journal⟩ := Registry.isJournal_of_run hbuild hrun
  obtain ⟨results, hall, hresult⟩ := Engine.run_eq_ok_iff.1 hrun
  rw [(Document.fingerprint_of_parse hparse).1] at journal
  rw [htext, journal.length_directivesFor_apply, ← Engine.countP_corrections numbers hall, hresult]
  rfl

/-- A round on a text without ambiguous rules makes a rule ambiguous if and only if it runs the rule
more than once and the rule wants a new line. -/
theorem unambiguous_iff (h : Round.run configs only path s = .ok r)
    (hbuild : Registry.shipped.build configs only = .ok rules)
    (before : ∀ rule, (directivesFor s rule).length ≤ 1) :
    (∀ rule, (directivesFor r.text rule).length ≤ 1) ↔
      ∀ q ∈ rules, q.wantsLine r.document = true → only.count q.rule.id ≤ 1 := by
  have added := Round.length_directivesFor h hbuild
  -- all rules with the identifier of one that wants a new line want one, so they are all counted
  have wanting : ∀ q ∈ rules, q.wantsLine r.document = true →
      (rules.countP fun p => p.wantsLine r.document && p.rule.id == q.rule.id) =
        if only.isEmpty then 1 else only.count q.rule.id := by
    intro q hq hwants
    rw [← Registry.countP_of_build hbuild hq]
    refine List.countP_congr fun p hp => ?_
    rw [Bool.and_eq_true, beq_iff_eq]
    refine ⟨fun hp => hp.2, fun hid => ⟨?_, hid⟩⟩
    rwa [Registry.eq_of_id_eq hbuild hp hq hid]
  constructor
  · intro after q hq hwants
    have hle := after q.rule.id
    rw [added, wanting q hq hwants] at hle
    split at hle
    · rename_i hempty
      rw [List.isEmpty_iff.1 hempty]
      exact Nat.zero_le 1
    · omega
  · intro single rule
    rw [added]
    by_cases hnone : (rules.countP fun q => q.wantsLine r.document && q.rule.id == rule) = 0
    · rw [hnone]
      exact before rule
    · obtain ⟨q, hq, hwants⟩ := List.countP_pos_iff.1 (Nat.pos_of_ne_zero hnone)
      rw [Bool.and_eq_true, beq_iff_eq] at hwants
      obtain ⟨hwants, rfl⟩ := hwants
      have missing : directivesFor s q.rule.id = [] := by
        obtain ⟨_, hparse, -⟩ := Round.run_eq_ok_iff.1 h
        rw [← (Document.fingerprint_of_parse hparse).1]
        simp only [ConfiguredRule.wantsLine, Bool.and_eq_true, List.isEmpty_iff] at hwants
        exact hwants.1.2
      rw [wanting q hq hwants, missing, List.length_nil, Nat.zero_add]
      split
      · exact Nat.le_refl 1
      · exact single q hq hwants

/-- What a round does to the directives of a template. It adds one for each time that a rule is run
which has findings and no directive, and removes none. So if no rule had two directives, no rule has
two afterwards if and only if none that gets a new line was selected twice. -/
theorem round_unambiguous_iff (h : Round.run configs only path s = .ok r) :
    ∃ rules, Registry.shipped.build configs only = .ok rules ∧
      (∀ rule, (directivesFor r.text rule).length = (directivesFor s rule).length +
        rules.countP fun q => q.wantsLine r.document && q.rule.id == rule) ∧
      ((∀ rule, (directivesFor s rule).length ≤ 1) →
        ((∀ rule, (directivesFor r.text rule).length ≤ 1) ↔
          ∀ q ∈ rules, q.wantsLine r.document = true → only.count q.rule.id ≤ 1)) := by
  obtain ⟨rules, -, hbuild, -⟩ := Round.run_eq_ok_iff.1 h
  exact ⟨rules, hbuild, Round.length_directivesFor h hbuild, unambiguous_iff h hbuild⟩

end Round

/-- A link with a generic text. -/
def genericLink : Text :=
  "<a>More</a>".toList

theorem exists_round_genericLink (k : Nat) (hk : 0 < k ∧ k ≤ 2) :
    ∃ r, Round.run [] (List.replicate k LinkText.id) none genericLink = .ok r ∧
      (⟨LinkText.rule, { }⟩ : ConfiguredRule).wantsLine r.document = true := by
  have completes : ∀ k ≤ 2, ((Document.parse genericLink none).toOption.bind fun d =>
      (Engine.run (List.replicate k ⟨LinkText.rule, { }⟩) d).toOption.map fun _ =>
        (⟨LinkText.rule, { }⟩ : ConfiguredRule).wantsLine d) = some true := by
    decide +kernel
  obtain ⟨d, hparse, hd⟩ := Option.bind_eq_some_iff.1 (completes k hk.2)
  obtain ⟨result, hrun, hwants⟩ := Option.map_eq_some_iff.1 hd
  have hbuild : Registry.shipped.build [] (List.replicate k LinkText.id) =
      .ok (List.replicate k ⟨LinkText.rule, { }⟩) := by
    obtain rfl | rfl : k = 1 ∨ k = 2 := by omega
    · rfl
    · rfl
  exact ⟨⟨d, result, (apply genericLink result.corrections).text⟩,
    Round.run_eq_ok_iff.2
      ⟨_, eq_ok_of_toOption hparse, hbuild, eq_ok_of_toOption hrun, rfl⟩, hwants⟩

/-- A round that runs the rule for links on a generic link leaves one directive, but two if the rule is
selected twice. -/
theorem round_unambiguous_iff_genericLink :
    (∃ r, Round.run [] [LinkText.id] none genericLink = .ok r ∧
        ∀ rule, (directivesFor r.text rule).length ≤ 1) ∧
      ∃ r, Round.run [] [LinkText.id, LinkText.id] none genericLink = .ok r ∧
        ¬ ∀ rule, (directivesFor r.text rule).length ≤ 1 := by
  have none : written 0 genericLink = [] := by
    decide +kernel
  have before : ∀ rule, (directivesFor genericLink rule).length ≤ 1 := by
    intro rule
    rw [directivesFor, none]
    exact Nat.zero_le 1
  constructor
  · obtain ⟨r, hround, -⟩ := exists_round_genericLink 1 (by decide)
    obtain ⟨rules, -, -, condition⟩ := round_unambiguous_iff hround
    exact ⟨r, hround, (condition before).2 fun q _ _ => List.count_le_length⟩
  · obtain ⟨r, hround, hwants⟩ := exists_round_genericLink 2 (by decide)
    obtain ⟨rules, hbuild, -, condition⟩ := round_unambiguous_iff hround
    cases hbuild
    refine ⟨r, hround, fun after => ?_⟩
    have single := (condition before).1 after ⟨LinkText.rule, { }⟩ List.mem_cons_self hwants
    have twice : [LinkText.id, LinkText.id].count LinkText.id = 2 := by decide
    exact absurd (Nat.le_trans (Nat.le_of_eq twice.symm) single) (by decide)

end MarkupAudit
