import MarkupAudit.Proofs.Audit.Merging
import MarkupAudit.Proofs.Audit.Rewriting
import MarkupAudit.Proofs.Audit.Rounds

/-!
# Convergence of rounds

The text that a round leaves is a template. A further round has nothing to correct in it if and only
if the rules find there as much as they found before (`round_converges_iff`). They do if the round
rewrote no directive outside of a comment. A directive in a code block or in a tag is part of what a
rule reads, so there the number that is written can be wrong as soon as it is written.
-/

namespace MarkupAudit

open Text Directive Corrector

theorem Corrector.apply_nil (text : Text) : apply text [] = ⟨text, []⟩ := by
  rw [apply, ordered, List.zipIdx_nil, List.mergeSort_nil]
  rfl

theorem ConfiguredRule.signs_of_shipped {q : ConfiguredRule}
    (shipped : ∃ e ∈ shippedRules, q.rule = e.rule) (d : Document) : q.Signs d := by
  obtain ⟨e, he, hrule⟩ := shipped
  intro raw hrun
  rw [hrule] at hrun ⊢
  exact rule_of_mem_run he hrun

/-! ### Rules with nothing to correct -/

/-- There is nothing to correct if there are too many directives, or the number of findings is the
number that is given, none being given as zero. -/
theorem Outcome.correction_eq_none_iff {rule : String} {raw : List Finding} {ds : List Directive} :
    (Outcome.ofDirectives rule raw ds).correction = none ↔
      (ds.length ≤ 1 → (ds.map (·.count)).sum = raw.length) := by
  match ds with
  | [] =>
      cases raw with
      | nil => simp [Outcome.ofDirectives]
      | cons f raw => simp [Outcome.ofDirectives]
  | [d] => simp [Outcome.ofDirectives]
  | _ :: _ :: _ => simp [Outcome.ofDirectives]

/-- A rule that has nothing to correct in a document. -/
def Engine.Settled (q : ConfiguredRule) (d : Document) : Prop :=
  ∃ result, Engine.runRule q d = .ok result ∧ result.correction = none

/-- A rule has nothing to correct if it can be run, and its findings are as many as the directives
say if they are counted. -/
theorem Engine.settled_iff {q : ConfiguredRule} {d : Document} :
    Engine.Settled q d ↔ ∃ raw, q.rule.run d = .ok raw ∧
      (q.counterActive = true → ∃ ns, counts d.source q.rule.id = .ok ns ∧
        (ns.length ≤ 1 → ns.sum = raw.length)) := by
  constructor
  · rintro ⟨result, hrun, hnone⟩
    obtain ⟨raw, hraw, ⟨hactive, -⟩ | ⟨-, ds, hfind, rfl⟩⟩ := Engine.runRule_eq_ok_iff.1 hrun
    · refine ⟨raw, hraw, fun h => ?_⟩
      rw [hactive] at h
      cases h
    · refine ⟨raw, hraw, fun _ => ⟨ds.map (·.count), map_eq_ok_iff.2 ⟨ds, hfind, rfl⟩, ?_⟩⟩
      have hsum := Outcome.correction_eq_none_iff.1 hnone
      rwa [length_sort, ← List.length_map (f := Directive.count)] at hsum
  · rintro ⟨raw, hraw, hcounted⟩
    by_cases hactive : q.counterActive = true
    · obtain ⟨ns, hcounts, hsum⟩ := hcounted hactive
      obtain ⟨ds, hfind, rfl⟩ := map_eq_ok_iff.1 hcounts
      refine ⟨_, Engine.runRule_eq_ok_iff.2 ⟨raw, hraw, .inr ⟨hactive, ds, hfind, rfl⟩⟩, ?_⟩
      rw [List.length_map] at hsum
      rwa [Outcome.correction_eq_none_iff, length_sort]
    · rw [Bool.not_eq_true] at hactive
      exact ⟨_, Engine.runRule_eq_ok_iff.2 ⟨raw, hraw, .inl ⟨hactive, rfl⟩⟩, rfl⟩

/-- Rules together have nothing to correct if none of them has. -/
theorem Engine.run_settled_iff {rules : List ConfiguredRule} {d : Document} :
    (∃ result, Engine.run rules d = .ok result ∧ result.corrections = []) ↔
      ∀ q ∈ rules, Engine.Settled q d := by
  constructor
  · rintro ⟨result, hrun, hnone⟩ q hq
    obtain ⟨results, hall, rfl⟩ := Engine.run_eq_ok_iff.1 hrun
    obtain ⟨own, hown, hq⟩ := Engine.exists_result_of_mem hall hq
    exact ⟨own, hq, List.filterMap_eq_nil_iff.1 hnone own hown⟩
  · intro h
    obtain ⟨results, hall, hnone⟩ : ∃ results,
        List.Forall₂ (fun q result => Engine.runRule q d = .ok result) rules results ∧
          ∀ result ∈ results, result.correction = none := by
      induction rules with
      | nil => exact ⟨[], .nil, List.forall_mem_nil _⟩
      | cons q rules ih =>
          obtain ⟨result, hrun, hnone⟩ := h q List.mem_cons_self
          obtain ⟨results, hall, hrest⟩ := ih fun p hp => h p (List.mem_cons_of_mem q hp)
          exact ⟨result :: results, .cons hrun hall, List.forall_mem_cons.2 ⟨hnone, hrest⟩⟩
    exact ⟨_, Engine.run_eq_ok_iff.2 ⟨results, hall, rfl⟩, List.filterMap_eq_nil_iff.2 hnone⟩

/-- The corrections of rules with different identifiers that are for one of them are its own. -/
theorem Engine.exists_own_result {rules : List ConfiguredRule} {d : Document}
    {result : AuditResult} (distinct : (rules.map (·.rule.id)).Nodup)
    (h : Engine.run rules d = .ok result) {q : ConfiguredRule} (hq : q ∈ rules) :
    ∃ own, Engine.runRule q d = .ok own ∧
      ∀ c, own.correction = some c ↔ c ∈ result.corrections ∧ c.rule = q.rule.id := by
  obtain ⟨results, hall, -⟩ := Engine.run_eq_ok_iff.1 h
  obtain ⟨own, -, hrun⟩ := Engine.exists_result_of_mem hall hq
  refine ⟨own, hrun, fun c => ?_⟩
  rw [← Option.mem_toList, ← Engine.filter_corrections distinct h hq hrun,
    List.mem_filter, beq_iff_eq]

/-! ### Counting again -/

theorem lt_of_readNat_ofNat {n m : Nat} (h : readNat (ofNat n) = .ok m) :
    n < 10 ^ NumeralTooLong.limit ∧ m = n := by
  unfold readNat at h
  by_cases hlength : (ofNat n).length ≤ NumeralTooLong.limit
  · rw [if_pos hlength, natOfDigits_ofNat] at h
    exact ⟨(Nat.length_toDigits_le_iff (by decide) (by decide)).1 hlength, (Except.ok.inj h).symm⟩
  · rw [if_neg hlength] at h
    cases h

theorem length_of_counts {s : Text} {rule : String} {ns : List Nat}
    (h : counts s rule = .ok ns) : ns.length = (directivesFor s rule).length := by
  obtain ⟨ds, hfind, rfl⟩ := map_eq_ok_iff.1 h
  have hlength := congrArg List.length (span_readAll hfind)
  rwa [List.length_map, List.length_map, ← List.length_map (f := Directive.count)] at hlength

/-- A text that the corrections of a ledger leave has a number for a rule of the ledger if the digits
of the number can be read. -/
theorem IsLedger.counts_eq_ok_iff {s : Text} {n : String → Nat} {cs : List Correction}
    (h : IsLedger s n cs) {c : Correction} (hc : c ∈ cs) (ns : List Nat) :
    counts (apply s cs).text c.rule = .ok ns ↔
      n c.rule < 10 ^ NumeralTooLong.limit ∧ ns = [n c.rule] := by
  constructor
  · intro hcounts
    rw [counts_eq, h.filter_spelled_of_mem hc, List.map_singleton, List.mapM_cons,
      List.mapM_nil] at hcounts
    cases hread : readNat (ofNat (n c.rule)) with
    | error fault =>
        rw [hread] at hcounts
        cases hcounts
    | ok m =>
        obtain ⟨hlt, rfl⟩ := lt_of_readNat_ofNat hread
        rw [hread] at hcounts
        cases hcounts
        exact ⟨hlt, rfl⟩
  · rintro ⟨hlt, rfl⟩
    exact h.counts_of_mem hc hlt

theorem IsEntry.length_directivesFor_le {s : Text} {n : String → Nat} {c : Correction}
    (h : IsEntry s n c) : (directivesFor s c.rule).length ≤ 1 := by
  cases h with
  | insertion missing => rw [missing]; exact Nat.zero_le 1
  | rewriting only => rw [only]; exact Nat.le_refl 1

section Again

variable {rules : List ConfiguredRule} {d : Document} {result : AuditResult} {q : ConfiguredRule}
  {raw : List Finding}

/-- When a number of findings is right for the directives of a rule that the corrections leave. -/
theorem counted_again_iff (distinct : (rules.map (·.rule.id)).Nodup)
    (nameable : ∀ r ∈ rules, Nameable r.rule.id) (h : Engine.run rules d = .ok result)
    (hq : q ∈ rules) (hactive : q.counterActive = true) (hraw : q.rule.run d = .ok raw) (k : Nat) :
    (∃ ns, counts (apply d.source result.corrections).text q.rule.id = .ok ns ∧
        (ns.length ≤ 1 → ns.sum = k)) ↔
      ((directivesFor d.source q.rule.id).length ≤ 1 → k = raw.length) ∧
        ((∃ c ∈ result.corrections, c.rule = q.rule.id) →
          raw.length < 10 ^ NumeralTooLong.limit) := by
  obtain ⟨-, ledger⟩ := isLedger_of_run distinct nameable h
  obtain ⟨own, hrun, hown⟩ := Engine.exists_own_result distinct h hq
  have hnumber : actual rules d q.rule.id = raw.length := actual_eq distinct hq hraw
  by_cases hcorrected : ∃ c ∈ result.corrections, c.rule = q.rule.id
  · obtain ⟨c, hc, hrule⟩ := hcorrected
    have few := (ledger.entries c hc).length_directivesFor_le
    have written := ledger.counts_eq_ok_iff hc
    rw [hrule] at few
    rw [hrule, hnumber] at written
    constructor
    · rintro ⟨ns, hcounts, hsum⟩
      obtain ⟨hlt, rfl⟩ := (written ns).1 hcounts
      have hk : [raw.length].sum = k := hsum (Nat.le_refl 1)
      exact ⟨fun _ => by rw [← hk, List.sum_singleton], fun _ => hlt⟩
    · rintro ⟨hk, hlt⟩
      refine ⟨[raw.length], (written _).2 ⟨hlt ⟨c, hc, hrule⟩, rfl⟩, fun _ => ?_⟩
      rw [hk few, List.sum_singleton]
  · have hnone : own.correction = none := by
      rw [Option.eq_none_iff_forall_ne_some]
      intro c hc
      exact hcorrected ⟨c, (hown c).1 hc⟩
    obtain ⟨raw', hraw', hcounted⟩ := Engine.settled_iff.1 ⟨own, hrun, hnone⟩
    rw [hraw] at hraw'
    cases hraw'
    obtain ⟨ns, hcounts, hsum⟩ := hcounted hactive
    have same := ledger.counts_of_not_mem fun c hc hrule => hcorrected ⟨c, hc, hrule⟩
    rw [same, hcounts, ← length_of_counts hcounts]
    constructor
    · rintro ⟨_, heq, hk⟩
      cases heq
      exact ⟨fun hle => by rw [← hk hle, hsum hle], fun hc => absurd hc hcorrected⟩
    · rintro ⟨hk, -⟩
      exact ⟨ns, rfl, fun hle => by rw [hsum hle, hk hle]⟩

/-- A document, and the document after the corrections: the rules can be run on both, and a rule that
has had at most one directive finds as much in the one as in the other if its findings are counted.
A number that was written has digits that can be read. -/
def Recounted (rules : List ConfiguredRule) (d e : Document) (cs : List Correction) : Prop :=
  ∀ q ∈ rules, ∃ raw raw', q.rule.run d = .ok raw ∧ q.rule.run e = .ok raw' ∧
    (q.counterActive = true → (directivesFor d.source q.rule.id).length ≤ 1 →
      raw'.length = raw.length) ∧
    ((∃ c ∈ cs, c.rule = q.rule.id) → raw.length < 10 ^ NumeralTooLong.limit)

/-- Only rules whose findings are counted have corrections. -/
theorem counterActive_of_mem (distinct : (rules.map (·.rule.id)).Nodup)
    (h : Engine.run rules d = .ok result) (hq : q ∈ rules)
    (hc : ∃ c ∈ result.corrections, c.rule = q.rule.id) : q.counterActive = true := by
  obtain ⟨own, hrun, hown⟩ := Engine.exists_own_result distinct h hq
  obtain ⟨c, hc⟩ := hc
  have hcorrection := (hown c).2 hc
  obtain ⟨_, -, ⟨-, rfl⟩ | ⟨hactive, -⟩⟩ := Engine.runRule_eq_ok_iff.1 hrun
  · cases hcorrection
  · exact hactive

/-- After the corrections there is nothing to correct if and only if the numbers are as before. -/
theorem settled_iff_recounted {e : Document} (distinct : (rules.map (·.rule.id)).Nodup)
    (nameable : ∀ r ∈ rules, Nameable r.rule.id) (h : Engine.run rules d = .ok result)
    (he : e.source = (apply d.source result.corrections).text) :
    (∀ q ∈ rules, Engine.Settled q e) ↔ Recounted rules d e result.corrections := by
  refine forall_congr' fun q => forall_congr' fun hq => ?_
  obtain ⟨raw, hraw⟩ := exists_run_of_mem h hq
  have again := fun hactive k => counted_again_iff distinct nameable h hq hactive hraw k
  rw [Engine.settled_iff, he]
  constructor
  · rintro ⟨raw', hraw', hcounted⟩
    refine ⟨raw, raw', hraw, hraw', fun hactive => ?_, fun hc => ?_⟩
    · exact ((again hactive raw'.length).1 (hcounted hactive)).1
    · have hactive := counterActive_of_mem distinct h hq hc
      exact ((again hactive raw'.length).1 (hcounted hactive)).2 hc
  · rintro ⟨_, raw', heq, hraw', hsame, hlt⟩
    rw [hraw] at heq
    cases heq
    exact ⟨raw', hraw', fun hactive => (again hactive raw'.length).2 ⟨hsame hactive, hlt⟩⟩

/-- A rule that was corrected has one directive then, so if there is nothing to correct there are no
findings left either. -/
theorem findings_eq_nil_of_corrected {e : Document} {again : RuleResult}
    (distinct : (rules.map (·.rule.id)).Nodup) (nameable : ∀ r ∈ rules, Nameable r.rule.id)
    (h : Engine.run rules d = .ok result)
    (he : e.source = (apply d.source result.corrections).text) (hq : q ∈ rules)
    (hc : ∃ c ∈ result.corrections, c.rule = q.rule.id) (hagain : Engine.runRule q e = .ok again)
    (hnone : again.correction = none) : again.findings = [] := by
  obtain ⟨raw, -, ⟨hactive, -⟩ | ⟨-, ds, hfind, rfl⟩⟩ := Engine.runRule_eq_ok_iff.1 hagain
  · rw [counterActive_of_mem distinct h hq hc] at hactive
    cases hactive
  · obtain ⟨-, ledger⟩ := isLedger_of_run distinct nameable h
    obtain ⟨c, hc, hrule⟩ := hc
    have hcounts : counts (apply d.source result.corrections).text c.rule =
        .ok (ds.map (·.count)) := by
      rw [hrule, ← he]
      exact map_eq_ok_iff.2 ⟨ds, hfind, rfl⟩
    obtain ⟨-, hsingle⟩ := (ledger.counts_eq_ok_iff hc _).1 hcounts
    obtain ⟨directive, rfl, -⟩ := List.map_eq_singleton_iff.1 hsingle
    have hcount : directive.count = (Finding.sort raw).length :=
      Outcome.correction_eq_none_iff.1 hnone (Nat.le_refl 1)
    rw [Outcome.ofDirectives, if_neg (by omega)]

end Again

/-! ### A further round -/

/-- A further round on the text that a round left completes, has nothing to correct and leaves the
text as it is, and shows no finding of a rule that was corrected. -/
def Converged (configs : List (String × RuleConfig)) (only : List String) (path : Option String)
    (r : Round) : Prop :=
  ∃ r', Round.run configs only path r.text = .ok r' ∧ r'.result.corrections = [] ∧
    r'.text = r.text ∧ ∀ c ∈ r.result.corrections, ∀ f ∈ r'.result.findings, f.rule ≠ c.rule

section Round

variable {configs : List (String × RuleConfig)} {only : List String} {path : Option String}
  {s : Text} {r : Round} {rules : List ConfiguredRule} {e : Document}

/-- No rule that was corrected has a finding if no rule has anything to correct. -/
theorem rule_ne_of_mem_findings (distinct : (rules.map (·.rule.id)).Nodup)
    (shipped : ∀ q ∈ rules, ∃ e ∈ shippedRules, q.rule = e.rule)
    (nameable : ∀ q ∈ rules, Nameable q.rule.id) {d : Document} {result again : AuditResult}
    (h : Engine.run rules d = .ok result)
    (he : e.source = (apply d.source result.corrections).text)
    (hagain : Engine.run rules e = .ok again) (hnone : again.corrections = []) :
    ∀ c ∈ result.corrections, ∀ f ∈ again.findings, f.rule ≠ c.rule := by
  obtain ⟨results, hall, rfl⟩ := Engine.run_eq_ok_iff.1 hagain
  intro c hc f hf hrule
  obtain ⟨own, hown, hf⟩ := List.mem_flatMap.1 (mem_sort.1 hf)
  obtain ⟨q, hq, hrun⟩ := Engine.exists_rule_of_mem hall hown
  have hid : f.rule = q.rule.id :=
    Engine.rule_of_mem_findings (ConfiguredRule.signs_of_shipped (shipped q hq) e) hrun f hf
  have hnil : own.findings = [] :=
    findings_eq_nil_of_corrected distinct nameable h he hq ⟨c, hc, by rw [← hrule, hid]⟩ hrun
      (List.filterMap_eq_nil_iff.1 hnone own hown)
  rw [hnil] at hf
  cases hf

/-- What the rules of a round and their corrections are. -/
theorem ledger_of_round (nodup : only.Nodup) (h : Round.run configs only path s = .ok r)
    (hbuild : Registry.shipped.build configs only = .ok rules) :
    Engine.run rules r.document = .ok r.result ∧ (rules.map (·.rule.id)).Nodup ∧
      (∀ q ∈ rules, Nameable q.rule.id) ∧
      IsLedger s (actual rules r.document) r.result.corrections ∧
      ∀ c ∈ r.result.corrections, Inert c.rule.toList := by
  obtain ⟨_, hparse, hbuild', hrun, -⟩ := Round.run_eq_ok_iff.1 h
  rw [hbuild] at hbuild'
  cases hbuild'
  obtain ⟨distinct, shipped⟩ := Registry.of_build nodup hbuild
  have names : ∀ q ∈ rules, Nameable q.rule.id ∧ Inert q.rule.id.toList := by
    intro q hq
    obtain ⟨e, he, hrule⟩ := shipped q hq
    rw [hrule]
    exact nameable_shipped e he
  obtain ⟨origin, ledger⟩ := isLedger_of_run distinct (fun q hq => (names q hq).1) hrun
  rw [(Document.fingerprint_of_parse hparse).1] at ledger
  refine ⟨hrun, distinct, fun q hq => (names q hq).1, ledger, ?_⟩
  intro c hc
  obtain ⟨q, hq, hid⟩ := origin c hc
  rw [← hid]
  exact (names q hq).2

theorem converged_iff (nodup : only.Nodup) (h : Round.run configs only path s = .ok r)
    (hbuild : Registry.shipped.build configs only = .ok rules)
    (he : Document.parse r.text path = .ok e) :
    Converged configs only path r ↔ Recounted rules r.document e r.result.corrections := by
  obtain ⟨hrun, distinct, nameable, -⟩ := ledger_of_round nodup h hbuild
  have shipped := (Registry.of_build nodup hbuild).2
  have hsource : e.source = (apply r.document.source r.result.corrections).text := by
    obtain ⟨_, hparse, -, -, htext⟩ := Round.run_eq_ok_iff.1 h
    rw [(Document.fingerprint_of_parse he).1, htext, (Document.fingerprint_of_parse hparse).1]
  rw [← settled_iff_recounted distinct nameable hrun hsource, ← Engine.run_settled_iff]
  constructor
  · rintro ⟨r', hround, hnone, -⟩
    obtain ⟨_, hparse', hbuild', hrun', -⟩ := Round.run_eq_ok_iff.1 hround
    rw [hbuild] at hbuild'
    cases hbuild'
    rw [he] at hparse'
    cases hparse'
    exact ⟨r'.result, hrun', hnone⟩
  · rintro ⟨again, hagain, hnone⟩
    have hsame : r.text = (apply r.text again.corrections).text := by
      rw [hnone, apply_nil]
    refine ⟨⟨e, again, r.text⟩, ?_, hnone, rfl, ?_⟩
    · exact Round.run_eq_ok_iff.2 ⟨rules, he, hbuild, hagain, hsame⟩
    · exact rule_ne_of_mem_findings distinct shipped nameable hrun hsource hagain hnone

/-- The text that a round leaves is a template. -/
theorem exists_parse_of_round (nodup : only.Nodup) (h : Round.run configs only path s = .ok r) :
    ∃ e, Document.parse r.text path = .ok e := by
  obtain ⟨rules, hparse, hbuild, -, htext⟩ := Round.run_eq_ok_iff.1 h
  obtain ⟨-, -, -, ledger, inert⟩ := ledger_of_round nodup h hbuild
  obtain ⟨ps, hps, -⟩ := Document.parse_eq_ok_iff.1 hparse
  obtain ⟨qs, hqs, -⟩ := hps.exists_rewrites _ inert
  have reads := ledger.reads_apply inert hqs
  rw [← htext] at reads
  exact ⟨_, Document.parse_eq_ok_iff.2 ⟨_, reads, rfl⟩⟩

/-- Where directives are rewritten in comments only, all rules find as much as before. -/
theorem recounted_of_inComment (nodup : only.Nodup) (h : Round.run configs only path s = .ok r)
    (hbuild : Registry.shipped.build configs only = .ok rules)
    (he : Document.parse r.text path = .ok e)
    (hidden : ∀ c ∈ r.result.corrections,
      c.isInsertion = true ∨ c.InCommentOf r.document.children)
    (short : ∀ c ∈ r.result.corrections,
      actual rules r.document c.rule < 10 ^ NumeralTooLong.limit) :
    Recounted rules r.document e r.result.corrections := by
  obtain ⟨hrun, distinct, -, ledger, inert⟩ := ledger_of_round nodup h hbuild
  obtain ⟨-, hparse, -, -, htext⟩ := Round.run_eq_ok_iff.1 h
  obtain ⟨ps, hps, -⟩ := Document.parse_eq_ok_iff.1 hparse
  have moved : MovedNodes anywhere r.document.children e.children := by
    rw [Document.children_of_parse hparse hps] at hidden ⊢
    obtain ⟨qs, hqs, moved⟩ := ledger.movedNodes inert hps hidden
    rw [← htext] at hqs
    rwa [Document.children_of_parse he hqs]
  intro q hq
  obtain ⟨raw, hraw⟩ := exists_run_of_mem hrun hq
  obtain ⟨source, hsource, hrule⟩ := (Registry.of_build nodup hbuild).2 q hq
  have hraw' := hraw
  rw [hrule] at hraw'
  obtain ⟨raw', hagain, hlength⟩ := run_moved hsource moved hraw'
  refine ⟨raw, raw', hraw, by rw [hrule]; exact hagain, fun _ _ => hlength, ?_⟩
  rintro ⟨c, hc, hid⟩
  have hlt := short c hc
  rwa [hid, actual_eq distinct hq hraw] at hlt

/-- The text that a round leaves is a template. A further round has nothing to do if and only if the
rules find in that text as much as they found before, and they do if all directives that were
rewritten stand in comments. -/
theorem round_converges_iff (nodup : only.Nodup) (h : Round.run configs only path s = .ok r) :
    ∃ rules e, Registry.shipped.build configs only = .ok rules ∧
      Document.parse r.text path = .ok e ∧
      (Converged configs only path r ↔ Recounted rules r.document e r.result.corrections) ∧
      ((∀ c ∈ r.result.corrections, c.isInsertion = true ∨ c.InCommentOf r.document.children) →
        (∀ c ∈ r.result.corrections,
          actual rules r.document c.rule < 10 ^ NumeralTooLong.limit) →
        Converged configs only path r) := by
  obtain ⟨rules, -, hbuild, -⟩ := Round.run_eq_ok_iff.1 h
  obtain ⟨e, he⟩ := exists_parse_of_round nodup h
  have condition := converged_iff nodup h hbuild he
  refine ⟨rules, e, hbuild, he, condition, fun hidden short => ?_⟩
  exact condition.2 (recounted_of_inComment nodup h hbuild he hidden short)

end Round

/-- The rules as they are built without configurations. -/
def defaultRules : List ConfiguredRule :=
  shippedRules.map fun e => ⟨e.rule, { }⟩

/-- A directive with a wrong number. -/
def loneDirective : Text :=
  "\x7b#template-auditor:counter Accessibility.AvoidGenericLinkTextCounter 5#\x7d".toList

/-- A call of the link helper with a directive in a string, spread over two lines so that the call is
no expression. -/
def brokenCall : Text :=
  "\x7b\x7b link_to('More', x='\x7b#\n template-auditor:counter".toList ++
    " Accessibility.AvoidGenericLinkTextCounter 5 #\x7d') \x7d\x7d".toList

/-- The call with the directive rewritten, on one line. -/
def mendedCall : Text :=
  "\x7b\x7b link_to('More', x='\x7b# template-auditor:counter".toList ++
    " Accessibility.AvoidGenericLinkTextCounter 0 #\x7d') \x7d\x7d".toList

/-- What a round with the rules as they are built without configurations gives. -/
def onDefaults {α : Type} (s : Text) (f : Document → AuditResult → α) : Option α :=
  (Document.parse s none).toOption.bind fun d =>
    (Engine.run defaultRules d).toOption.map (f d)

theorem exists_round_of_onDefaults {α : Type} {s : Text} {f : Document → AuditResult → α} {a : α}
    (h : onDefaults s f = some a) :
    ∃ r, Round.run [] [] none s = .ok r ∧ f r.document r.result = a ∧
      r.text = (apply s r.result.corrections).text := by
  obtain ⟨d, hparse, hd⟩ := Option.bind_eq_some_iff.1 h
  obtain ⟨result, hrun, hf⟩ := Option.map_eq_some_iff.1 hd
  exact ⟨⟨d, result, (apply s result.corrections).text⟩,
    Round.run_eq_ok_iff.2
      ⟨defaultRules, eq_ok_of_toOption hparse, rfl, eq_ok_of_toOption hrun, rfl⟩, hf, rfl⟩

/-- A round corrects a directive on its own once and for all. Not so one in a broken call: writing the
directive anew mends the call, and then there is a link to be found. -/
theorem round_converges_iff_call :
    (∃ r, Round.run [] [] none loneDirective = .ok r ∧ r.result.corrections.length = 1 ∧
        Converged [] [] none r) ∧
      ∃ r, Round.run [] [] none brokenCall = .ok r ∧ r.text = mendedCall ∧
        ¬ Converged [] [] none r := by
  constructor
  · have round : onDefaults loneDirective (fun d result => decide (result.corrections.length = 1 ∧
        ∀ c ∈ result.corrections, actual defaultRules d c.rule < 10 ∧
          ∃ n ∈ d.children, n.kind = .comment ∧ n.span.start ≤ c.span.start ∧
            c.span.stop ≤ n.span.stop)) = some true := by
      decide +kernel
    obtain ⟨r, hround, hresult, -⟩ := exists_round_of_onDefaults round
    obtain ⟨hlength, hcorrections⟩ := of_decide_eq_true hresult
    obtain ⟨rules, e, hbuild, -, -, converges⟩ := round_converges_iff List.nodup_nil hround
    cases hbuild
    refine ⟨r, hround, hlength, converges (fun c hc => .inr (hcorrections c hc).2) ?_⟩
    intro c hc
    exact Nat.lt_of_lt_of_le (hcorrections c hc).1 (Nat.le_self_pow (by decide) 10)
  · have round : onDefaults brokenCall (fun d result =>
        ((LinkText.run d).toOption.map List.length, (apply brokenCall result.corrections).text)) =
          some (some 0, mendedCall) := by
      decide +kernel
    have again : ((Document.parse mendedCall none).toOption.bind fun e =>
        (LinkText.run e).toOption.map List.length) = some 1 := by
      decide +kernel
    have few : (directivesFor brokenCall LinkText.id).length ≤ 1 := by
      decide +kernel
    obtain ⟨r, hround, hresult, htext⟩ := exists_round_of_onDefaults round
    obtain ⟨hfirst, hmended⟩ := Prod.mk.inj hresult
    rw [← htext] at hmended
    refine ⟨r, hround, hmended, fun converged => ?_⟩
    obtain ⟨rules, e, hbuild, he, condition, -⟩ := round_converges_iff List.nodup_nil hround
    cases hbuild
    obtain ⟨raw, raw', hraw, hraw', hsame, -⟩ :=
      condition.1 converged ⟨LinkText.rule, { }⟩ List.mem_cons_self
    have hsource : r.document.source = brokenCall := by
      obtain ⟨_, hparse, -⟩ := Round.run_eq_ok_iff.1 hround
      exact (Document.fingerprint_of_parse hparse).1
    have hlength := hsame rfl (by rw [hsource]; exact few)
    have hraw₀ : LinkText.run r.document = .ok raw := hraw
    have hraw₁ : LinkText.run e = .ok raw' := hraw'
    rw [hmended] at he
    rw [hraw₀] at hfirst
    rw [he] at again
    have hnone : raw.length = 0 := Option.some.inj hfirst
    have hone : (LinkText.run e).toOption.map List.length = some 1 := again
    rw [hraw₁] at hone
    have hone : raw'.length = 1 := Option.some.inj hone
    omega

end MarkupAudit
