import MarkupAudit.Proofs.Audit.Ambiguity
import MarkupAudit.Proofs.Audit.Isolation
import MarkupAudit.Proofs.Audit.Merging
import MarkupAudit.Proofs.Rule.Sites
import MarkupAudit.Proofs.Text.Lines

/-!
# Where findings are reported

The offsets of a text and its places correspond to each other, in the same order (`Text.IsPlaced`).
What a rule finds begins in the text, and so does what its directives give (`Engine.begins_of_run`). So
findings that begin at different offsets are reported at different places, in the same order
(`findings_placed`).
-/

namespace MarkupAudit

open Directive

/-! ### Where findings begin -/

/-- Findings that begin in a text, or at its end. -/
def Finding.BeginIn (s : Text) (fs : List Finding) : Prop :=
  ∀ f ∈ fs, 0 ≤ f.span.start ∧ f.span.start ≤ s.length

section Begins

variable {s : Text} {raw : List Finding}

theorem Outcome.firstSpan_begins (h : Finding.BeginIn s raw) :
    0 ≤ (firstSpan raw).start ∧ (firstSpan raw).start ≤ s.length := by
  cases raw with
  | nil => exact ⟨Int.le_refl 0, Int.natCast_nonneg _⟩
  | cons f raw => exact h f List.mem_cons_self

/-- The findings that directives give begin where a directive begins or where the first finding does. -/
theorem Outcome.beginIn_ofDirectives {rule : String} {ds : List Directive}
    (h : Finding.BeginIn s raw) (hfind : find s rule = .ok ds) :
    Finding.BeginIn s (Outcome.ofDirectives rule raw ds).findings := by
  have hfirst := firstSpan_begins h
  have hwritten := bounds_of_find hfind
  intro f hf
  match ds with
  | [] =>
      simp only [ofDirectives] at hf
      split at hf
      · cases hf
      · cases List.mem_singleton.1 hf
        exact hfirst
  | [d] =>
      have hd := hwritten d List.mem_cons_self
      simp only [ofDirectives] at hf
      split at hf
      · cases List.mem_singleton.1 hf
        simp only [tooMany]
        omega
      · cases hf
  | _ :: e :: _ =>
      have he := hwritten e (List.mem_cons_of_mem _ List.mem_cons_self)
      have hmany : ∀ g, g = severalDirectives rule e.span → 0 ≤ g.span.start ∧
          g.span.start ≤ s.length := by
        rintro g rfl
        simp only [severalDirectives]
        omega
      simp only [ofDirectives, mem_sort] at hf
      split at hf
      · exact hmany f (List.mem_singleton.1 hf)
      · rcases List.mem_cons.1 hf with hf | hf
        · exact hmany f hf
        · cases List.mem_singleton.1 hf
          exact hfirst

end Begins

section Engine

variable {s : Text} {path : Option String} {d : Document}

theorem Engine.begins_of_runRule (hparse : Document.parse s path = .ok d) {q : ConfiguredRule}
    (shipped : ∃ e ∈ shippedRules, q.rule = e.rule) {result : RuleResult}
    (h : Engine.runRule q d = .ok result) : Finding.BeginIn d.source result.findings := by
  obtain ⟨e, he, hrule⟩ := shipped
  obtain ⟨raw, hraw, hresult⟩ := Engine.runRule_eq_ok_iff.1 h
  obtain ⟨sites, sited⟩ := exists_sited he (Document.laid_of_parse hparse) (hrule ▸ hraw)
  have hbegin : Finding.BeginIn d.source (Finding.sort raw) := by
    intro f hf
    obtain ⟨n, -, hat⟩ := exists_mem_of_forall₂ sited.each f (mem_sort.1 hf)
    have := hat.nonneg
    have := hat.nonempty
    have := hat.inside
    omega
  rcases hresult with ⟨-, rfl⟩ | ⟨-, ds, hfind, rfl⟩
  · exact hbegin
  · exact Outcome.beginIn_ofDirectives hbegin hfind

/-- What the rules of the library find begins in the text. -/
theorem Engine.begins_of_run (hparse : Document.parse s path = .ok d)
    {configs : List (String × RuleConfig)} {only : List String} {rules : List ConfiguredRule}
    (hbuild : Registry.shipped.build configs only = .ok rules) {result : AuditResult}
    (h : Engine.run rules d = .ok result) : Finding.BeginIn d.source result.findings := by
  obtain ⟨results, hall, rfl⟩ := Engine.run_eq_ok_iff.1 h
  intro f hf
  obtain ⟨own, hown, hf⟩ := List.mem_flatMap.1 (mem_sort.1 hf)
  obtain ⟨q, hq, hrun⟩ := Engine.exists_rule_of_mem hall hown
  exact Engine.begins_of_runRule hparse (Registry.mem_of_build hbuild hq).2.2 hrun f hf

end Engine

/-! ### Where they are reported -/

/-- A text whose offsets, up to its end, and whose places correspond to each other in the same
order. -/
structure Text.IsPlaced (s : Text) : Prop where
  offset : ∀ pos : Int, 0 ≤ pos → pos ≤ s.length →
    s.HasPlace (s.place pos) ∧ s.offset (s.place pos) = pos
  place : ∀ p, s.HasPlace p →
    0 ≤ s.offset p ∧ s.offset p ≤ s.length ∧ s.place (s.offset p) = p
  order : ∀ pos next : Int, 0 ≤ pos → pos < next → next ≤ s.length →
    (s.place pos).Before (s.place next)

theorem Text.isPlaced (s : Text) : s.IsPlaced where
  offset := by
    intro pos hlow hhigh
    lift pos to Nat using hlow
    have hle : pos ≤ s.length := by omega
    exact ⟨hasPlace_place hle, offset_place hle⟩
  place := by
    intro p hp
    obtain ⟨hlow, hhigh⟩ := offset_bounds hp
    exact ⟨hlow, hhigh, place_offset hp⟩
  order := by
    intro pos next hlow hlt hhigh
    lift pos to Nat using hlow
    lift next to Nat using by omega
    exact place_before_place (by omega) (by omega)

/-- A report on a text with one row for each finding, at the place where the finding begins. Findings
that begin at different offsets are reported at different places, in the order of the offsets, and the
rows go down the text. -/
structure FileReport.IsPlaced (s : Text) (r : FileReport) : Prop where
  rows : r.rows.map (·.place) = r.findings.map fun f => s.place f.span.start
  begins : ∀ f ∈ r.findings, s.HasPlace (s.place f.span.start) ∧
    s.offset (s.place f.span.start) = f.span.start
  order : ∀ f ∈ r.findings, ∀ g ∈ r.findings,
    (s.place f.span.start).Before (s.place g.span.start) ↔ f.span.start < g.span.start
  down : r.rows.Pairwise fun row row' => ¬ row'.place.Before row.place

section Placed

variable {s : Text} {path : String} {a : Worker.Analysis}

theorem Text.place_before_iff {pos next : Int} (hpos : 0 ≤ pos ∧ pos ≤ s.length)
    (hnext : 0 ≤ next ∧ next ≤ s.length) : (s.place pos).Before (s.place next) ↔ pos < next := by
  obtain ⟨hplace, hoffset⟩ := s.isPlaced.offset pos hpos.1 hpos.2
  obtain ⟨hplace', hoffset'⟩ := s.isPlaced.offset next hnext.1 hnext.2
  constructor
  · intro hbefore
    have := offset_lt_offset hplace hplace' hbefore
    omega
  · intro hlt
    exact s.isPlaced.order pos next hpos.1 hlt hnext.2

theorem Worker.isPlaced_report (hbegin : Finding.BeginIn a.document.source a.result.findings)
    (horder : Finding.InOrder a.result.findings) :
    (a.report path).IsPlaced a.document.source := by
  constructor
  case rows => simp [Analysis.report]
  case begins =>
    intro f hf
    exact a.document.source.isPlaced.offset _ (hbegin f hf).1 (hbegin f hf).2
  case order =>
    intro f hf g hg
    exact Text.place_before_iff (hbegin f hf) (hbegin g hg)
  case down =>
    simp only [Analysis.report]
    rw [List.pairwise_map]
    refine horder.imp_of_mem fun hf hg hle hbefore => ?_
    rw [Text.place_before_iff (hbegin _ hg) (hbegin _ hf)] at hbefore
    omega

end Placed

/-- The places of a text are in the order of its offsets, and so are those at which findings in it are
reported. -/
theorem findings_placed (s : Text) :
    s.IsPlaced ∧ ∀ setup path a, Worker.analyse setup path (.ok s) = .ok a →
      (a.report path).IsPlaced s := by
  refine ⟨s.isPlaced, ?_⟩
  intro setup path a h
  obtain ⟨_, rules, ⟨⟩, hparse, hbuild, hrun⟩ := Worker.analyse_eq_ok_iff_exists.1 h
  obtain ⟨hsource, -⟩ := Document.fingerprint_of_parse hparse
  rw [← hsource]
  exact Worker.isPlaced_report (Engine.begins_of_run hparse hbuild hrun)
    (Engine.isMerged_of_run hrun).order

/-- A frame without a title below an empty line, and a title on a paragraph further down. -/
def frameAndTitle : Text :=
  "\n<iframe>\n</iframe>\n\n <p title=\"x\">\n".toList

theorem findings_placed_frameAndTitle :
    ∃ a, Worker.analyse { } "a.html" (.ok frameAndTitle) = .ok a ∧
      (a.report "a.html").rows.map (·.place) = [⟨2, 0⟩, ⟨5, 1⟩] ∧
        (a.report "a.html").IsPlaced frameAndTitle := by
  have found : ((Document.parse frameAndTitle (some "a.html")).toOption.bind fun d =>
      (Registry.shipped.build [] []).toOption.bind fun rules =>
        (Engine.runEach d rules).toOption.map fun results =>
          (results.flatMap (·.findings)).map (·.span.start)) = some [1, 22] := by
    decide +kernel
  obtain ⟨d, hparse, found⟩ := Option.bind_eq_some_iff.1 found
  obtain ⟨rules, hbuild, found⟩ := Option.bind_eq_some_iff.1 found
  obtain ⟨results, hresults, hstarts⟩ := Option.map_eq_some_iff.1 found
  have hparse := eq_ok_of_toOption hparse
  have hbuild := eq_ok_of_toOption hbuild
  have hrun : Engine.run rules d = .ok (Engine.merge results) := by
    rw [Engine.run, eq_ok_of_toOption hresults]
    rfl
  -- the findings of one rule after the other are in document order already
  have hsort : Finding.sort (results.flatMap (·.findings)) = results.flatMap (·.findings) := by
    have hpairwise : ([1, 22] : List Int).Pairwise fun a b => decide (a ≤ b) = true := by decide
    rw [← hstarts, List.pairwise_map] at hpairwise
    exact List.mergeSort_of_pairwise hpairwise
  have hplaces : ([1, 22] : List Int).map frameAndTitle.place = [⟨2, 0⟩, ⟨5, 1⟩] := by decide
  have hanalyse : Worker.analyse { } "a.html" (.ok frameAndTitle) = .ok ⟨d, Engine.merge results⟩ :=
    Worker.analyse_eq_ok_iff_exists.2 ⟨_, rules, rfl, hparse, hbuild, hrun⟩
  refine ⟨_, hanalyse, ?_, (findings_placed frameAndTitle).2 _ _ _ hanalyse⟩
  rw [← hplaces, ← hstarts, List.map_map, ← hsort]
  simp [Worker.Analysis.report, Engine.merge, (Document.fingerprint_of_parse hparse).1]

end MarkupAudit
