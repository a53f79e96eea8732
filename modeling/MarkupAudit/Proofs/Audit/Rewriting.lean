import MarkupAudit.Proofs.Audit.DirectiveLines
import MarkupAudit.Proofs.Audit.Displacement
import MarkupAudit.Proofs.Audit.Ledger
import MarkupAudit.Proofs.Rule.Motion
import MarkupAudit.Proofs.Template.Respelling
import MarkupAudit.Proofs.Template.Tokenization

/-!
# Journals of templates

The corrections of a journal respell a template and put comment lines before it, if its rules have
names without meaning to the scanners. So the corrected text is a template again
(`Reads.exists_rewrites`, `IsJournal.reads_apply`). If the directives that are rewritten all stand in
comments, the nodes of the template are the same as before, moved, with other comments between them
(`IsJournal.movedNodes`).
-/

namespace MarkupAudit

open Text Directive Corrector

/-! ### Directives are inert -/

theorem inert_of_blank {b : Text} (h : Blank b) : Inert b := by
  intro c hc hmeaning
  have apart : Solid meaningful := by decide
  have hblank := h c hc
  rw [apart c hmeaning] at hblank
  cases hblank

theorem inert_of_isDigit {digits : Text} (h : ∀ c ∈ digits, isDigit c = true) : Inert digits := by
  intro c hc hmeaning
  have apart : meaningful.any isDigit = false := by decide
  have hdigit := h c hc
  rw [List.any_eq_false] at apart
  exact apart c hmeaning hdigit

theorem Text.Inert.append {u v : Text} (hu : Inert u) (hv : Inert v) : Inert (u ++ v) := by
  intro c hc
  rcases List.mem_append.1 hc with hc | hc
  · exact hu c hc
  · exact hv c hc

/-- A directive that names a rule without meaning to the scanners. -/
theorem Directive.IsSpelling.exists_inert {rule digits m : Text} (h : IsSpelling rule digits m)
    (hrule : Inert rule) : ∃ x, Inert x ∧ m = '{' :: '#' :: (x ++ ['#', '}']) := by
  obtain ⟨lead, gap₁, gap₂, trail, -, -, -, -, -, decimal⟩ := h
  rename_i b₀ b₁ b₂ b₃
  have hmarker : Inert marker.toList := by decide
  refine ⟨b₀ ++ (marker.toList ++ (b₁ ++ (rule ++ (b₂ ++ (digits ++ b₃))))), ?_, ?_⟩
  · exact (inert_of_blank lead).append (hmarker.append ((inert_of_blank gap₁).append
      (hrule.append ((inert_of_blank gap₂).append
        ((inert_of_isDigit decimal).append (inert_of_blank trail))))))
  · simp [opening, closing]

theorem render_ne_nil (rule : String) (n : Nat) : render rule n ≠ [] := by
  simp [render, opening]

/-- Directives are rewritten one behind the other. -/
theorem inTurn_edits (f : Text → Option Nat) (pos : Nat) (s : Text) :
    InTurn pos ((written pos s).filterMap (edit? f)) := by
  induction s using scan_induction generalizing pos with
  | nil =>
      rw [written_nil]
      trivial
  | directive rule digits m rest hm ih =>
      have hlength := hm.length_pos
      have later := ih (pos + m.length)
      rw [written_spelling hm]
      cases hedit : edit? f ⟨rule, digits, pos, pos + m.length⟩ with
      | none =>
          rw [List.filterMap_cons_none hedit]
          exact later.mono (by omega)
      | some c =>
          obtain ⟨n, -, rfl⟩ := Option.map_eq_some_iff.1 hedit
          rw [List.filterMap_cons_some hedit]
          refine ⟨Int.le_refl _, ?_, render_ne_nil _ n, later⟩
          simp only
          omega
  | skip c rest hread ih =>
      rw [written_skip hread]
      exact (ih (pos + 1)).mono (by omega)

/-- Rewriting directives in their places respells the text there. -/
theorem respelled_interleave {A : Alignment} {f : Text → Option Nat} {cs : List Correction}
    {pos pos' : Nat} {s : Text} (inert : ∀ rule n, f rule = some n → Inert rule)
    (h : (written pos s).filterMap (edit? f) = cs)
    (edited : ∀ c ∈ cs, ∀ q : Nat, c.span.Holds q → A.edited q)
    (meets : ∀ q q' : Nat, pos ≤ q → (Outside cs q → (q' : Int) + pos = moved cs q + pos') →
      A.meets q q') :
    Respelled A pos pos' s (interleave pos s cs) := by
  induction cs generalizing pos pos' s with
  | nil =>
      refine .refl s fun i _ => meets _ _ (Nat.le_add_right pos i) fun _ => ?_
      rw [moved_nil]
      omega
  | cons c cs ih =>
      have turn := inTurn_edits f pos s
      rw [h] at turn
      obtain ⟨-, hlt, -, hnext⟩ := turn
      obtain ⟨front, w, back, hsplit, hfront, hw, hback⟩ := List.filterMap_eq_cons_iff.1 h
      obtain ⟨pre, m, post, rfl, hm, hstart, hstop, hpre, hpost⟩ :=
        exists_of_written_eq_append hsplit
      obtain ⟨n, hn, rfl⟩ := Option.map_eq_some_iff.1 hw
      have hrule := inert w.rule n hn
      obtain ⟨x, hx, hmx⟩ := hm.exists_inert hrule
      have hname : Inert (String.ofList w.rule).toList := by rwa [String.toList_ofList]
      obtain ⟨y, hy, hry⟩ := (isSpelling_render hm.nameable n).exists_inert hname
      simp only at hlt hnext
      have hlength : w.stop = w.start + 1 + 1 + x.length + 1 + 1 := by
        rw [hstop, hmx]
        simp only [List.length_cons, List.length_append, List.length_nil]
        omega
      have hgrowth : growth ⟨String.ofList w.rule, ⟨w.start, w.stop⟩,
          render (String.ofList w.rule) n⟩ = (y.length : Int) - x.length := by
        rw [growth, hry, Span.length]
        simp only [List.length_cons, List.length_append, List.length_nil]
        omega
      -- before the directive nothing has moved, and inside of it nothing is said
      have before : ∀ i ≤ pre.length, A.meets (pos + i) (pos' + i) := by
        intro i hi
        refine meets _ _ (Nat.le_add_right pos i) fun _ => ?_
        rw [moved_cons_of_lt (by simp only; omega), hnext.moved_eq_self (by omega)]
        omega
      have inside : ∀ q q' : Nat, w.start < q → q < w.stop → A.meets q q' := by
        intro q q' hlo hhi
        refine meets q q' (by omega) fun outside => ?_
        have := outside _ List.mem_cons_self
        simp only at this
        omega
      have here : A.edited (w.start + 1) := by
        refine edited _ List.mem_cons_self (w.start + 1) ⟨?_, ?_⟩ <;> simp only <;> omega
      have rest : Respelled A (w.start + 1 + 1 + x.length + 1 + 1)
          (pos' + pre.length + 1 + 1 + y.length + 1 + 1) post (interleave w.stop post cs) := by
        rw [← hlength]
        refine ih (by rw [hpost]; exact hback) (fun d hd => edited d (List.mem_cons_of_mem _ hd)) ?_
        intro q q' hle hmeets
        refine meets q q' (by omega) fun outside => ?_
        have := hmeets outside.tail
        rw [moved_cons_of_le (by simp only; omega), hgrowth]
        omega
      have directive : Respelled A w.start (pos' + pre.length) ('{' :: '#' :: (x ++ '#' :: '}' :: post))
          ('{' :: '#' :: (y ++ '#' :: '}' :: interleave w.stop post cs)) := by
        refine .cons (hstart ▸ before _ (Nat.le_refl _)) (.body (inside _ _ ?_ ?_) here hx hy
          (.cons (inside _ _ ?_ ?_) (.cons (inside _ _ ?_ ?_) rest))) <;> omega
      rw [interleave_append _ _ cs hstart hstop, hry, hmx]
      refine .append_left pre (fun i hi => before i (Nat.le_of_lt hi)) ?_
      rw [← hstart]
      simpa using directive

/-! ### Corrected templates -/

/-- What is known about a text and the text with some places corrected. -/
def alignmentOf (es : List Correction) : Alignment where
  edited q := ∃ c ∈ es, c.span.Holds q
  meets q q' := Outside es q → (q' : Int) = moved es q

/-- The directives of a text that a journal rewrites, from the first to the last. -/
abbrev rewrites (s : Text) (n : String → Nat) (cs : List Correction) : List Correction :=
  (written 0 s).filterMap (edit? (rewritten n cs))

/-- The lines that a journal writes: a rule and its number each. -/
def lineEntries (n : String → Nat) (cs : List Correction) : List (String × Nat) :=
  (newLines cs).map fun c => (c.rule, n c.rule)

theorem commentable_of_inert {rule : String} (h : Nameable rule) (inert : Inert rule.toList) :
    Commentable rule := by
  refine ⟨h, fun hwithin => ?_⟩
  exact inert '#' (hwithin.subset List.mem_cons_self) (by decide)

section Journal

variable {s : Text} {n : String → Nat} {cs : List Correction} {ps : List Piece}

theorem IsJournal.blockOf_newLines (h : IsJournal s n cs) :
    blockOf (newLines cs) = lines (lineEntries n cs) := by
  unfold blockOf lines lineEntries
  rw [List.flatMap_map]
  refine List.flatMap_congr fun c hc => ?_
  obtain ⟨-, -, heq⟩ := h.of_mem_newLines hc
  conv => lhs; rw [heq]

theorem IsJournal.commentable (h : IsJournal s n cs) (inert : ∀ c ∈ cs, Inert c.rule.toList) :
    ∀ l ∈ lineEntries n cs, Commentable l.1 := by
  intro l hl
  obtain ⟨c, hc, rfl⟩ := List.mem_map.1 hl
  have hcs := (h.of_mem_newLines hc).1
  exact commentable_of_inert (h.nameable c hcs) (inert c hcs)

/-- A template whose directives are rewritten is a template, with the same pieces, respelled where the
directives are. -/
theorem Reads.exists_rewrites (hs : Reads s ps) (n : String → Nat)
    (inert : ∀ c ∈ cs, Inert c.rule.toList) :
    ∃ qs, Reads (interleave 0 s (rewrites s n cs)) qs ∧
      Matched (alignmentOf (rewrites s n cs)) 0 0 ps qs := by
  have hnames : ∀ rule m, rewritten n cs rule = some m → Inert rule := by
    intro rule m hm
    obtain ⟨⟨c, hc, -, rfl⟩, -⟩ := rewritten_eq_some_iff.1 hm
    exact inert c hc
  refine hs.respelled (respelled_interleave hnames rfl (fun c hc q hq => ⟨c, hc, hq⟩) ?_)
  intro q q' _ hmeets outside
  have := hmeets outside
  omega

/-- The corrections of a journal leave a template: the new lines, and behind them the template with
its directives rewritten. -/
theorem IsJournal.reads_apply {qs : List Piece} (h : IsJournal s n cs)
    (inert : ∀ c ∈ cs, Inert c.rule.toList)
    (hqs : Reads (interleave 0 s (rewrites s n cs)) qs) :
    Reads (apply s cs).text (linePieces (lineEntries n cs) ++ qs) := by
  rw [h.text_apply, h.blockOf_newLines]
  exact reads_lines (h.commentable inert) hqs

end Journal

/-! ### Pieces beside comments -/

/-- A piece and the one in its place: the same, or a comment in the place of a comment. -/
inductive Piece.Alike : Piece → Piece → Prop
  | same (p : Piece) : Alike p p
  | comment (u v : Text) : Alike (.comment u) (.comment v)

/-- An offset in a comment among pieces, the first of which begins at the offset `pos`. -/
def InComment (q : Nat) : (pos : Nat) → List Piece → Prop
  | _, [] => False
  | pos, .comment u :: ps => q < pos + u.length ∧ pos ≤ q ∨ InComment q (pos + u.length) ps
  | pos, .plain _ :: ps => InComment q (pos + 1) ps
  | pos, .code u :: ps => InComment q (pos + u.length) ps
  | pos, .tag u _ :: ps => InComment q (pos + u.length) ps

theorem InComment.le {q pos : Nat} {ps : List Piece} (h : InComment q pos ps) : pos ≤ q := by
  induction ps generalizing pos with
  | nil => exact h.elim
  | cons p ps ih =>
      cases p with
      | plain c => exact Nat.le_of_succ_le (ih h)
      | code u => exact Nat.le_trans (Nat.le_add_right pos u.length) (ih h)
      | tag u is => exact Nat.le_trans (Nat.le_add_right pos u.length) (ih h)
      | comment u =>
          rcases h with h | h
          · exact h.2
          · exact Nat.le_trans (Nat.le_add_right pos u.length) (ih h)

/-- A source is not respelled if all that is respelled lies in comments behind it. -/
theorem Respelled.eq_of_inComment {A : Alignment} {pos pos' : Nat} {u v : Text}
    {ps : List Piece} (h : Respelled A pos pos' u v)
    (hidden : ∀ q, pos ≤ q → A.edited q → InComment q (pos + u.length) ps) : v = u := by
  refine h.eq_of_forall_not fun q hle hlt hq => ?_
  have := (hidden q hle hq).le
  omega

/-- Where all that is respelled lies in comments, the pieces are the same but for these. -/
theorem Matched.alike {A : Alignment} {pos pos' : Nat} {ps qs : List Piece}
    (h : Matched A pos pos' ps qs) (hidden : ∀ q, pos ≤ q → A.edited q → InComment q pos ps) :
    List.Forall₂ Piece.Alike ps qs := by
  induction h with
  | nil => exact .nil
  | plain c _ _ ih => exact .cons (.same _) (ih fun q hle => hidden q (Nat.le_of_succ_le hle))
  | @body pos _ x y ps qs _ here _ _ _ _ =>
      have behind : InComment pos (pos + 1) (x.map .plain ++ ps) :=
        hidden pos (Nat.le_refl pos) here
      exact absurd behind.le (Nat.not_succ_le_self pos)
  | code source _ ih =>
      obtain rfl := source.eq_of_inComment hidden
      exact .cons (.same _) (ih fun q hle => hidden q (Nat.le_trans (Nat.le_add_right _ _) hle))
  | comment source _ ih =>
      refine .cons (.comment _ _) (ih fun q hle hq => ?_)
      rcases hidden q (Nat.le_trans (Nat.le_add_right _ _) hle) hq with h | h
      · exact absurd h.1 (Nat.not_lt.2 hle)
      · exact h
  | tag source _ same _ ih =>
      obtain rfl := source.eq_of_inComment hidden
      obtain rfl := same rfl
      exact .cons (.same _) (ih fun q hle => hidden q (Nat.le_trans (Nat.le_add_right _ _) hle))

/-! ### Nodes beside comments -/

theorem mem_of_mem_joinText {pos : Nat} {source : Text} {blocks ns : List Node} {n : Node}
    (h : n ∈ Layout.joinText pos source blocks ns) (hkind : n.kind = .comment) : n ∈ ns := by
  rw [Layout.joinText.eq_def] at h
  split at h
  · rcases List.mem_cons.1 h with rfl | h
    · cases hkind
    · exact List.mem_cons_of_mem _ h
  · rcases List.mem_cons.1 h with rfl | h
    · cases hkind
    · exact h

/-- The comments among the nodes are the comments among the pieces. -/
theorem inComment_of_mem_nodes {q pos : Nat} {ps : List Piece} {n : Node}
    (h : n ∈ Layout.nodes pos ps) (hkind : n.kind = .comment) (hq : n.span.Holds q) :
    InComment q pos ps := by
  induction ps generalizing pos with
  | nil => cases h
  | cons p ps ih =>
      cases p with
      | plain c => exact ih (mem_of_mem_joinText h hkind)
      | code u => exact ih (mem_of_mem_joinText h hkind)
      | tag u is =>
          rcases List.mem_cons.1 h with rfl | h
          · cases hkind
          · exact ih h
      | comment u =>
          rcases List.mem_cons.1 h with rfl | h
          · obtain ⟨hle, hlt⟩ := hq
            simp only at hle hlt
            exact .inl ⟨by omega, by omega⟩
          · exact .inr (ih h)

/-- Any amount. -/
abbrev anywhere : Int → Prop := fun _ => True

/-- A node and the one in its place, where a text run has its text unchanged. -/
def MovedSame (n m : Node) : Prop :=
  MovedNode anywhere n m ∧ (n.kind = .text → m.source = n.source)

theorem movedWhole_codeNode (pos pos' : Nat) (u : Text) :
    MovedWhole anywhere (Layout.codeNode pos u) (Layout.codeNode pos' u) :=
  ⟨pos' - pos, trivial, (Layout.shift_codeNode (by omega) u).symm⟩

theorem movedWhole_tag (pos pos' : Nat) (u : Text) (is : List Inset) :
    MovedWhole anywhere
      ⟨.tag, ⟨pos, pos + u.length⟩, u, is.map fun i => Layout.codeNode (pos + i.offset) i.source⟩
      ⟨.tag, ⟨pos', pos' + u.length⟩, u,
        is.map fun i => Layout.codeNode (pos' + i.offset) i.source⟩ := by
  refine ⟨pos' - pos, trivial, ?_⟩
  have blocks : ∀ i ∈ is, Layout.codeNode (pos' + i.offset) i.source =
      (Layout.codeNode (pos + i.offset) i.source).shift (pos' - pos) :=
    fun i _ => (Layout.shift_codeNode (by omega) i.source).symm
  rw [Node.shift, Node.shiftAll_eq_map, List.map_map, Function.comp_def, List.map_congr_left blocks,
    Span.shift]
  congr 2 <;> simp only <;> omega

theorem movedSame_textNode {lo hi lo' hi' : Int} {source : Text} {blocks blocks' : List Node}
    (leaves : ∀ b ∈ blocks, b.IsCodeLeaf)
    (moved : List.Forall₂ (MovedWhole anywhere) blocks blocks') :
    MovedSame (textNode lo hi source blocks) (textNode lo' hi' source blocks') := by
  have stop : hi' = hi + (hi' - hi) := by omega
  exact ⟨.text rfl rfl rfl trivial stop leaves moved, fun _ => rfl⟩

/-- A piece of a text run before the nodes, and the same before the ones in their places. -/
theorem movedSame_joinText {pos pos' : Nat} {source : Text} {blocks blocks' ns ms : List Node}
    (leaves : ∀ b ∈ blocks, b.IsCodeLeaf)
    (moved : List.Forall₂ (MovedWhole anywhere) blocks blocks')
    (h : List.Forall₂ MovedSame ns ms) :
    List.Forall₂ MovedSame (Layout.joinText pos source blocks ns)
      (Layout.joinText pos' source blocks' ms) := by
  cases h with
  | nil => exact .cons (movedSame_textNode leaves moved) .nil
  | @cons n m ns ms hnm hrest =>
      by_cases hkind : n.kind = .text
      · have hkind' : m.kind = .text := by rw [hnm.1.kind_eq, hkind]
        have hchildren := hnm.1.moved_children
        have hleaves := hnm.1.isLaid.1.blocks
        have hsource := hnm.2 hkind
        obtain ⟨_, span, tail, children⟩ := n
        obtain ⟨_, span', tail', children'⟩ := m
        cases hkind
        cases hkind'
        cases hsource
        refine .cons (movedSame_textNode ?_ (List.rel_append moved hchildren)) hrest
        intro b hb
        rcases List.mem_append.1 hb with hb | hb
        · exact leaves b hb
        · exact hleaves b hb
      · have hn : ∀ l ∈ (n :: ns).head?, l.kind ≠ .text := by
          intro l hl
          cases hl
          exact hkind
        have hm : ∀ l ∈ (m :: ms).head?, l.kind ≠ .text := by
          intro l hl
          cases hl
          rwa [hnm.1.kind_eq]
        rw [Layout.joinText_of_kind_ne hn, Layout.joinText_of_kind_ne hm]
        exact .cons (movedSame_textNode leaves moved) (.cons hnm hrest)

/-- Pieces that are the same but for comments give nodes that are the same but for comments, wherever
they are laid out. -/
theorem movedSame_nodes {ps qs : List Piece} (h : List.Forall₂ Piece.Alike ps qs) (pos pos' : Nat) :
    List.Forall₂ MovedSame (Layout.nodes pos ps) (Layout.nodes pos' qs) := by
  induction h generalizing pos pos' with
  | nil => exact .nil
  | @cons p q ps qs alike _ ih =>
      cases alike with
      | comment u v =>
          exact .cons ⟨.comment rfl rfl rfl rfl, fun hkind => by cases hkind⟩ (ih _ _)
      | same =>
          cases p with
          | plain c => exact movedSame_joinText (List.forall_mem_nil _) .nil (ih _ _)
          | code u =>
              refine movedSame_joinText ?_ (.cons (movedWhole_codeNode pos pos' u) .nil) (ih _ _)
              exact List.forall_mem_singleton.2 (isCodeLeaf_codeNode pos u)
          | comment u =>
              exact .cons ⟨.comment rfl rfl rfl rfl, fun hkind => by cases hkind⟩ (ih _ _)
          | tag u is =>
              refine .cons ⟨.tag rfl ?_ (movedWhole_tag pos pos' u is), fun hkind => by cases hkind⟩
                (ih _ _)
              intro b hb
              obtain ⟨i, -, rfl⟩ := List.mem_map.1 hb
              exact isCodeLeaf_codeNode _ _

/-- A correction inside of a comment among the nodes. -/
def Correction.InCommentOf (c : Correction) (ns : List Node) : Prop :=
  ∃ n ∈ ns, n.kind = .comment ∧ n.span.start ≤ c.span.start ∧ c.span.stop ≤ n.span.stop

/-- Where a journal rewrites only directives that are in comments, the corrected template has the
nodes that it had, moved, with other comments between them. -/
theorem IsJournal.movedNodes {s : Text} {n : String → Nat} {cs : List Correction} {ps : List Piece}
    (h : IsJournal s n cs) (inert : ∀ c ∈ cs, Inert c.rule.toList) (hs : Reads s ps)
    (hidden : ∀ c ∈ cs, c.isInsertion = true ∨ c.InCommentOf (Layout.nodes 0 ps)) :
    ∃ qs, Reads (apply s cs).text qs ∧
      MovedNodes anywhere (Layout.nodes 0 ps) (Layout.nodes 0 qs) := by
  obtain ⟨qs, hqs, hmatch⟩ := hs.exists_rewrites n inert
  have alike : List.Forall₂ Piece.Alike ps qs := by
    refine hmatch.alike fun q _ hq => ?_
    obtain ⟨c, hc, hle, hlt⟩ := hq
    obtain ⟨hcs, hrewriting⟩ := h.mem_edits_iff.1 hc
    rcases hidden c hcs with hinsertion | ⟨m, hm, hkind, hstart, hstop⟩
    · rw [hrewriting] at hinsertion
      cases hinsertion
    · exact inComment_of_mem_nodes hm hkind ⟨by omega, by omega⟩
  refine ⟨_, h.reads_apply inert hqs, ?_⟩
  rw [Layout.nodes_linePieces]
  refine MovedNodes.behindLines (.moved ?_) _ 0
  exact (movedSame_nodes alike 0 _).imp fun _ _ hsame => hsame.1

end MarkupAudit
