import MarkupAudit.Proofs.Audit.Reconciliation
import MarkupAudit.Proofs.Audit.Rewriting
import MarkupAudit.Proofs.Template.Lossless

/-!
# The structure of corrected templates

A directive is found in the raw text, so it may stand anywhere: in a comment, but also in a tag, in a
code block or in a string there. Nevertheless, correcting directives leaves the structure of a
template as it is (`corrected_keepsStructure`). The scanners read a rewritten directive as they read
the directive before, so there are the same nodes; and no directive reaches over the end of a node,
because a node begins or ends with a character that stands only at the ends of a directive.
-/

namespace MarkupAudit

open Text Directive Corrector

/-! ### The ends of nodes -/

/-- A text that begins with an opening delimiter and ends with a closing one, as far as their first
and last characters tell. -/
def Delimited (u : Text) : Prop :=
  (u.head? = some '{' ∨ u.head? = some '<') ∧ (u.getLast? = some '}' ∨ u.getLast? = some '>')

theorem delimited_append {opener closer : Text} (inner : Text)
    (ho : opener.head? = some '{' ∨ opener.head? = some '<')
    (hc : closer.getLast? = some '}' ∨ closer.getLast? = some '>') :
    Delimited (opener ++ inner ++ closer) := by
  constructor
  · rcases ho with ho | ho <;> simp [List.head?_append, ho]
  · rcases hc with hc | hc <;> simp [List.getLast?_append, hc]

theorem IsCode.delimited {kind : CodeKind} {u : Text} (h : IsCode kind u) : Delimited u := by
  obtain ⟨inner, rfl, -⟩ := h
  exact delimited_append inner (by cases kind <;> decide) (by cases kind <;> decide)

theorem IsComment.delimited {kind : CommentKind} {u : Text} (h : IsComment kind u) :
    Delimited u := by
  obtain ⟨body, rfl, -⟩ := h
  exact delimited_append body (by cases kind <;> decide) (by cases kind <;> decide)

theorem IsTag.delimited {items : List TagItem} {u : Text} (h : IsTag u items) : Delimited u := by
  obtain ⟨rfl, -, -⟩ := h
  have opener : ['<'].head? = some '{' ∨ ['<'].head? = some '<' := .inr rfl
  exact delimited_append _ opener (.inr rfl)

/-- An offset at which a delimited text begins. -/
def OpensAt (s : Text) (p : Nat) : Prop :=
  s[p]? = some '{' ∨ s[p]? = some '<'

/-- An offset at which a delimited text has ended. -/
def ClosesAt (s : Text) (p : Nat) : Prop :=
  0 < p ∧ (s[p - 1]? = some '}' ∨ s[p - 1]? = some '>')

/-- An offset at which a node may begin or end. -/
def IsEdge (s : Text) (p : Nat) : Prop :=
  p = 0 ∨ s.length ≤ p ∨ OpensAt s p ∨ ClosesAt s p

/-- A span between two edges. -/
def Edged (s : Text) (span : Span) : Prop :=
  ∃ a b : Nat, span = ⟨a, b⟩ ∧ IsEdge s a ∧ IsEdge s b

section Edges

variable {s u : Text} {a b : Nat}

theorem Delimited.opensAt (h : Delimited u) (hs : s.drop a = u ++ s.drop b) : OpensAt s a := by
  have hhead : s[a]? = u.head? := by
    rw [← List.head?_drop, hs]
    rcases h.1 with hu | hu <;> simp [hu]
  rw [OpensAt, hhead]
  exact h.1

theorem Delimited.closesAt (h : Delimited u) (hs : s.drop a = u ++ s.drop b) (hab : a < b)
    (hb : b ≤ s.length) : ClosesAt s b := by
  have hlength : u.length = b - a := by
    have := congrArg List.length hs
    rw [List.length_append, List.length_drop, List.length_drop] at this
    omega
  have hlast : s[b - 1]? = u.getLast? := by
    have hdrop : (s.drop a)[b - 1 - a]? = s[b - 1]? := by
      rw [List.getElem?_drop]
      congr 1
      omega
    rw [← hdrop, hs, List.getElem?_append_left (by omega), List.getLast?_eq_getElem?, hlength]
    congr 1
    omega
  rw [ClosesAt, hlast]
  exact ⟨by omega, h.2⟩

theorem IsToken.delimited {n : Node} (h : IsToken s n) (hkind : n.kind ≠ .text) :
    Delimited n.source := by
  obtain ⟨-, htoken⟩ := h
  split at htoken
  · contradiction
  · obtain ⟨items, htag, -⟩ := htoken
    exact htag.delimited
  · obtain ⟨⟨kind, hcomment⟩, -⟩ := htoken
    exact hcomment.delimited
  · exact htoken.elim
  · exact htoken.elim

/-- The code blocks in a token lie between edges. -/
theorem IsToken.edged_children {n : Node} (h : IsToken s n) (hspan : n.span = ⟨a, b⟩)
    (hab : a ≤ b) (hb : b ≤ s.length) : ∀ c ∈ n.children, Edged s c.span := by
  have blocks := h.isBlock_of_mem_children hspan hab hb
  have within : Within n.span.start n.span.stop n.children := by
    obtain ⟨-, hkind⟩ := id h
    split at hkind
    · exact hkind.within
    · exact (h.tag_children ‹_› hspan hab hb).1.mono (by omega) (by omega)
    · rw [hkind.2, hspan]
      exact Int.ofNat_le.2 hab
    · exact hkind.elim
    · exact hkind.elim
  intro c hc
  obtain ⟨hlo, hlt, hhi⟩ := within.bounds c hc
  obtain ⟨-, source, ⟨kind, code⟩, -⟩ := blocks c hc
  rw [hspan] at hlo hhi
  simp only at hlo hhi
  obtain ⟨lo, hlo'⟩ := Int.eq_ofNat_of_zero_le (show 0 ≤ c.span.start by omega)
  obtain ⟨hi, hhi'⟩ := Int.eq_ofNat_of_zero_le (show 0 ≤ c.span.stop by omega)
  have hcspan : c.span = ⟨lo, hi⟩ := by rw [← hlo', ← hhi']
  rw [hcspan] at source
  have hs : s.drop lo = c.source ++ s.drop hi := by
    rw [source]
    exact drop_eq_slice_append (by omega)
  exact ⟨lo, hi, hcspan, .inr (.inr (.inl (code.delimited.opensAt hs))),
    .inr (.inr (.inr (code.delimited.closesAt hs (by omega) (by omega))))⟩

end Edges

/-- The nodes of a template and the code blocks in them lie between edges. Where a text run ends,
something else begins or the text ends. -/
theorem IsTokenizationFrom.edged {s : Text} {pos : Nat} {ns : List Node}
    (h : IsTokenizationFrom s pos ns) (hpos : IsEdge s pos) :
    ∀ n ∈ ns, Edged s n.span ∧ ∀ c ∈ n.children, Edged s c.span := by
  induction ns generalizing pos with
  | nil => exact List.forall_mem_nil _
  | cons n ns ih =>
      obtain ⟨stop, hspan, hlt, token, apart, rest⟩ := isTokenizationFrom_cons.1 h
      have hstop : stop ≤ s.length := Int.ofNat_le.1 rest.tiles.le
      have hs := token.drop_eq hspan (Nat.le_of_lt hlt)
      have hedge : IsEdge s stop := by
        by_cases hkind : n.kind = .text
        · cases ns with
          | nil => exact .inr (.inl (Nat.le_of_eq (Int.ofNat_inj.1 rest.tiles).symm))
          | cons m ns =>
              obtain ⟨stop', hspan', hlt', token', -, -⟩ := isTokenizationFrom_cons.1 rest
              have hkind' : m.kind ≠ .text := fun hm => apart m rfl ⟨hkind, hm⟩
              have hs' := token'.drop_eq hspan' (Nat.le_of_lt hlt')
              exact .inr (.inr (.inl ((token'.delimited hkind').opensAt hs')))
        · exact .inr (.inr (.inr ((token.delimited hkind).closesAt hs hlt hstop)))
      refine List.forall_mem_cons.2 ⟨⟨⟨pos, stop, hspan, hpos, hedge⟩, ?_⟩, ih rest hedge⟩
      exact token.edged_children hspan (Nat.le_of_lt hlt) hstop

/-- No edge is inside of a directive that names a rule without meaning to the scanners. -/
theorem not_isEdge_of_inert {pre x post : Text} {p : Nat} (hx : Inert x) (hlo : pre.length < p)
    (hhi : p < pre.length + ('{' :: '#' :: (x ++ ['#', '}'])).length) :
    ¬ IsEdge (pre ++ ('{' :: '#' :: (x ++ ['#', '}']) ++ post)) p := by
  have behind : ∀ c ∈ '#' :: (x ++ ['#', '}']), c ≠ '{' ∧ c ≠ '<' := by
    intro c hc
    simp only [List.mem_cons, List.mem_append, List.not_mem_nil, or_false] at hc
    rcases hc with rfl | hc | rfl | rfl
    · decide
    · refine ⟨?_, ?_⟩ <;> (rintro rfl; exact hx _ hc (by decide))
    · decide
    · decide
  have before : ∀ c ∈ '{' :: '#' :: (x ++ ['#']), c ≠ '}' ∧ c ≠ '>' := by
    intro c hc
    simp only [List.mem_cons, List.mem_append, List.not_mem_nil, or_false] at hc
    rcases hc with rfl | rfl | hc | rfl
    · decide
    · decide
    · refine ⟨?_, ?_⟩ <;> (rintro rfl; exact hx _ hc (by decide))
    · decide
  have char : ∀ i < ('{' :: '#' :: (x ++ ['#', '}'])).length,
      (pre ++ ('{' :: '#' :: (x ++ ['#', '}']) ++ post))[pre.length + i]? =
        ('{' :: '#' :: (x ++ ['#', '}']))[i]? := by
    intro i hi
    rw [List.getElem?_append_right (Nat.le_add_right _ _), Nat.add_sub_cancel_left,
      List.getElem?_append_left hi]
  rintro (rfl | hend | hopens | ⟨-, hcloses⟩)
  · exact Nat.not_lt_zero _ hlo
  · rw [List.length_append, List.length_append] at hend
    omega
  · obtain ⟨k, rfl⟩ : ∃ k, p = pre.length + (k + 1) := ⟨p - pre.length - 1, by omega⟩
    rw [OpensAt, char (k + 1) (by omega), List.getElem?_cons_succ] at hopens
    rcases hopens with hc | hc
    · exact (behind _ (List.mem_of_getElem? hc)).1 rfl
    · exact (behind _ (List.mem_of_getElem? hc)).2 rfl
  · obtain ⟨k, rfl⟩ : ∃ k, p = pre.length + k + 1 := ⟨p - pre.length - 1, by omega⟩
    have split : '{' :: '#' :: (x ++ ['#', '}']) = '{' :: '#' :: (x ++ ['#']) ++ ['}'] := by simp
    have hk : k < ('{' :: '#' :: (x ++ ['#'])).length := by
      rw [split, List.length_append, List.length_singleton] at hhi
      omega
    rw [Nat.add_sub_cancel, char k (by omega), split, List.getElem?_append_left hk] at hcloses
    rcases hcloses with hc | hc
    · exact (before _ (List.mem_of_getElem? hc)).1 rfl
    · exact (before _ (List.mem_of_getElem? hc)).2 rfl

/-- No directive that is rewritten reaches over an edge. -/
theorem outside_of_isEdge {s : Text} {f : Text → Option Nat} {p : Nat}
    (inert : ∀ rule n, f rule = some n → Inert rule) (hp : IsEdge s p) :
    Outside ((written 0 s).filterMap (edit? f)) p := by
  intro c hc
  obtain ⟨w, hw, hedit⟩ := List.mem_filterMap.1 hc
  obtain ⟨n, hn, rfl⟩ := Option.map_eq_some_iff.1 hedit
  obtain ⟨front, back, hsplit⟩ := List.append_of_mem hw
  obtain ⟨pre, m, post, rfl, hm, hstart, hstop, -, -⟩ := exists_of_written_eq_append hsplit
  obtain ⟨x, hx, rfl⟩ := hm.exists_inert (inert w.rule n hn)
  by_contra hinside
  simp only [not_or, Int.not_le] at hinside
  exact not_isEdge_of_inert hx (by omega) (by omega) hp

/-! ### Nodes that meet -/

/-- Two spans whose ends meet. -/
def Alignment.MeetsSpan (A : Alignment) (u v : Span) : Prop :=
  ∃ a b a' b' : Nat, u = ⟨a, b⟩ ∧ v = ⟨a', b'⟩ ∧ A.meets a a' ∧ A.meets b b'

/-- Two nodes of one kind, with as many children, whose ends meet. -/
structure Alignment.MeetsNode (A : Alignment) (n m : Node) : Prop where
  kind : m.kind = n.kind
  children : m.children.length = n.children.length
  span : A.MeetsSpan n.span m.span

/-- Two nodes that meet, and so do their children. -/
def Alignment.MeetsTree (A : Alignment) (n m : Node) : Prop :=
  A.MeetsNode n m ∧ List.Forall₂ A.MeetsNode n.children m.children

section Meets

variable {A : Alignment} {pos pos' : Nat} {u v : Text} {ps qs : List Piece}

theorem Respelled.meets_stop (h : Respelled A pos pos' u v) :
    A.meets (pos + u.length) (pos' + v.length) := by
  induction h with
  | nil meets => exact meets
  | cons _ _ ih =>
      simp only [List.length_cons]
      convert ih using 1 <;> omega
  | body _ _ _ _ _ ih =>
      simp only [List.length_cons, List.length_append] at ih ⊢
      convert ih using 1 <;> omega

theorem Matched.meets (h : Matched A pos pos' ps qs) : A.meets pos pos' := by
  cases h with
  | nil meets => exact meets
  | plain c meets => exact meets
  | body meets => exact meets
  | code source => exact source.meets
  | comment source => exact source.meets
  | tag source => exact source.meets

theorem Respelled.meetsSpan (h : Respelled A pos pos' u v) :
    A.MeetsSpan ⟨pos, pos + u.length⟩ ⟨pos', pos' + v.length⟩ :=
  ⟨pos, pos + u.length, pos', pos' + v.length, by simp, by simp, h.meets, h.meets_stop⟩

theorem Respelled.meetsNode (h : Respelled A pos pos' u v) :
    A.MeetsNode (Layout.codeNode pos u) (Layout.codeNode pos' v) :=
  ⟨rfl, rfl, h.meetsSpan⟩

/-- A piece of a text run before nodes, and a piece that meets it before nodes that meet them. -/
theorem meetsTree_joinText {blocks blocks' ns ms : List Node} (start : A.meets pos pos')
    (stop : A.meets (pos + u.length) (pos' + v.length))
    (hblocks : List.Forall₂ A.MeetsNode blocks blocks') (h : List.Forall₂ A.MeetsTree ns ms) :
    List.Forall₂ A.MeetsTree (Layout.joinText pos u blocks ns)
      (Layout.joinText pos' v blocks' ms) := by
  have own : A.MeetsTree (textNode pos (pos + u.length) u blocks)
      (textNode pos' (pos' + v.length) v blocks') :=
    ⟨⟨rfl, hblocks.length_eq.symm, pos, pos + u.length, pos', pos' + v.length, by simp, by simp,
      start, stop⟩, hblocks⟩
  cases h with
  | nil => exact .cons own .nil
  | @cons n m ns ms hnm hrest =>
      by_cases hkind : n.kind = .text
      · have hkind' : m.kind = .text := by rw [hnm.1.kind, hkind]
        obtain ⟨⟨-, -, a, b, a', b', hspan, hspan', -, hstop⟩, hchildren⟩ := hnm
        obtain ⟨_, span, tail, children⟩ := n
        obtain ⟨_, span', tail', children'⟩ := m
        cases hkind
        cases hkind'
        cases hspan
        cases hspan'
        have all := List.rel_append hblocks hchildren
        exact .cons ⟨⟨rfl, all.length_eq.symm, pos, b, pos', b', rfl, rfl, start, hstop⟩, all⟩ hrest
      · have hn : ∀ l ∈ (n :: ns).head?, l.kind ≠ .text := by
          intro l hl
          cases hl
          exact hkind
        have hm : ∀ l ∈ (m :: ms).head?, l.kind ≠ .text := by
          intro l hl
          cases hl
          rwa [hnm.1.kind]
        rw [Layout.joinText_of_kind_ne hn, Layout.joinText_of_kind_ne hm]
        exact .cons own (.cons hnm hrest)

/-- Two pieces of a text run are one. -/
theorem joinText_joinText (pos : Nat) (u v : Text) (bs cs ns : List Node) :
    Layout.joinText pos u bs (Layout.joinText (pos + u.length) v cs ns) =
      Layout.joinText pos (u ++ v) (bs ++ cs) ns := by
  have hstop : ((pos + u.length : Nat) : Int) + v.length = pos + ((u ++ v).length : Nat) := by
    rw [List.length_append]
    omega
  by_cases hhead : ∀ n ∈ ns.head?, n.kind ≠ .text
  · rw [Layout.joinText_of_kind_ne hhead, Layout.joinText_of_kind_ne hhead, ← hstop]
    rfl
  · push Not at hhead
    obtain ⟨n, hn, hkind⟩ := hhead
    obtain ⟨ns, rfl⟩ : ∃ tail, ns = n :: tail := ⟨ns.tail, (List.cons_head?_tail hn).symm⟩
    obtain ⟨_, span, tail, children⟩ := n
    cases hkind
    simp only [Layout.joinText, List.append_assoc]

/-- Plain characters are one piece of a text run. -/
theorem nodes_plain_append (pos : Nat) (c : Char) (z : Text) (ps : List Piece) :
    Layout.nodes pos ((c :: z).map .plain ++ ps) =
      Layout.joinText pos (c :: z) [] (Layout.nodes (pos + (c :: z).length) ps) := by
  induction z generalizing pos c with
  | nil => rfl
  | cons d z ih =>
      have hlength : pos + 1 + (d :: z).length = pos + (c :: d :: z).length := by
        simp only [List.length_cons]
        omega
      have hrest := ih (pos + 1) d
      rw [hlength] at hrest
      rw [List.map_cons, List.cons_append, Layout.nodes, hrest]
      exact joinText_joinText pos [c] (d :: z) [] [] _

/-- Pieces that match are laid out as nodes that meet. -/
theorem Matched.meetsTree (h : Matched A pos pos' ps qs) :
    List.Forall₂ A.MeetsTree (Layout.nodes pos ps) (Layout.nodes pos' qs) := by
  induction h with
  | nil => exact .nil
  | plain c meets rest ih => exact meetsTree_joinText meets rest.meets .nil ih
  | @body pos pos' x y ps qs meets _ _ _ rest ih =>
      have hlength : ∀ (pos : Nat) (x : Text), pos + 1 + x.length = pos + ('#' :: x).length := by
        intro pos x
        rw [List.length_cons]
        omega
      have stop := rest.meets
      rw [hlength, hlength] at stop ih
      rw [nodes_plain_append, nodes_plain_append]
      exact meetsTree_joinText meets stop .nil ih
  | code source rest ih =>
      exact meetsTree_joinText source.meets source.meets_stop (.cons source.meetsNode .nil) ih
  | comment source _ ih => exact .cons ⟨⟨rfl, rfl, source.meetsSpan⟩, .nil⟩ ih
  | @tag pos pos' u v is js _ _ source insets _ _ ih =>
      have blocks : List.Forall₂ A.MeetsNode
          (is.map fun i => Layout.codeNode (pos + i.offset) i.source)
          (js.map fun j => Layout.codeNode (pos' + j.offset) j.source) := by
        rw [List.forall₂_map_left_iff, List.forall₂_map_right_iff]
        exact insets.imp fun i j hij => hij.meetsNode
      exact .cons ⟨⟨rfl, blocks.length_eq.symm, source.meetsSpan⟩, blocks⟩ ih

end Meets

/-! ### Corrected templates -/

/-- The directives that corrections rewrite. -/
def rewritings (cs : List Correction) : List Correction :=
  cs.filter fun c => !c.isInsertion

/-- A node and the node in its place when directives have been rewritten: it is of the same kind and has
as many children, no directive that was rewritten reaches over one of its ends, and it has the
characters that it had. -/
structure SamePlace (es : List Correction) (n m : Node) : Prop where
  kind : m.kind = n.kind
  children : m.children.length = n.children.length
  span : m.span = ⟨moved es n.span.start, moved es n.span.stop⟩
  apart : Outside es n.span.start ∧ Outside es n.span.stop
  holds : ∀ p : Int, Untouched es p → (m.span.Holds (moved es p) ↔ n.span.Holds p)

/-- Two nodes in the same place, and so are their children. -/
def SameTree (es : List Correction) (n m : Node) : Prop :=
  SamePlace es n m ∧ List.Forall₂ (SamePlace es) n.children m.children

/-- What corrections leave of a template: lines with the directives that were inserted, and behind them
a text that is a template again. Behind the comments of the lines, the nodes are those of that text.
They stand in the places of the nodes of the template before, each character outside of the rewritten
directives is the same as before, and these have the text that the corrections say. -/
structure KeepsStructure (s : Text) (path : Option String) (d : Document) (cs : List Correction)
    (ls : List (String × Nat)) (t : Text) : Prop where
  applied : Corrector.applyTo d s cs = .ok ⟨lines ls ++ t, []⟩
  inserted : (ls.map fun l => (⟨l.1, ⟨0, 0⟩, render l.1 l.2 ++ ['\n']⟩ : Correction)).Perm
    (cs.filter (·.isInsertion))
  template : ∃ e e₀, Document.parse (lines ls ++ t) path = .ok e ∧ Document.parse t path = .ok e₀ ∧
    e.children = Layout.behindLines 0 ls (e₀.children.map (Node.shift (lines ls).length)) ∧
    List.Forall₂ (SameTree (rewritings cs)) d.children e₀.children
  kept : ∀ p : Nat, p < s.length → Untouched (rewritings cs) p →
    t[(moved (rewritings cs) p).toNat]? = s[p]?
  rewritten : ∀ c ∈ rewritings cs,
    t.slice ⟨moved (rewritings cs) c.span.start, moved (rewritings cs) c.span.stop⟩ = c.replacement

section Keeps

variable {es es' : List Correction} {s : Text} {n m : Node}

theorem outside_perm (h : es.Perm es') {p : Int} : Outside es p ↔ Outside es' p :=
  forall_congr' fun _ => imp_congr_left h.mem_iff

theorem untouched_perm (h : es.Perm es') {p : Int} : Untouched es p ↔ Untouched es' p :=
  forall_congr' fun _ => imp_congr_left h.mem_iff

theorem SamePlace.perm (h : es.Perm es') (same : SamePlace es n m) : SamePlace es' n m := by
  obtain ⟨kind, children, span, apart, holds⟩ := same
  rw [moved_perm h, moved_perm h] at span
  rw [outside_perm h, outside_perm h] at apart
  refine ⟨kind, children, span, apart, fun p hp => ?_⟩
  rw [← moved_perm h]
  exact holds p ((untouched_perm h).2 hp)

/-- A node that meets another one between edges is in its place. -/
theorem samePlace_of_meets (turn : InTurn 0 es) (edges : ∀ p : Nat, IsEdge s p → Outside es p)
    (edged : Edged s n.span) (h : (alignmentOf es).MeetsNode n m) : SamePlace es n m := by
  obtain ⟨kind, children, a, b, a', b', hspan, hspan', hstart, hstop⟩ := h
  obtain ⟨_, _, heq, ha, hb⟩ := edged
  rw [hspan] at heq
  cases heq
  have outside := And.intro (edges a ha) (edges b hb)
  have moved_span : m.span = ⟨moved es a, moved es b⟩ := by
    rw [hspan', hstart outside.1, hstop outside.2]
  refine ⟨kind, children, ?_, ?_, fun p hp => ?_⟩
  · rw [hspan]
    exact moved_span
  · rw [hspan]
    exact outside
  · rw [moved_span, hspan]
    exact turn.holds_moved_iff outside.1 outside.2 hp

variable {num : String → Nat} {cs : List Correction}

/-- The directives that a ledger rewrites are the corrections that are no insertions. -/
theorem IsLedger.rewrites_perm (h : IsLedger s num cs) :
    (rewrites s num cs).Perm (rewritings cs) := by
  have turn := inTurn_edits (rewritten num cs) 0 s
  have nodup : (rewrites s num cs).Nodup :=
    nodup_of_ascending (pairwise_edits _ s) fun c hc => (turn.bounds c hc).2
  have nodup' : (rewritings cs).Nodup := by
    have hcs : cs.Nodup := h.distinct.imp fun hne heq => hne (by rw [heq])
    exact hcs.filter _
  refine (List.perm_ext_iff_of_nodup nodup nodup').2 fun c => ?_
  rw [h.mem_edits_iff, rewritings, List.mem_filter, Bool.not_eq_true']

theorem IsJournal.map_lineEntries (h : IsJournal s num cs) :
    ((lineEntries num cs).map fun l => (⟨l.1, ⟨0, 0⟩, render l.1 l.2 ++ ['\n']⟩ : Correction)) =
      newLines cs := by
  rw [lineEntries, List.map_map]
  conv => rhs; rw [← List.map_id (newLines cs)]
  refine List.map_congr_left fun c hc => ?_
  obtain ⟨-, -, heq⟩ := h.of_mem_newLines hc
  exact heq.symm

/-- The corrections of a ledger keep the structure of a template, if its rules have names without
meaning to the scanners. -/
theorem IsLedger.keepsStructure {path : Option String} {d : Document} (h : IsLedger s num cs)
    (inert : ∀ c ∈ cs, Inert c.rule.toList) (hparse : Document.parse s path = .ok d) :
    KeepsStructure s path d cs (lineEntries num cs) (interleave 0 s (rewrites s num cs)) := by
  have hnames : ∀ rule k, rewritten num cs rule = some k → Inert rule := by
    intro rule k hk
    obtain ⟨⟨c, hc, -, rfl⟩, -⟩ := rewritten_eq_some_iff.1 hk
    exact inert c hc
  have turn := inTurn_edits (rewritten num cs) 0 s
  have perm := h.rewrites_perm
  have inside : ∀ c ∈ rewrites s num cs, c.span.stop ≤ s.length := fun c hc =>
    (h.inBounds c (h.mem_edits_iff.1 hc).1).2.2
  refine ⟨?_, ?_, ?_, ?_, ?_⟩
  · unfold Corrector.applyTo
    rw [if_pos (Document.fingerprint_of_parse hparse).2.symm, h.apply_eq, h.blockOf_newLines]
  · rw [h.map_lineEntries]
    exact ((List.reverse_perm _).trans (ordered_perm cs)).filter _
  · obtain ⟨ps, hps, -⟩ := Document.parse_eq_ok_iff.1 hparse
    obtain ⟨qs, hqs, hmatch⟩ := hps.exists_rewrites num inert
    obtain ⟨e₀, he₀⟩ : ∃ e₀, Document.parse (interleave 0 s (rewrites s num cs)) path = .ok e₀ :=
      ⟨_, Document.parse_eq_ok_iff.2 ⟨qs, hqs, rfl⟩⟩
    obtain ⟨e, he, hbehind⟩ := exists_parse_behindLines (h.commentable inert) he₀
    refine ⟨e, e₀, he, he₀, hbehind, ?_⟩
    have edges : ∀ p : Nat, IsEdge s p → Outside (rewrites s num cs) p :=
      fun p => outside_of_isEdge hnames
    have edged := IsTokenizationFrom.edged (isTokenization_of_parse hparse) (.inl rfl)
    have meets : List.Forall₂ (alignmentOf (rewrites s num cs)).MeetsTree d.children e₀.children := by
      rw [Document.children_of_parse hparse hps, Document.children_of_parse he₀ hqs]
      exact hmatch.meetsTree
    refine ((List.forall₂_and_left _ _).2 ⟨edged, meets⟩).imp ?_
    rintro n m ⟨⟨hn, hchildren⟩, hnm, hmeets⟩
    refine ⟨(samePlace_of_meets turn edges hn hnm).perm perm, ?_⟩
    refine ((List.forall₂_and_left _ _).2 ⟨hchildren, hmeets⟩).imp ?_
    rintro b c ⟨hb, hbc⟩
    exact (samePlace_of_meets turn edges hb hbc).perm perm
  · intro p hp free
    rw [← moved_perm perm]
    exact getElem?_interleave turn inside hp ((untouched_perm perm).2 free)
  · intro c hc
    rw [← moved_perm perm, ← moved_perm perm]
    exact slice_interleave turn inside (perm.mem_iff.2 hc)

end Keeps

/-- The corrections that different rules of the library give for a template keep its structure, however
the rules are configured. -/
theorem corrected_keepsStructure {rules : List ConfiguredRule} {s : Text} {path : Option String}
    {d : Document} {result : AuditResult}
    (shipped : ∀ q ∈ rules, ∃ e ∈ shippedRules, q.rule = e.rule)
    (distinct : (rules.map (·.rule.id)).Nodup) (hparse : Document.parse s path = .ok d)
    (h : Engine.run rules d = .ok result) :
    ∃ ls t, KeepsStructure s path d result.corrections ls t := by
  have names : ∀ q ∈ rules, Nameable q.rule.id ∧ Inert q.rule.id.toList := by
    intro q hq
    obtain ⟨e, he, hrule⟩ := shipped q hq
    rw [hrule]
    exact nameable_shipped e he
  obtain ⟨origin, ledger⟩ := isLedger_of_run distinct (fun q hq => (names q hq).1) h
  rw [(Document.fingerprint_of_parse hparse).1] at ledger
  have inert : ∀ c ∈ result.corrections, Inert c.rule.toList := by
    intro c hc
    obtain ⟨q, hq, hid⟩ := origin c hc
    rw [← hid]
    exact (names q hq).2
  exact ⟨_, _, ledger.keepsStructure inert hparse⟩

/-- Two rules whose findings are counted. -/
def countedRules : List ConfiguredRule :=
  [⟨LinkText.rule, { }⟩, ⟨FrameTitle.rule, ⟨true, some true⟩⟩]

/-- A frame without a title, in whose tag there is a directive with a wrong number. -/
def directiveInTag : Text :=
  "<iframe src='\x7b# template-auditor:counter".toList ++
    " Accessibility.AvoidGenericLinkTextCounter 5 #\x7d'></iframe>".toList

/-- A directive in a tag is rewritten, a line is inserted, and the tag is still a tag. -/
theorem corrected_keepsStructure_inTag :
    ∃ d result, Document.parse directiveInTag none = .ok d ∧
      Engine.run countedRules d = .ok result ∧ result.corrections.length = 2 ∧
        ∃ ls t, KeepsStructure directiveInTag none d result.corrections ls t := by
  have corrected : ((Document.parse directiveInTag none).toOption.bind fun d =>
      (Engine.run countedRules d).toOption.map (·.corrections.length)) = some 2 := by
    decide +kernel
  obtain ⟨d, hparse, hd⟩ := Option.bind_eq_some_iff.1 corrected
  obtain ⟨result, hrun, hlength⟩ := Option.map_eq_some_iff.1 hd
  have shipped : ∀ q ∈ countedRules, ∃ e ∈ shippedRules, q.rule = e.rule := by
    simp [countedRules, shippedRules]
  have distinct : (countedRules.map (·.rule.id)).Nodup := by decide
  refine ⟨d, result, eq_ok_of_toOption hparse, eq_ok_of_toOption hrun, hlength, ?_⟩
  exact corrected_keepsStructure shipped distinct (eq_ok_of_toOption hparse)
    (eq_ok_of_toOption hrun)

end MarkupAudit
