import MarkupAudit.Proofs.Template.Tokenization

/-!
# Templates cut and glued

A template can be cut where a node ends: both parts are templates, with the nodes before and behind the
cut (`Document.cutsAt`). This is a matter of the grammar, in which nothing is said of a node but by its
own text and, for a text run, by the text behind it that an opener could reach into.

Behind a tag or a comment, reading starts afresh (`Scan.pieces_append`): an opener is at most four
characters long, and markup at least three, so that no opener reaches from before the markup to behind
it. Hence templates can be glued there, and what is wrong with the second part is wrong with the whole
in the same way, further right (`parse_cuts_and_glues`).
-/

namespace MarkupAudit

/-! ### Openers reach four characters -/

theorem Opening.Starts.append {o : Opening} {s : Text} (h : o.Starts s) (t : Text) :
    o.Starts (s ++ t) := by
  cases o with
  | code kind => exact List.IsPrefix.trans h (List.prefix_append s t)
  | comment kind => exact List.IsPrefix.trans h (List.prefix_append s t)
  | tag => exact StartsTag.append h t

theorem Opening.Starts.of_append {o : Opening} {s t : Text} (h : o.Starts (s ++ t))
    (long : 4 ≤ s.length) : o.Starts s := by
  have starts : ∀ {phrase : Text}, phrase.length ≤ 4 → phrase <+: s ++ t → phrase <+: s :=
    fun short hphrase => List.prefix_of_prefix_length_le hphrase (List.prefix_append s t)
      (Nat.le_trans short long)
  cases o with
  | code kind => exact starts (by cases kind <;> decide) h
  | comment kind => exact starts (by cases kind <;> decide) h
  | tag =>
      obtain ⟨c, hc, h | h⟩ := h
      · exact ⟨c, hc, .inl (starts (by simp) h)⟩
      · exact ⟨c, hc, .inr (starts (by simp) h)⟩

theorem StartsOpener.append {s : Text} (h : StartsOpener s) (t : Text) : StartsOpener (s ++ t) := by
  obtain ⟨o, ho⟩ := h
  exact ⟨o, ho.append t⟩

theorem StartsOpener.of_append {s t : Text} (h : StartsOpener (s ++ t)) (long : 4 ≤ s.length) :
    StartsOpener s := by
  obtain ⟨o, ho⟩ := h
  exact ⟨o, ho.of_append long⟩

theorem IsComment.three_le_length {kind : CommentKind} {source : Text} (h : IsComment kind source) :
    3 ≤ source.length := by
  obtain ⟨body, rfl, -⟩ := h
  cases kind <;> simp [CommentKind.opener, CommentKind.closer]

theorem IsTag.three_le_length {source : Text} {items : List TagItem} (h : IsTag source items) :
    3 ≤ source.length := by
  obtain ⟨hsource, starts, -⟩ := h
  cases hitems : TagItem.sources items with
  | nil =>
      -- `<>` starts no tag
      rw [hsource, hitems] at starts
      obtain ⟨c, hc, h | h⟩ := starts
      · simp only [List.nil_append, List.cons_prefix_cons, true_and] at h
        rw [h.1] at hc
        exact absurd hc (by decide)
      · simp at h
  | cons c body =>
      rw [hsource, hitems]
      simp

/-! ### Pieces behind markup -/

/-- A piece that is a comment or a tag. -/
def Piece.IsMarkup : Piece → Prop
  | .comment _ | .tag _ _ => True
  | .plain _ | .code _ => False

/-- Pieces of which the last, if there is one, is markup. -/
def EndsInMarkup (ps : List Piece) : Prop :=
  ∀ p ∈ ps.getLast?, p.IsMarkup

theorem endsInMarkup_cons {p : Piece} {ps : List Piece} :
    EndsInMarkup (p :: ps) ↔ (ps = [] → p.IsMarkup) ∧ EndsInMarkup ps := by
  unfold EndsInMarkup
  cases ps with
  | nil => simp
  | cons q ps => simp [List.getLast?_cons_cons]

theorem Reads.flatMap_source {s : Text} {ps : List Piece} (h : Reads s ps) :
    ps.flatMap Piece.source = s := by
  induction h with
  | nil => rfl
  | plain _ _ ih => rw [List.flatMap_cons, ih]; rfl
  | code _ _ ih => rw [List.flatMap_cons, ih]; rfl
  | comment _ _ ih => rw [List.flatMap_cons, ih]; rfl
  | tag _ _ ih => rw [List.flatMap_cons, ih]; rfl

theorem Reads.three_le_length {s : Text} {ps : List Piece} (h : Reads s ps)
    (ends : EndsInMarkup ps) (nonempty : ps ≠ []) : 3 ≤ s.length := by
  induction h with
  | nil => exact absurd rfl nonempty
  | @plain c s ps _ _ ih =>
      obtain ⟨last, ends⟩ := endsInMarkup_cons.1 ends
      have := ih ends last
      rw [List.length_cons]
      omega
  | @code kind block s ps _ _ ih =>
      obtain ⟨last, ends⟩ := endsInMarkup_cons.1 ends
      have := ih ends last
      rw [List.length_append]
      omega
  | @comment kind source s ps comment _ _ =>
      have := comment.three_le_length
      rw [List.length_append]
      omega
  | @tag source s items ps tag _ _ =>
      have := tag.three_le_length
      rw [List.length_append]
      omega

namespace Scan

/-- Behind markup, reading starts afresh. -/
theorem pieces_append {s : Text} {ps : List Piece} (h : Reads s ps) (ends : EndsInMarkup ps)
    (t : Text) : pieces (s ++ t) = ps.foldr prepend (pieces t) := by
  induction h with
  | nil => rfl
  | @plain c s ps plain reads ih =>
      obtain ⟨last, ends⟩ := endsInMarkup_cons.1 ends
      have long : 4 ≤ (c :: s).length := Nat.succ_le_succ (reads.three_le_length ends last)
      have plain' : opening? (c :: (s ++ t)) = none :=
        opening?_eq_none_iff.2 fun starts => plain (StartsOpener.of_append starts long)
      rw [List.cons_append, pieces_plain plain', ih ends, List.foldr_cons]
  | code code _ ih =>
      rw [List.append_assoc, pieces_code_append code, ih (endsInMarkup_cons.1 ends).2,
        List.foldr_cons]
  | comment comment _ ih =>
      rw [List.append_assoc, pieces_comment_append comment, ih (endsInMarkup_cons.1 ends).2,
        List.foldr_cons]
  | tag tag _ ih =>
      rw [List.append_assoc, pieces_tag_append tag, ih (endsInMarkup_cons.1 ends).2,
        List.foldr_cons]

theorem foldr_prepend_ok (ps qs : List Piece) : ps.foldr prepend (.ok qs) = .ok (ps ++ qs) := by
  induction ps with
  | nil => rfl
  | cons p ps ih => rw [List.foldr_cons, ih]; rfl

theorem foldr_prepend_error (ps : List Piece) (m : Malformed) :
    ps.foldr prepend (.error m) = .error (m.shift (ps.flatMap Piece.source).length) := by
  induction ps with
  | nil => simp [Malformed.shift]
  | cons p ps ih =>
      rw [List.foldr_cons, ih, List.flatMap_cons, List.length_append]
      simp [prepend, Malformed.shift, Nat.add_assoc]

end Scan

namespace Layout

/-! ### Nodes are laid out alike from any offset -/

theorem shift_codeNode {pos pos' : Nat} {k : Int} (h : (pos' : Int) = pos + k) (u : Text) :
    (codeNode pos u).shift k = codeNode pos' u := by
  simp only [codeNode, Node.shift, Node.shiftAll, Span.shift]
  congr 2 <;> omega

theorem joinText_of_kind_ne {pos : Nat} {source : Text} {blocks ns : List Node}
    (h : ∀ n ∈ ns.head?, n.kind ≠ .text) :
    joinText pos source blocks ns = textNode pos (pos + source.length) source blocks :: ns := by
  rcases ns with _ | ⟨⟨kind, span, tail, children⟩, ns⟩
  · rfl
  · have hkind : kind ≠ .text := h _ rfl
    cases kind <;> first | rfl | contradiction

theorem joinText_add (pos k : Nat) (source : Text) (blocks ns : List Node) :
    joinText (pos + k) source (blocks.map (Node.shift k)) (ns.map (Node.shift k)) =
      (joinText pos source blocks ns).map (Node.shift k) := by
  have hstop : (pos : Int) + k + source.length = (pos : Int) + source.length + k := by
    omega
  rcases ns with _ | ⟨⟨kind, span, tail, children⟩, ns⟩
  · simp [joinText, Node.shift, Span.shift, hstop]
  · cases kind <;> simp [joinText, Node.shift, Span.shift, hstop]

theorem nodes_add (pos k : Nat) (ps : List Piece) :
    nodes (pos + k) ps = (nodes pos ps).map (Node.shift k) := by
  induction ps generalizing pos with
  | nil => rfl
  | cons p ps ih =>
      have later : ∀ m : Nat, nodes (pos + k + m) ps = (nodes (pos + m) ps).map (Node.shift k) := by
        intro m
        rw [← ih, Nat.add_right_comm]
      cases p with
      | plain c =>
          rw [nodes, nodes, later]
          exact joinText_add pos k [c] [] _
      | code u =>
          have block : (codeNode pos u).shift k = codeNode (pos + k) u :=
            shift_codeNode (by omega) u
          rw [nodes, nodes, later, ← joinText_add, List.map_singleton, block]
      | comment u =>
          rw [nodes, nodes, later, List.map_cons, Node.shift, Span.shift]
          congr 3
          simp only
          omega
      | tag u is =>
          have blocks : ∀ i ∈ is, codeNode (pos + k + i.offset) i.source =
              (codeNode (pos + i.offset) i.source).shift k :=
            fun i _ => (shift_codeNode (by omega) i.source).symm
          rw [nodes, nodes, later, List.map_cons, Node.shift, Span.shift, Node.shiftAll_eq_map,
            List.map_map, Function.comp_def, List.map_congr_left blocks]
          congr 3
          simp only
          omega

/-! ### Nodes behind markup -/

theorem joinText_append {pos : Nat} {source : Text} {blocks ns : List Node} (h : ns ≠ [])
    (ms : List Node) :
    joinText pos source blocks (ns ++ ms) = joinText pos source blocks ns ++ ms := by
  obtain ⟨⟨kind, span, tail, children⟩, ns, rfl⟩ := List.exists_cons_of_ne_nil h
  cases kind <;> rfl

theorem nodes_ne_nil {pos : Nat} {ps : List Piece} (h : ps ≠ []) : nodes pos ps ≠ [] := by
  obtain ⟨p, ps, rfl⟩ := List.exists_cons_of_ne_nil h
  cases p with
  | plain c =>
      rw [nodes, joinText.eq_def]
      split <;> simp
  | code u =>
      rw [nodes, joinText.eq_def]
      split <;> simp
  | comment u => simp [nodes]
  | tag u is => simp [nodes]

/-- The nodes of pieces that end in markup are followed by the nodes of the pieces behind. -/
theorem nodes_append {ps : List Piece} (ends : EndsInMarkup ps) (pos : Nat) (qs : List Piece) :
    nodes pos (ps ++ qs) =
      nodes pos ps ++ nodes (pos + (ps.flatMap Piece.source).length) qs := by
  induction ps generalizing pos with
  | nil => rfl
  | cons p ps ih =>
      obtain ⟨last, rest⟩ := endsInMarkup_cons.1 ends
      rw [List.flatMap_cons, List.length_append, ← Nat.add_assoc]
      cases p with
      | plain c =>
          have more : nodes (pos + 1) ps ≠ [] := nodes_ne_nil last
          rw [List.cons_append, nodes, ih rest, joinText_append more]
          rfl
      | code u =>
          have more : nodes (pos + u.length) ps ≠ [] := nodes_ne_nil last
          rw [List.cons_append, nodes, ih rest, joinText_append more]
          rfl
      | comment u =>
          rw [List.cons_append, nodes, ih rest]
          rfl
      | tag u is =>
          rw [List.cons_append, nodes, ih rest]
          rfl

theorem kind_getLast?_joinText {pos : Nat} {source : Text} {blocks ns : List Node} (h : ns ≠ []) :
    (joinText pos source blocks ns).getLast?.map (·.kind) = ns.getLast?.map (·.kind) := by
  obtain ⟨⟨kind, span, tail, children⟩, ns, rfl⟩ := List.exists_cons_of_ne_nil h
  cases ns with
  | nil => cases kind <;> rfl
  | cons n ns => cases kind <;> simp [joinText, List.getLast?_cons_cons]

/-- Pieces end in markup if the nodes that are laid out for them do. -/
theorem endsInMarkup_of_nodes {ps : List Piece} (pos : Nat)
    (h : ∀ kind ∈ (nodes pos ps).getLast?.map (·.kind), kind = .tag ∨ kind = .comment) :
    EndsInMarkup ps := by
  induction ps generalizing pos with
  | nil => simp [EndsInMarkup]
  | cons p ps ih =>
      by_cases hps : ps = []
      · subst hps
        refine endsInMarkup_cons.2 ⟨fun _ => ?_, by simp [EndsInMarkup]⟩
        cases p with
        | plain c => simp [nodes, joinText] at h
        | code u => simp [nodes, joinText] at h
        | comment u => trivial
        | tag u is => trivial
      · refine endsInMarkup_cons.2 ⟨fun hnil => absurd hnil hps, ?_⟩
        have more : ∀ pos, nodes pos ps ≠ [] := fun pos => nodes_ne_nil hps
        cases p with
        | plain c =>
            rw [nodes, kind_getLast?_joinText (more _)] at h
            exact ih _ h
        | code u =>
            rw [nodes, kind_getLast?_joinText (more _)] at h
            exact ih _ h
        | comment u =>
            rw [nodes, List.getLast?_cons_of_ne_nil (more _)] at h
            exact ih _ h
        | tag u is =>
            rw [nodes, List.getLast?_cons_of_ne_nil (more _)] at h
            exact ih _ h

end Layout

/-! ### Cutting a tokenization -/

theorem Text.slice_take {s : Text} {b : Nat} {span : Span} (hstop : span.stop ≤ b)
    (hstart : 0 ≤ span.start) : slice (s.take b) span = s.slice span := by
  rw [slice, slice, List.drop_take, List.take_take]
  congr 1
  omega

theorem Text.slice_drop {s : Text} {b : Nat} {span : Span} (h : (b : Int) ≤ span.start) :
    slice (s.drop b) (span.shift (-b)) = s.slice span := by
  rw [slice, slice, List.drop_drop]
  simp only [Span.shift]
  congr 1
  · omega
  · congr 1
    omega

theorem tiles_append {lo hi : Int} {ns ms : List Node} :
    Tiles lo hi (ns ++ ms) ↔ ∃ mid, Tiles lo mid ns ∧ Tiles mid hi ms := by
  induction ns generalizing lo with
  | nil => simp [Tiles]
  | cons n ns ih => simp [Tiles, ih, and_assoc]

theorem Tiles.shift {lo hi : Int} {ns : List Node} (h : Tiles lo hi ns) (k : Int) :
    Tiles (lo + k) (hi + k) (ns.map (Node.shift k)) := by
  induction ns generalizing lo with
  | nil => exact congrArg (· + k) h
  | cons n ns ih =>
      obtain ⟨hstart, hlt, hrest⟩ := h
      refine ⟨?_, ?_, ?_⟩
      · simp [Span.shift, hstart]
      · simpa [Span.shift] using hlt
      · simpa [Span.shift] using ih hrest

theorem Within.shift {lo hi : Int} {ns : List Node} (h : Within lo hi ns) (k : Int) :
    Within (lo + k) (hi + k) (ns.map (Node.shift k)) := by
  induction ns generalizing lo with
  | nil => exact Int.add_le_add_right h k
  | cons n ns ih =>
      obtain ⟨hstart, hlt, hrest⟩ := h
      refine ⟨?_, ?_, ?_⟩
      · simpa [Span.shift] using hstart
      · simpa [Span.shift] using hlt
      · simpa [Span.shift] using ih hrest

/-- Nodes cover only one range from a given offset on. -/
theorem Tiles.eq_of_tiles {lo hi hi' : Int} {ns : List Node} (h : Tiles lo hi ns)
    (h' : Tiles lo hi' ns) : hi = hi' := by
  induction ns generalizing lo with
  | nil => exact h.symm.trans h'
  | cons n ns ih => exact ih h.2.2 h'.2.2

/-- Nodes that cover a range lie in it. -/
theorem Tiles.bounds {lo hi : Int} {ns : List Node} (h : Tiles lo hi ns) :
    ∀ n ∈ ns, lo ≤ n.span.start ∧ n.span.start < n.span.stop ∧ n.span.stop ≤ hi := by
  induction ns generalizing lo with
  | nil => exact List.forall_mem_nil _
  | cons n ns ih =>
      obtain ⟨hstart, hlt, hrest⟩ := h
      refine List.forall_mem_cons.2 ⟨⟨by omega, by omega, hrest.le⟩, fun m hm => ?_⟩
      have := ih hrest m hm
      omega

theorem TagItem.nodes_shift (pos k : Int) (items : List TagItem) :
    (TagItem.nodes pos items).map (Node.shift k) = TagItem.nodes (pos + k) items := by
  induction items generalizing pos with
  | nil => rfl
  | cons item items ih =>
      cases item with
      | char c => rw [nodes, nodes, ih, Int.add_right_comm]
      | code u =>
          rw [nodes, nodes, List.map_cons, ih, Int.add_right_comm, Node.shift, Span.shift,
            Int.add_right_comm]
          rfl

section Cut

variable {s : Text} {n : Node} {b : Nat}

/-- A block before a cut. -/
theorem IsBlock.take (h : IsBlock s n) (hstart : 0 ≤ n.span.start) (hstop : n.span.stop ≤ b) :
    IsBlock (s.take b) n := by
  refine { h with source := ?_ }
  rw [Text.slice_take hstop hstart]
  exact h.source

/-- A block behind a cut. -/
theorem IsBlock.drop (h : IsBlock s n) (hstart : (b : Int) ≤ n.span.start) :
    IsBlock (s.drop b) (n.shift (-b)) := by
  refine ⟨by simpa using h.kind, ?_, by simpa using h.code, by simp [h.leaf]⟩
  rw [Node.shift_source, Node.shift_span, Text.slice_drop hstart]
  exact h.source

theorem IsTextRun.take (h : IsTextRun s n) (hstart : 0 ≤ n.span.start) (hstop : n.span.stop ≤ b) :
    IsTextRun (s.take b) n := by
  refine ⟨h.within, fun c hc => ?_, fun p hp hout hopens => h.plain p hp hout ?_⟩
  · have := h.within.bounds c hc
    exact (h.blocks c hc).take (by omega) (by omega)
  · -- an opener before the cut is one in the whole text
    rw [List.drop_take] at hopens
    have whole := hopens.append ((s.drop p).drop (b - p))
    rwa [List.take_append_drop] at whole

theorem IsTextRun.drop (h : IsTextRun s n) (hstart : (b : Int) ≤ n.span.start) :
    IsTextRun (s.drop b) (n.shift (-b)) := by
  refine ⟨by simpa [Span.shift] using h.within.shift (-b), ?_, ?_⟩
  · intro c hc
    rw [Node.shift_children] at hc
    obtain ⟨m, hm, rfl⟩ := List.mem_map.1 hc
    have := h.within.bounds m hm
    exact (h.blocks m hm).drop (by omega)
  · intro p hp hout
    have held : ∀ m : Node, (m.shift (-b)).span.Holds p ↔ m.span.Holds (b + p : Nat) := by
      intro m
      simp only [Node.shift_span, Span.shift, Span.Holds]
      omega
    rw [List.drop_drop]
    refine h.plain (b + p) ((held n).1 hp) fun c hc hin => ?_
    refine hout (c.shift (-b)) ?_ ((held c).2 hin)
    rw [Node.shift_children]
    exact List.mem_map_of_mem hc

theorem IsToken.take (h : IsToken s n) (hstart : 0 ≤ n.span.start) (hstop : n.span.stop ≤ b) :
    IsToken (s.take b) n := by
  obtain ⟨hsource, hshape⟩ := h
  refine ⟨by rw [Text.slice_take hstop hstart]; exact hsource, ?_⟩
  split at hshape
  · exact hshape.take hstart hstop
  · exact hshape
  · exact hshape
  · exact hshape
  · exact hshape

theorem IsToken.drop (h : IsToken s n) (hstart : (b : Int) ≤ n.span.start) :
    IsToken (s.drop b) (n.shift (-b)) := by
  obtain ⟨hsource, hshape⟩ := h
  refine ⟨by rw [Node.shift_source, Node.shift_span, Text.slice_drop hstart]; exact hsource, ?_⟩
  rw [Node.shift_kind]
  split at hshape
  · exact hshape.drop hstart
  · obtain ⟨items, tag, hchildren⟩ := hshape
    refine ⟨items, by rwa [Node.shift_source], ?_⟩
    rw [Node.shift_children, hchildren, TagItem.nodes_shift, Node.shift_span, Span.shift,
      Int.add_right_comm]
  · obtain ⟨comment, hleaf⟩ := hshape
    exact ⟨by rwa [Node.shift_source], by rw [Node.shift_children, hleaf]; rfl⟩
  · exact hshape
  · exact hshape

/-- A tokenization can be cut between two nodes. -/
theorem IsTokenization.cut {front back : List Node} (h : IsTokenization s (front ++ back))
    (tiles : Tiles 0 b front) :
    IsTokenization (s.take b) front ∧ IsTokenization (s.drop b) (back.map (Node.shift (-b))) := by
  obtain ⟨hall, separated, tokens⟩ := h
  obtain ⟨mid, hfront, hback⟩ := tiles_append.1 hall
  obtain rfl : mid = b := Tiles.eq_of_tiles hfront tiles
  obtain ⟨hsep, hsep', -⟩ := List.isChain_append.1 separated
  have hle := hback.le
  constructor
  · refine ⟨?_, hsep, fun n hn => ?_⟩
    · rw [List.length_take_of_le (by omega)]
      exact tiles
    · have := tiles.bounds n hn
      exact (tokens n (List.mem_append_left _ hn)).take (by omega) (by omega)
  · refine ⟨?_, ?_, fun n hn => ?_⟩
    · have moved := hback.shift (-b)
      rw [Int.add_right_neg] at moved
      rwa [List.length_drop, Int.ofNat_sub (by omega)]
    · refine (List.isChain_map _).2 (hsep'.imp fun n m h => ?_)
      simpa using h
    · obtain ⟨m, hm, rfl⟩ := List.mem_map.1 hn
      have := hback.bounds m hm
      exact (tokens m (List.mem_append_right _ hm)).drop (by omega)

end Cut

/-! ### Documents -/

namespace Document

/-- An offset at which a document can be cut: its start, its end, or where a node ends. -/
def IsBoundary (d : Document) (b : Nat) : Prop :=
  b = 0 ∨ b = d.source.length ∨ ∃ n ∈ d.children, n.span.stop = b

/-- A document that is empty or ends with a tag or a comment. -/
def EndsInMarkup (d : Document) : Prop :=
  ∀ n ∈ d.children.getLast?, n.kind = .tag ∨ n.kind = .comment

/-- The text before an offset and the text behind it are templates. The nodes before it are those that
end there or earlier, and the nodes behind it are the others, moved. -/
structure CutsAt (d : Document) (b : Nat) : Prop where
  front : ∀ path, ∃ e, Document.parse (d.source.take b) path = .ok e ∧
    e.children = d.children.filter fun n => n.span.stop ≤ (b : Int)
  back : ∀ path, ∃ e, Document.parse (d.source.drop b) path = .ok e ∧
    e.children = (d.children.filter fun n => (b : Int) < n.span.stop).map (Node.shift (-b))

/-- What stands behind a document is read as if it stood alone: its nodes follow, moved, or it is
malformed in the same way, further right. -/
structure GluesTo (d : Document) (t : Text) : Prop where
  reads : ∀ path e, Document.parse t path = .ok e →
    ∃ whole, Document.parse (d.source ++ t) path = .ok whole ∧
      whole.children = d.children ++ e.children.map (Node.shift d.source.length)
  fails : ∀ path m, Document.parse t path = .error m →
    Document.parse (d.source ++ t) path = .error (m.shift d.source.length)

theorem parse_eq_error_iff {s : Text} {path : Option String} {m : Malformed} :
    Document.parse s path = .error m ↔ Scan.pieces s = .error m := by
  rw [Document.parse]
  cases Scan.pieces s with
  | error m => simp
  | ok ps => simp

/-- A boundary is where some of the nodes end and the others begin. -/
theorem IsBoundary.exists_tiles {d : Document} {b : Nat} (h : d.IsBoundary b)
    (tiles : Tiles 0 d.source.length d.children) :
    ∃ front back, d.children = front ++ back ∧ Tiles 0 b front ∧ Tiles b d.source.length back := by
  rcases h with rfl | rfl | ⟨n, hn, hstop⟩
  · exact ⟨[], d.children, rfl, rfl, tiles⟩
  · exact ⟨d.children, [], (List.append_nil _).symm, tiles, rfl⟩
  · obtain ⟨front, back, hsplit⟩ := List.append_of_mem hn
    rw [hsplit] at tiles
    obtain ⟨mid, hfront, hstart, hlt, hback⟩ := tiles_append.1 tiles
    rw [hstop] at hlt hback
    refine ⟨front ++ [n], back, by rw [hsplit, List.append_assoc]; rfl, ?_, hback⟩
    exact tiles_append.2 ⟨mid, hfront, hstart, by rwa [hstop], hstop⟩

theorem cutsAt {s : Text} {path : Option String} {d : Document} {b : Nat}
    (h : Document.parse s path = .ok d) (hb : d.IsBoundary b) : d.CutsAt b := by
  obtain ⟨ps, -, hd⟩ := Document.parse_eq_ok_iff.1 h
  have hsource : d.source = s := by rw [hd]
  have whole : IsTokenization d.source d.children := hsource ▸ isTokenization_of_parse h
  obtain ⟨front, back, hsplit, hfront, hback⟩ := hb.exists_tiles whole.tiles
  have before : ∀ n ∈ front, n.span.stop ≤ (b : Int) := fun n hn => (hfront.bounds n hn).2.2
  have behind : ∀ n ∈ back, (b : Int) < n.span.stop := by
    intro n hn
    have := hback.bounds n hn
    omega
  rw [hsplit] at whole
  obtain ⟨cut, cut'⟩ := whole.cut hfront
  constructor
  · intro path
    obtain ⟨e, hparse, hchildren⟩ := exists_parse_of_isTokenization cut path
    refine ⟨e, hparse, ?_⟩
    rw [hchildren, hsplit, List.filter_append, List.filter_eq_self.2, List.filter_eq_nil_iff.2,
      List.append_nil]
    · simpa using behind
    · simpa using before
  · intro path
    obtain ⟨e, hparse, hchildren⟩ := exists_parse_of_isTokenization cut' path
    refine ⟨e, hparse, ?_⟩
    rw [hchildren, hsplit, List.filter_append, List.filter_eq_nil_iff.2, List.filter_eq_self.2,
      List.nil_append]
    · simpa using behind
    · simpa using before

theorem gluesTo {s : Text} {path : Option String} {d : Document}
    (h : Document.parse s path = .ok d) (ends : d.EndsInMarkup) (t : Text) : d.GluesTo t := by
  obtain ⟨ps, reads, rfl⟩ := Document.parse_eq_ok_iff.1 h
  have ends' : MarkupAudit.EndsInMarkup ps := by
    refine Layout.endsInMarkup_of_nodes 0 fun kind hkind => ?_
    obtain ⟨n, hn, rfl⟩ := Option.map_eq_some_iff.1 hkind
    exact ends n hn
  have glued := Scan.pieces_append reads ends' t
  have hlength : (ps.flatMap Piece.source).length = s.length := by rw [reads.flatMap_source]
  constructor
  · intro path e he
    obtain ⟨qs, hqs, rfl⟩ := Document.parse_eq_ok_iff.1 he
    rw [Scan.pieces_of_reads hqs, Scan.foldr_prepend_ok] at glued
    refine ⟨_, Document.parse_eq_ok_iff.2 ⟨_, Scan.reads_of_pieces glued, rfl⟩, ?_⟩
    show Layout.nodes 0 (ps ++ qs) = Layout.nodes 0 ps ++ (Layout.nodes 0 qs).map (Node.shift s.length)
    rw [Layout.nodes_append ends', hlength, Layout.nodes_add]
  · intro path m hm
    rw [Document.parse_eq_error_iff.1 hm, Scan.foldr_prepend_error, hlength] at glued
    exact Document.parse_eq_error_iff.2 glued

end Document

/-- A template can be cut where a node ends, and any text can be put behind it if it ends with a tag or a
comment. -/
theorem parse_cuts_and_glues {s : Text} {path : Option String} {d : Document}
    (h : Document.parse s path = .ok d) :
    d.source = s ∧ (∀ b, d.IsBoundary b → d.CutsAt b) ∧ (d.EndsInMarkup → ∀ t, d.GluesTo t) := by
  refine ⟨?_, fun b hb => Document.cutsAt h hb, fun ends t => Document.gluesTo h ends t⟩
  obtain ⟨ps, -, rfl⟩ := Document.parse_eq_ok_iff.1 h
  rfl

/-- A text run and a tag, each with a code block in it, and a comment. -/
def textTagComment : Text :=
  "<<\x7b\x7b y \x7d\x7d<a b=\"\x7b\x7b t \x7d\x7d\">\x7b# c #\x7d".toList

theorem parse_cuts_and_glues_textTagComment :
    ∃ d, Document.parse textTagComment none = .ok d ∧ d.CutsAt 9 ∧ d.GluesTo "x<a ".toList ∧
      Document.parse (d.source ++ "x<a ".toList) none = .error ⟨.tag, 32⟩ := by
  have outline : (Document.parse textTagComment none).toOption.map
      (fun d => d.children.map fun n => (n.kind, n.span.stop)) =
        some [(.text, 9), (.tag, 24), (.comment, 31)] := by
    decide +kernel
  have unclosed : Scan.pieces "x<a ".toList = .error ⟨.tag, 1⟩ := by decide +kernel
  cases hparse : Document.parse textTagComment none with
  | error m =>
      rw [hparse] at outline
      cases outline
  | ok d =>
      obtain ⟨hsource, cuts, glues⟩ := parse_cuts_and_glues hparse
      rw [hparse] at outline
      have nodes : d.children.map (fun n => (n.kind, n.span.stop)) =
          [(.text, 9), (.tag, 24), (.comment, 31)] := Option.some.inj outline
      have boundary : d.IsBoundary 9 := by
        have first : (NodeKind.text, (9 : Int)) ∈ d.children.map fun n => (n.kind, n.span.stop) := by
          simp [nodes]
        obtain ⟨n, hn, heq⟩ := List.mem_map.1 first
        exact .inr (.inr ⟨n, hn, congrArg Prod.snd heq⟩)
      have ends : d.EndsInMarkup := by
        intro n hn
        have last : (d.children.map fun n => (n.kind, n.span.stop)).getLast? =
            some (n.kind, n.span.stop) := by
          rw [List.getLast?_map, hn, Option.map_some]
        rw [nodes] at last
        exact .inr (congrArg Prod.fst (Option.some.inj last)).symm
      refine ⟨d, rfl, cuts 9 boundary, glues ends _, ?_⟩
      rw [(glues ends _).fails none _ (Document.parse_eq_error_iff.2 unclosed), hsource]
      exact congrArg Except.error (by decide +kernel)

end MarkupAudit
