import Mathlib.Data.List.Chain
import MarkupAudit.Proofs.Template.Grammar
import MarkupAudit.Template.Document

/-!
# Tokenizations

When a list of nodes is a tokenization of a text, said of the nodes and the text alone: the nodes
cover the text one after the other, each of them is what its kind says, and no opener is overlooked.
Reading a template gives a tokenization (`isTokenization_of_reads`), and every tokenization is what
reading gives (`exists_reads_of_isTokenization`). The induction behind both goes from offset to
offset, so the notions below are about the part of a text from an offset on.
-/

namespace MarkupAudit

/-- The part of a text that a span covers. -/
def Text.slice (s : Text) (span : Span) : Text :=
  (s.drop span.start.toNat).take (span.stop - span.start).toNat

/-- Whether an offset lies in a span. -/
def Span.Holds (span : Span) (p : Int) : Prop :=
  span.start ≤ p ∧ p < span.stop

instance (span : Span) (p : Int) : Decidable (span.Holds p) :=
  inferInstanceAs (Decidable (_ ∧ _))

/-- The nodes cover the offsets from `lo` to `hi` one after the other, and none of them is empty. -/
def Tiles : (lo hi : Int) → List Node → Prop
  | lo, hi, [] => lo = hi
  | lo, hi, n :: ns => n.span.start = lo ∧ lo < n.span.stop ∧ Tiles n.span.stop hi ns

/-- The nodes lie between `lo` and `hi` in order, apart from each other, and none of them is empty. -/
def Within : (lo hi : Int) → List Node → Prop
  | lo, hi, [] => lo ≤ hi
  | lo, hi, n :: ns =>
      lo ≤ n.span.start ∧ n.span.start < n.span.stop ∧ Within n.span.stop hi ns

/-- No two text runs stand side by side. -/
def Separated (ns : List Node) : Prop :=
  ns.IsChain fun n m => ¬ (n.kind = .text ∧ m.kind = .text)

/-- The node of a code block in a text. -/
structure IsBlock (s : Text) (n : Node) : Prop where
  kind : n.kind = .code
  source : n.source = s.slice n.span
  code : ∃ kind, IsCode kind n.source
  leaf : n.children = []

/-- What a text run has to be: code blocks in a row, and no opener outside of them. -/
structure IsTextRun (s : Text) (n : Node) : Prop where
  within : Within n.span.start n.span.stop n.children
  blocks : ∀ b ∈ n.children, IsBlock s b
  plain : ∀ p : Nat, n.span.Holds p → (∀ b ∈ n.children, ¬ b.span.Holds p) → ¬ StartsOpener (s.drop p)

/-- The nodes of the code blocks among the items of a tag, the first item at an offset. -/
def TagItem.nodes (pos : Int) : List TagItem → List Node
  | [] => []
  | .char _ :: items => nodes (pos + 1) items
  | .code s :: items => ⟨.code, ⟨pos, pos + s.length⟩, s, []⟩ :: nodes (pos + s.length) items

/-- A node that is what its kind says. -/
def IsToken (s : Text) (n : Node) : Prop :=
  n.source = s.slice n.span ∧
    match n.kind with
    | .text => IsTextRun s n
    | .tag => ∃ items, IsTag n.source items ∧ n.children = TagItem.nodes (n.span.start + 1) items
    | .comment => (∃ kind, IsComment kind n.source) ∧ n.children = []
    | .code | .document => False

/-- The nodes are a tokenization of the part of a text from an offset on. -/
structure IsTokenizationFrom (s : Text) (pos : Nat) (ns : List Node) : Prop where
  tiles : Tiles pos s.length ns
  separated : Separated ns
  tokens : ∀ n ∈ ns, IsToken s n

/-- The nodes are a tokenization of a text. -/
def IsTokenization (s : Text) (ns : List Node) : Prop :=
  IsTokenizationFrom s 0 ns

/-! ### Slices and ranges -/

namespace Text

theorem slice_natCast (s : Text) (a b : Nat) : s.slice ⟨a, b⟩ = (s.drop a).take (b - a) := by
  rw [slice, Int.toNat_natCast, Int.toNat_sub]

theorem slice_append (s : Text) {a b c : Nat} (hab : a ≤ b) (hbc : b ≤ c) :
    s.slice ⟨a, b⟩ ++ s.slice ⟨b, c⟩ = s.slice ⟨a, c⟩ := by
  rw [slice_natCast, slice_natCast, slice_natCast]
  have hdrop : s.drop b = (s.drop a).drop (b - a) := by
    rw [List.drop_drop]
    congr 1
    omega
  have hlen : c - a = (b - a) + (c - b) := by omega
  rw [hdrop, hlen, List.take_add]

/-- What stands at an offset is the slice of its length there. -/
theorem slice_of_drop_eq {s u rest : Text} {pos : Nat} (h : s.drop pos = u ++ rest) :
    s.slice ⟨pos, pos + u.length⟩ = u := by
  have hcast : (⟨pos, pos + u.length⟩ : Span) = ⟨pos, (pos + u.length : Nat)⟩ := by simp
  rw [hcast, slice_natCast, h, Nat.add_sub_cancel_left, List.take_left]

theorem drop_add_of_drop_eq {s u rest : Text} {pos : Nat} (h : s.drop pos = u ++ rest) :
    s.drop (pos + u.length) = rest := by
  rw [← List.drop_drop, h, List.drop_left]

theorem add_length_le_of_drop_eq {s u rest : Text} {pos : Nat} (hpos : pos ≤ s.length)
    (h : s.drop pos = u ++ rest) : pos + u.length ≤ s.length := by
  have hlen := congrArg List.length h
  rw [List.length_drop, List.length_append] at hlen
  omega

/-- A slice that is in bounds stands at its offset. -/
theorem drop_eq_slice_append {s : Text} {a b : Nat} (hab : a ≤ b) :
    s.drop a = s.slice ⟨a, b⟩ ++ s.drop b := by
  rw [slice_natCast]
  have hdrop : s.drop b = (s.drop a).drop (b - a) := by
    rw [List.drop_drop]
    congr 1
    omega
  rw [hdrop, List.take_append_drop]

theorem length_slice {s : Text} {a b : Nat} (hb : b ≤ s.length) :
    (s.slice ⟨a, b⟩).length = b - a := by
  rw [slice_natCast, List.length_take, List.length_drop]
  omega

end Text

theorem Tiles.le {lo hi : Int} {ns : List Node} (h : Tiles lo hi ns) : lo ≤ hi := by
  induction ns generalizing lo with
  | nil => exact Int.le_of_eq h
  | cons n ns ih =>
      obtain ⟨-, hlt, hrest⟩ := h
      exact Int.le_trans (Int.le_of_lt hlt) (ih hrest)

theorem Within.le {lo hi : Int} {ns : List Node} (h : Within lo hi ns) : lo ≤ hi := by
  induction ns generalizing lo with
  | nil => exact h
  | cons n ns ih =>
      obtain ⟨hlo, hlt, hrest⟩ := h
      have := ih hrest
      omega

theorem Within.mono {lo lo' hi hi' : Int} {ns : List Node} (h : Within lo hi ns) (hlo : lo' ≤ lo)
    (hhi : hi ≤ hi') : Within lo' hi' ns := by
  induction ns generalizing lo lo' with
  | nil =>
      have : lo ≤ hi := h
      show lo' ≤ hi'
      omega
  | cons n ns ih =>
      obtain ⟨hstart, hlt, hrest⟩ := h
      exact ⟨by omega, hlt, ih hrest (Int.le_refl _)⟩

theorem Within.append {lo mid hi : Int} {ns ms : List Node} (h : Within lo mid ns)
    (h' : Within mid hi ms) : Within lo hi (ns ++ ms) := by
  induction ns generalizing lo with
  | nil => exact h'.mono h (Int.le_refl _)
  | cons n ns ih => exact ⟨h.1, h.2.1, ih h.2.2⟩

/-- Every one of the nodes between two bounds lies between them. -/
theorem Within.bounds {lo hi : Int} {ns : List Node} (h : Within lo hi ns) :
    ∀ n ∈ ns, lo ≤ n.span.start ∧ n.span.start < n.span.stop ∧ n.span.stop ≤ hi := by
  induction ns generalizing lo with
  | nil => intro n hn; cases hn
  | cons m ns ih =>
      intro n hn
      obtain ⟨hstart, hlt, hrest⟩ := h
      rcases List.mem_cons.1 hn with rfl | hn
      · exact ⟨hstart, hlt, hrest.le⟩
      · have := ih hrest n hn
        omega

/-! ### Text runs

A text run can be cut at any offset outside of its code blocks, and two text runs side by side make
one. The nodes of a text run come and go piece by piece in this way. -/

/-- The node of a text run. -/
abbrev textNode (lo hi : Int) (source : Text) (blocks : List Node) : Node :=
  ⟨.text, ⟨lo, hi⟩, source, blocks⟩

section TextRuns

variable {s u v : Text} {a b c : Nat} {bs cs : List Node}

/-- Two text runs side by side are one. -/
theorem isToken_textNode_append (hab : a ≤ b) (hbc : b ≤ c)
    (left : IsToken s (textNode a b u bs)) (right : IsToken s (textNode b c v cs)) :
    IsToken s (textNode a c (u ++ v) (bs ++ cs)) := by
  obtain ⟨hu, leftRun⟩ := left
  obtain ⟨hv, rightRun⟩ := right
  refine ⟨?_, leftRun.within.append rightRun.within, ?_, ?_⟩
  · show u ++ v = s.slice ⟨a, c⟩
    rw [← Text.slice_append s hab hbc]
    exact congrArg₂ _ hu hv
  · intro n hn
    rcases List.mem_append.1 hn with hn | hn
    · exact leftRun.blocks n hn
    · exact rightRun.blocks n hn
  · intro p hp hout
    obtain ⟨hlo, hhi⟩ := hp
    by_cases hpb : (p : Int) < b
    · exact leftRun.plain p ⟨hlo, hpb⟩ fun n hn => hout n (List.mem_append_left _ hn)
    · exact rightRun.plain p ⟨by simpa using hpb, hhi⟩ fun n hn => hout n (List.mem_append_right _ hn)

/-- A character at which no opener starts is a text run. -/
theorem isToken_plain {c : Char} (hs : s.drop a = c :: u) (plain : ¬ StartsOpener (c :: u)) :
    IsToken s (textNode a (a + 1) [c] []) := by
  refine ⟨(Text.slice_of_drop_eq (u := [c]) hs).symm, ?_, by simp, ?_⟩
  · show (a : Int) ≤ a + 1
    omega
  · intro p hp _
    have hpa : p = a := by
      obtain ⟨hlo, hhi⟩ := hp
      dsimp only at hlo hhi
      omega
    rw [hpa, hs]
    exact plain

/-- The node that is laid out for a code block is one. -/
theorem isBlock_codeNode {kind : CodeKind} (hs : s.drop a = u ++ v) (code : IsCode kind u) :
    IsBlock s (Layout.codeNode a u) :=
  ⟨rfl, (Text.slice_of_drop_eq hs).symm, ⟨kind, code⟩, rfl⟩

/-- A code block is a text run. -/
theorem isToken_code {kind : CodeKind} (hs : s.drop a = u ++ v) (code : IsCode kind u) :
    IsToken s (textNode a (a + u.length) u [Layout.codeNode a u]) := by
  have hpos := code.length_pos
  refine ⟨(Text.slice_of_drop_eq hs).symm, ?_, ?_, ?_⟩
  · refine ⟨Int.le_refl _, ?_, Int.le_refl _⟩
    show (a : Int) < a + u.length
    omega
  · intro n hn
    rw [List.mem_singleton.1 hn]
    exact isBlock_codeNode hs code
  · intro p hp hout
    exact absurd hp (hout (Layout.codeNode a u) (List.mem_singleton_self _))

end TextRuns

/-! ### Reading gives a tokenization -/

/-- A tokenization from an offset on, node by node. -/
theorem isTokenizationFrom_cons {s : Text} {pos : Nat} {n : Node} {ns : List Node} :
    IsTokenizationFrom s pos (n :: ns) ↔
      ∃ stop : Nat, n.span = ⟨pos, stop⟩ ∧ pos < stop ∧ IsToken s n ∧
        (∀ m ∈ ns.head?, ¬ (n.kind = .text ∧ m.kind = .text)) ∧ IsTokenizationFrom s stop ns := by
  constructor
  · rintro ⟨⟨hstart, hlt, hrest⟩, separated, tokens⟩
    have hstop : (n.span.stop.toNat : Int) = n.span.stop := Int.toNat_of_nonneg (by omega)
    obtain ⟨head, tail⟩ := List.isChain_cons.1 separated
    refine ⟨n.span.stop.toNat, ?_, by omega, tokens n (by simp), head, ?_⟩
    · rw [hstop, ← hstart]
    · exact ⟨by rwa [hstop], tail, fun m hm => tokens m (List.mem_cons_of_mem _ hm)⟩
  · rintro ⟨stop, hspan, hlt, token, head, rest⟩
    refine ⟨?_, List.isChain_cons.2 ⟨head, rest.separated⟩, ?_⟩
    · rw [Tiles, hspan]
      exact ⟨rfl, by dsimp only; omega, rest.tiles⟩
    · intro m hm
      rcases List.mem_cons.1 hm with rfl | hm
      · exact token
      · exact rest.tokens m hm

/-- A text run before a tokenization joins the text run there, or is a node of its own. -/
theorem isTokenizationFrom_joinText {s u : Text} {pos stop : Nat} {blocks ns : List Node}
    (hlt : pos < stop) (hstop : stop = pos + u.length)
    (token : IsToken s (textNode pos stop u blocks)) (rest : IsTokenizationFrom s stop ns) :
    IsTokenizationFrom s pos (Layout.joinText pos u blocks ns) := by
  have apart : (∀ m ∈ ns.head?, m.kind ≠ .text) →
      IsTokenizationFrom s pos (textNode pos (pos + u.length) u blocks :: ns) := by
    intro head
    subst hstop
    refine isTokenizationFrom_cons.2 ⟨pos + u.length, by simp, hlt, by simpa using token, ?_, rest⟩
    exact fun m hm h => head m hm h.2
  rw [Layout.joinText.eq_def]
  split
  · rename_i span tail children nodes
    obtain ⟨stop', hspan, hlt', token', head, rest'⟩ := isTokenizationFrom_cons.1 rest
    dsimp only at hspan
    subst hspan
    refine isTokenizationFrom_cons.2 ⟨stop', rfl, by omega, ?_, head, rest'⟩
    exact isToken_textNode_append (by omega) (by omega) token token'
  · rename_i hnot
    refine apart fun m hm hkind => ?_
    obtain ⟨kind, span, source, children⟩ := m
    dsimp only at hkind
    subst hkind
    exact hnot span source children ns.tail (List.cons_head?_tail hm).symm

theorem isToken_comment {s source rest : Text} {pos : Nat} {kind : CommentKind}
    (hs : s.drop pos = source ++ rest) (comment : IsComment kind source) :
    IsToken s ⟨.comment, ⟨pos, pos + source.length⟩, source, []⟩ :=
  ⟨(Text.slice_of_drop_eq hs).symm, ⟨kind, comment⟩, rfl⟩

/-- Insets that lie further right in their tag are laid out as if the tag lay further right. -/
theorem Layout.map_codeNode_add (insets : List Inset) (pos k : Nat) :
    (insets.map fun i => { i with offset := i.offset + k }).map
        (fun i => Layout.codeNode (pos + i.offset) i.source) =
      insets.map fun i => Layout.codeNode (pos + k + i.offset) i.source := by
  rw [List.map_map]
  refine List.map_congr_left fun i _ => ?_
  show Layout.codeNode (pos + (i.offset + k)) i.source = _
  rw [Nat.add_comm i.offset k, Nat.add_assoc]

/-- The nodes that are laid out for the code blocks among some items. -/
theorem TagItem.map_codeNode_insets (items : List TagItem) (pos : Nat) :
    (TagItem.insets items).map (fun i => Layout.codeNode (pos + i.offset) i.source) =
      TagItem.nodes pos items := by
  induction items generalizing pos with
  | nil => rfl
  | cons item items ih =>
      cases item with
      | char c =>
          rw [TagItem.insets, Layout.map_codeNode_add, ih]
          rfl
      | code block =>
          rw [TagItem.insets, List.map_cons, Layout.map_codeNode_add, ih]
          rfl

theorem isToken_tag {s source rest : Text} {pos : Nat} {items : List TagItem}
    (hs : s.drop pos = source ++ rest) (tag : IsTag source items) :
    IsToken s ⟨.tag, ⟨pos, pos + source.length⟩, source, TagItem.nodes (pos + 1) items⟩ :=
  ⟨(Text.slice_of_drop_eq hs).symm, items, tag, rfl⟩

/-- Reading a template lays out a tokenization. -/
theorem isTokenizationFrom_of_reads {s t : Text} {pos : Nat} {ps : List Piece} (h : Reads t ps)
    (hpos : pos ≤ s.length) (hs : s.drop pos = t) :
    IsTokenizationFrom s pos (Layout.nodes pos ps) := by
  -- by the pieces, the part of `s` from `pos` on getting shorter with each
  induction h generalizing pos with
  | nil =>
      have hend : pos = s.length := by
        have := List.drop_eq_nil_iff.1 hs
        omega
      subst hend
      exact ⟨rfl, .nil, by simp [Layout.nodes]⟩
  | @plain c u ps plain _ ih =>
      have hle := Text.add_length_le_of_drop_eq (u := [c]) hpos hs
      have rest := ih hle (Text.drop_add_of_drop_eq (u := [c]) hs)
      exact isTokenizationFrom_joinText (by simp) rfl (isToken_plain hs plain) rest
  | @code kind block u ps code _ ih =>
      have hle := Text.add_length_le_of_drop_eq hpos hs
      have rest := ih hle (Text.drop_add_of_drop_eq hs)
      have hblock := code.length_pos
      refine isTokenizationFrom_joinText (by omega) rfl ?_ rest
      simpa using isToken_code hs code
  | @comment kind source u ps comment _ ih =>
      have hle := Text.add_length_le_of_drop_eq hpos hs
      have rest := ih hle (Text.drop_add_of_drop_eq hs)
      have hsource := comment.length_pos
      refine isTokenizationFrom_cons.2
        ⟨pos + source.length, rfl, by omega, isToken_comment hs comment, ?_, rest⟩
      exact fun m _ h => absurd h.1 (by simp)
  | @tag source u items ps tag _ ih =>
      have hle := Text.add_length_le_of_drop_eq hpos hs
      have rest := ih hle (Text.drop_add_of_drop_eq hs)
      have hsource := tag.length_pos
      rw [Layout.nodes, Layout.map_codeNode_add, TagItem.map_codeNode_insets]
      refine isTokenizationFrom_cons.2
        ⟨pos + source.length, rfl, by omega, isToken_tag hs tag, ?_, rest⟩
      exact fun m _ h => absurd h.1 (by simp)

/-! ### Every tokenization is read -/

/-- What is left of a text run behind some of its blocks is a text run, if not empty. -/
theorem isToken_textNode_drop {s u : Text} {a m b : Nat} {bs cs : List Node} (ham : a ≤ m)
    (token : IsToken s (textNode a b u (bs ++ cs))) (left : ∀ n ∈ bs, n.span.stop ≤ m)
    (right : Within m b cs) : IsToken s (textNode m b (s.slice ⟨m, b⟩) cs) := by
  obtain ⟨-, run⟩ := token
  refine ⟨rfl, right, fun n hn => run.blocks n (List.mem_append_right _ hn), ?_⟩
  intro p hp hout
  obtain ⟨hlo, hhi⟩ := hp
  dsimp only at hlo hhi
  refine run.plain p ⟨by dsimp only; omega, hhi⟩ fun n hn => ?_
  rcases List.mem_append.1 hn with hn | hn
  · intro hheld
    have := left n hn
    have := hheld.2
    omega
  · exact hout n hn

/-- How a text run from `a` to `b` starts: with a piece up to `m`, and a text run behind it. -/
structure TextStart (s : Text) (a b : Nat) (blocks : List Node) (m : Nat) (p : Piece)
    (front behind : List Node) : Prop where
  bounds : a < m ∧ m ≤ b
  length : m = a + p.source.length
  source : s.drop a = p.source ++ s.drop m
  blocks : blocks = front ++ behind
  reads : ∀ ps, Reads (s.drop m) ps → Reads (s.drop a) (p :: ps)
  nodes : ∀ ps, Layout.nodes a (p :: ps) = Layout.joinText a p.source front (Layout.nodes m ps)
  rest : IsToken s (textNode m b (s.slice ⟨m, b⟩) behind)

/-- The node of a code block is the one that is laid out for its source. -/
theorem IsBlock.eq_codeNode {s : Text} {n : Node} {a m : Nat} (h : IsBlock s n)
    (hspan : n.span = ⟨a, m⟩) (ham : a ≤ m) (hm : m ≤ s.length) :
    m = a + n.source.length ∧ n = Layout.codeNode a n.source := by
  have hlength : n.source.length = m - a := by
    rw [h.source, hspan, Text.length_slice hm]
  refine ⟨by omega, ?_⟩
  obtain ⟨kind, span, source, children⟩ := n
  obtain ⟨hkind, -, -, hleaf⟩ := h
  dsimp only at hkind hspan hlength hleaf
  subst hkind hspan hleaf
  rw [Layout.codeNode, hlength]
  congr 2
  omega

/-- A text run starts with a plain character, unless its first block starts where it starts. -/
theorem textStart_plain {s u : Text} {a b : Nat} {blocks : List Node} (hab : a < b)
    (hb : b ≤ s.length) (token : IsToken s (textNode a b u blocks))
    (later : ∀ n ∈ blocks, (a : Int) < n.span.start) (within : Within (a + 1 : Nat) b blocks) :
    ∃ c, TextStart s a b blocks (a + 1) (.plain c) [] blocks := by
  have run : IsTextRun s (textNode a b u blocks) := token.2
  have hs : s.drop a = s[a] :: s.drop (a + 1) := List.drop_eq_getElem_cons (by omega)
  have plain : ¬ StartsOpener (s.drop a) := by
    refine run.plain a ⟨Int.le_refl _, by dsimp only; omega⟩ fun n hn hheld => ?_
    have := later n hn
    have := hheld.1
    omega
  have token' : IsToken s (textNode a b u ([] ++ blocks)) := token
  refine ⟨s[a], by omega, rfl, hs, rfl, ?_, fun _ => rfl, ?_⟩
  · intro ps reads
    rw [hs] at plain ⊢
    exact .plain plain reads
  · exact isToken_textNode_drop (Nat.le_succ a) token' (by simp) within

/-- A text run starts with its first block, if that starts where it starts. -/
theorem textStart_code {s u : Text} {a b : Nat} {n : Node} {behind : List Node}
    (hb : b ≤ s.length) (token : IsToken s (textNode a b u (n :: behind)))
    (here : n.span.start = a) :
    ∃ m, TextStart s a b (n :: behind) m (.code n.source) [Layout.codeNode a n.source] behind := by
  have run : IsTextRun s (textNode a b u (n :: behind)) := token.2
  have hblock : IsBlock s n := run.blocks n (by simp)
  obtain ⟨kind, hcode⟩ := hblock.code
  obtain ⟨-, hlt, hbehind⟩ : Within a b (n :: behind) := run.within
  have hle := hbehind.le
  obtain ⟨m, hm⟩ : ∃ m : Nat, n.span.stop = m := ⟨n.span.stop.toNat, by omega⟩
  have hspan : n.span = ⟨a, m⟩ := by rw [← here, ← hm]
  obtain ⟨hlength, hnode⟩ := hblock.eq_codeNode hspan (by omega) (by omega)
  have hs : s.drop a = n.source ++ s.drop m := by
    rw [hblock.source, hspan]
    exact Text.drop_eq_slice_append (by omega)
  have token' : IsToken s (textNode a b u ([n] ++ behind)) := token
  refine ⟨m, by omega, hlength, hs, by rw [← hnode]; rfl, ?_, ?_, ?_⟩
  · intro ps reads
    rw [hs]
    exact .code hcode reads
  · intro ps
    rw [Layout.nodes, hlength]
    rfl
  · refine isToken_textNode_drop (by omega) token' ?_ (by rwa [hm] at hbehind)
    intro n' hn'
    rw [List.mem_singleton.1 hn']
    exact Int.le_of_eq hm

theorem exists_textStart {s u : Text} {a b : Nat} {blocks : List Node} (hab : a < b)
    (hb : b ≤ s.length) (token : IsToken s (textNode a b u blocks)) :
    ∃ m p front behind, TextStart s a b blocks m p front behind := by
  have hwithin : Within a b blocks := token.2.within
  cases blocks with
  | nil =>
      have hnext : Within (a + 1 : Nat) b [] := by
        show ((a + 1 : Nat) : Int) ≤ b
        omega
      obtain ⟨c, start⟩ := textStart_plain hab hb token (by simp) hnext
      exact ⟨_, _, _, _, start⟩
  | cons n behind =>
      obtain ⟨hstart, hlt, hbehind⟩ := hwithin
      by_cases here : n.span.start = a
      · obtain ⟨m, start⟩ := textStart_code hb token here
        exact ⟨_, _, _, _, start⟩
      · have later : ∀ m ∈ n :: behind, (a : Int) < m.span.start := by
          intro m hm
          rcases List.mem_cons.1 hm with rfl | hm
          · omega
          · have := hbehind.bounds m hm
            omega
        obtain ⟨c, start⟩ := textStart_plain hab hb token later ⟨by omega, hlt, hbehind⟩
        exact ⟨_, _, _, _, start⟩

/-- A text run that is put before the nodes behind it, in the form in which it is laid out. -/
theorem joinText_textNode {s u v : Text} {a m b : Nat} {bs cs ns : List Node}
    (hm : m = a + u.length) (hmb : m ≤ b) (right : IsToken s (textNode m b v cs))
    (head : ∀ n ∈ ns.head?, n.kind ≠ .text) :
    Layout.joinText a u bs (if m < b then textNode m b v cs :: ns else ns) =
      textNode a b (u ++ v) (bs ++ cs) :: ns := by
  split
  · rfl
  · have hmb : m = b := by omega
    subst hmb
    have hv : v = s.slice ⟨m, m⟩ := right.1
    rw [Text.slice_natCast, Nat.sub_self, List.take_zero] at hv
    have hcs : cs = [] := by
      have hwithin : Within m m cs := right.2.within
      cases cs with
      | nil => rfl
      | cons n cs =>
          have := hwithin.bounds n (by simp)
          omega
    subst hv hcs
    rw [Layout.joinText.eq_def]
    split
    · exact absurd rfl (head _ rfl)
    · simp [hm]

/-- What is left of a text run, and the nodes behind it. -/
theorem isTokenizationFrom_textNode {s v : Text} {m b : Nat} {cs ns : List Node} (hmb : m ≤ b)
    (token : IsToken s (textNode m b v cs)) (head : ∀ n ∈ ns.head?, n.kind ≠ .text)
    (rest : IsTokenizationFrom s b ns) :
    IsTokenizationFrom s m (if m < b then textNode m b v cs :: ns else ns) := by
  split
  · rename_i hlt
    exact isTokenizationFrom_cons.2 ⟨b, rfl, hlt, token, fun n hn h => head n hn h.2, rest⟩
  · have hmb : m = b := by omega
    rwa [hmb]

/-- Every tokenization from an offset on is what reading lays out. -/
theorem exists_reads_of_isTokenizationFrom {s : Text} {pos : Nat} {ns : List Node}
    (h : IsTokenizationFrom s pos ns) :
    ∃ ps, Reads (s.drop pos) ps ∧ Layout.nodes pos ps = ns := by
  -- by the length of what is still to be read: a text run gives up one piece at a time
  induction hk : s.length - pos using Nat.strongRecOn generalizing pos ns with
  | ind k ih =>
      subst hk
      cases ns with
      | nil =>
          have hend : (pos : Int) = s.length := h.tiles
          refine ⟨[], ?_, rfl⟩
          rw [List.drop_eq_nil_of_le (by omega)]
          exact .nil
      | cons n ns =>
          obtain ⟨stop, hspan, hlt, token, head, rest⟩ := isTokenizationFrom_cons.1 h
          have hstop : stop ≤ s.length := by
            have := rest.tiles.le
            omega
          obtain ⟨kind, span, source, children⟩ := n
          dsimp only at hspan
          subst hspan
          have hsource : source = s.slice ⟨pos, stop⟩ := token.1
          have hs : s.drop pos = source ++ s.drop stop := by
            rw [hsource]
            exact Text.drop_eq_slice_append (by omega)
          have hlength : stop = pos + source.length := by
            rw [hsource, Text.length_slice hstop]
            omega
          cases kind with
          | document => exact token.2.elim
          | code => exact token.2.elim
          | comment =>
              obtain ⟨⟨kind, comment⟩, hleaf⟩ := token.2
              obtain ⟨ps, reads, hps⟩ := ih _ (by omega) rest rfl
              refine ⟨.comment source :: ps, by rw [hs]; exact .comment comment reads, ?_⟩
              dsimp only at hleaf
              rw [Layout.nodes, ← hlength, hps, hleaf]
              simp [hlength]
          | tag =>
              obtain ⟨items, tag, hchildren⟩ := token.2
              obtain ⟨ps, reads, hps⟩ := ih _ (by omega) rest rfl
              refine ⟨.tag source _ :: ps, by rw [hs]; exact .tag tag reads, ?_⟩
              dsimp only at hchildren
              rw [Layout.nodes, Layout.map_codeNode_add, TagItem.map_codeNode_insets, ← hlength,
                hps, hchildren]
              simp [hlength]
          | text =>
              have head' : ∀ n ∈ ns.head?, n.kind ≠ .text := fun n hn hn' => head n hn ⟨rfl, hn'⟩
              obtain ⟨m, p, front, behind, start⟩ := exists_textStart hlt hstop token
              obtain ⟨hpm, hms⟩ := start.bounds
              obtain ⟨ps, reads, hps⟩ :=
                ih _ (by omega) (isTokenizationFrom_textNode hms start.rest head' rest) rfl
              refine ⟨p :: ps, start.reads ps reads, ?_⟩
              rw [start.nodes, hps, joinText_textNode start.length hms start.rest head',
                ← start.blocks]
              congr 2
              have hp : s.slice ⟨pos, m⟩ = p.source := by
                rw [start.length]
                exact Text.slice_of_drop_eq start.source
              rw [hsource, ← Text.slice_append s (Nat.le_of_lt hpm) hms, hp]

/-! ### Documents -/

/-- A document has the nodes that reading lays out. -/
theorem Document.parse_eq_ok_iff {s : Text} {path : Option String} {d : Document} :
    Document.parse s path = .ok d ↔
      ∃ ps, Reads s ps ∧
        d = ⟨s, MarkupAudit.fingerprint s, ⟨.document, ⟨0, s.length⟩, s, Layout.nodes 0 ps⟩, path⟩ := by
  rw [Document.parse]
  cases hpieces : Scan.pieces s with
  | error m =>
      constructor
      · intro h
        cases h
      · rintro ⟨ps, reads, -⟩
        rw [Scan.pieces_of_reads reads] at hpieces
        cases hpieces
  | ok ps =>
      constructor
      · intro h
        cases h
        exact ⟨ps, Scan.reads_of_pieces hpieces, rfl⟩
      · rintro ⟨qs, reads, rfl⟩
        rw [Scan.pieces_of_reads reads] at hpieces
        cases hpieces
        rfl

/-- The nodes of a document are a tokenization of its text. -/
theorem isTokenization_of_parse {s : Text} {path : Option String} {d : Document}
    (h : Document.parse s path = .ok d) : IsTokenization s d.children := by
  obtain ⟨ps, reads, rfl⟩ := Document.parse_eq_ok_iff.1 h
  exact isTokenizationFrom_of_reads reads (Nat.zero_le _) rfl

/-- A text that has a tokenization can be read, and gives the document with these nodes. -/
theorem exists_parse_of_isTokenization {s : Text} {ns : List Node} (h : IsTokenization s ns)
    (path : Option String) : ∃ d, Document.parse s path = .ok d ∧ d.children = ns := by
  obtain ⟨ps, reads, hps⟩ := exists_reads_of_isTokenizationFrom h
  exact ⟨_, Document.parse_eq_ok_iff.2 ⟨ps, reads, rfl⟩, hps⟩

/-- Reading decides the grammar. A text that can be read has one tokenization, the nodes of its
document; a text that cannot be read has none. -/
theorem parse_decides_tokenization (s : Text) (path : Option String) :
    match Document.parse s path with
    | .ok d => ∀ ns, IsTokenization s ns ↔ ns = d.children
    | .error _ => ∀ ns, ¬ IsTokenization s ns := by
  cases hparse : Document.parse s path with
  | error m =>
      intro ns h
      obtain ⟨d, hd, -⟩ := exists_parse_of_isTokenization h path
      rw [hparse] at hd
      cases hd
  | ok d =>
      intro ns
      constructor
      · intro h
        obtain ⟨d', hd', rfl⟩ := exists_parse_of_isTokenization h path
        rw [hparse] at hd'
        cases hd'
        rfl
      · rintro rfl
        exact isTokenization_of_parse hparse

end MarkupAudit
