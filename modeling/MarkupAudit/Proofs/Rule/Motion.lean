import Mathlib.Data.List.Forall2
import Mathlib.Data.List.TakeWhile
import MarkupAudit.Proofs.Markup.Masking
import MarkupAudit.Proofs.Rule.Findings

/-!
# Rules and offsets

A rule reads tags and code blocks, and where they stand only tells where its findings are. If the
nodes of one document are those of another, moved, with other comments between them and comments and
blank lines before them, then a rule finds as much in both (`run_moved`), and if all nodes are moved
by one amount, it finds the same moved by that amount (`run_shifted`).
-/

namespace MarkupAudit

/-! ### Moved nodes -/

@[simp] theorem Node.shift_output? (n : Node) (k : Int) : (n.shift k).output? = n.output? := by
  simp [Node.output?, Node.isOutput, Node.indicator, Node.code]

/-- A fragment with its code block moved. -/
def Fragment.shift (k : Int) : Fragment → Fragment
  | .literal t => .literal t
  | .code b => .code (b.shift k)

/-- A tag moved by a number of characters. -/
def Tag.shift (k : Int) (t : Tag) : Tag :=
  { t with
    attributes := t.attributes.map fun a => (a.1, a.2.map (Fragment.shift k))
    span := t.span.shift k }

namespace Tag

theorem maskFrom_shift (pos k : Int) (index : Nat) (source : Text) (blocks : List Node) :
    maskFrom (pos + k) index source (blocks.map (Node.shift k)) =
      maskFrom pos index source blocks := by
  induction blocks generalizing pos index source with
  | nil => rfl
  | cons b blocks ih =>
      have hstart : b.span.start + k - (pos + k) = b.span.start - pos := by omega
      have hstop : b.span.stop + k - (pos + k) = b.span.stop - pos := by omega
      rw [List.map_cons, maskFrom, maskFrom, Node.shift_span, Span.shift, ih, hstart, hstop]

theorem mask_shift (n : Node) (k : Int) : mask (n.shift k) = mask n := by
  unfold mask
  rw [Node.shift_span, Node.shift_source, Node.shift_children]
  exact maskFrom_shift _ _ _ _ _

theorem block_shift (k : Int) (blocks : List Node) (digits : Text) :
    block (blocks.map (Node.shift k)) digits = (block blocks digits).map (Node.shift k) := by
  unfold block
  cases Text.readNat digits with
  | error fault => rfl
  | ok index =>
      simp only [List.getElem?_map]
      cases blocks[index]? <;> rfl

theorem joinLiteral_shift (k : Int) (c : Char) (fs : List Fragment) :
    joinLiteral c (fs.map (Fragment.shift k)) = (joinLiteral c fs).map (Fragment.shift k) := by
  rcases fs with _ | ⟨_ | _, fs⟩ <;> rfl

theorem pieces_shift (k : Int) (blocks : List Node) (value : Text) :
    pieces (blocks.map (Node.shift k)) value =
      (pieces blocks value).map (List.map (Fragment.shift k)) := by
  fun_induction pieces blocks value with
  | case1 => rw [pieces]; rfl
  | case2 c s digits rest hread e hblock =>
      rw [pieces_placeholder hread, block_shift, hblock]
      rfl
  | case3 c s digits rest hread b hblock ih =>
      rw [pieces_placeholder hread, block_shift, hblock]
      simp only [Except.map]
      rw [ih]
      cases pieces blocks rest <;> rfl
  | case4 c s hread ih =>
      rw [pieces_literal hread, ih]
      cases pieces blocks s with
      | error e => rfl
      | ok fs =>
          simp only [Except.map]
          rw [joinLiteral_shift]

theorem fragments_shift (k : Int) (blocks : List Node) (value : Text) :
    fragments (blocks.map (Node.shift k)) value =
      (fragments blocks value).map (List.map (Fragment.shift k)) := by
  unfold fragments
  rw [pieces_shift]
  cases pieces blocks value with
  | error e => rfl
  | ok fs => cases fs <;> rfl

theorem fragmented_shift (k : Int) (blocks : List Node) (attributes : List (Text × Text)) :
    fragmented (blocks.map (Node.shift k)) attributes =
      (fragmented blocks attributes).map
        (List.map fun a => (a.1, a.2.map (Fragment.shift k))) := by
  induction attributes with
  | nil => rfl
  | cons a rest ih =>
      obtain ⟨name, value⟩ := a
      unfold fragmented
      by_cases hname : Placeholder.occursIn name = true
      · rw [if_pos hname, if_pos hname, ih]
      · rw [if_neg hname, if_neg hname, fragments_shift, ih]
        cases fragments blocks value with
        | error e => rfl
        | ok fs => cases fragmented blocks rest <;> rfl

/-- A moved node gives the moved tag. -/
theorem ofNode_shift (n : Node) (k : Int) : ofNode (n.shift k) = (ofNode n).map (Tag.shift k) := by
  unfold ofNode
  rw [Node.shift_kind, mask_shift, Node.shift_children, Node.shift_span]
  by_cases hkind : n.kind ≠ .tag
  · rw [if_pos hkind, if_pos hkind]
    rfl
  · rw [if_neg hkind, if_neg hkind]
    by_cases hclose : (mask n).take 2 = ['<', '/']
    · simp only [hclose, if_true]
      rfl
    · simp only [hclose, if_false]
      cases Markup.firstTag? (mask n) with
      | error r => rfl
      | ok start? =>
          simp only [fragmented_shift]
          cases fragmented n.children (merged ((start?.map (·.attributes)).getD [])) <;> rfl

theorem valueOf_shift (t : Tag) (k : Int) (name : Text) :
    (t.shift k).valueOf name = (t.valueOf name).map (Fragment.shift k) := by
  unfold valueOf Tag.shift
  simp only [List.find?_map, Function.comp_def]
  cases t.attributes.find? fun a => a.1 = Text.lower name <;> rfl

end Tag

namespace Fragment

theorem strings_shift (f : Fragment) (k : Int) : (f.shift k).strings = f.strings := by
  cases f with
  | literal t => rfl
  | code b => simp only [Fragment.shift, strings, Node.shift_output?]

theorem allStrings_shift (fs : List Fragment) (k : Int) :
    allStrings (fs.map (Fragment.shift k)) = allStrings fs := by
  induction fs with
  | nil => rfl
  | cons f fs ih => rw [List.map_cons, allStrings, allStrings, strings_shift, ih]

end Fragment

/-- What is known about an attribute does not depend on where the tag stands. -/
theorem Tag.resolve_shift (t : Tag) (k : Int) (name : Text) :
    (t.shift k).resolve name = t.resolve name := by
  unfold Tag.resolve
  rw [valueOf_shift]
  cases hvalue : t.valueOf name with
  | nil => rfl
  | cons f fs =>
      rw [List.map_cons]
      simp only
      rw [← List.map_cons, Fragment.allStrings_shift]

/-! ### Findings of moved nodes -/

/-- A finding moved by a number of characters. -/
def Finding.shift (k : Int) (f : Finding) : Finding :=
  { f with span := f.span.shift k }

theorem FrameTitle.isUntitled_shift (t : Tag) (k : Int) :
    FrameTitle.isUntitled (t.shift k) = FrameTitle.isUntitled t := by
  unfold FrameTitle.isUntitled FrameTitle.isHidden
  simp only [Tag.resolve_shift]
  rfl

theorem FrameTitle.inTag_shift (n : Node) (k : Int) :
    FrameTitle.inTag (n.shift k) = (FrameTitle.inTag n).map (List.map (Finding.shift k)) := by
  unfold FrameTitle.inTag
  rw [Tag.ofNode_shift]
  cases Tag.ofNode n with
  | error e => rfl
  | ok t =>
      simp only [Except.map, FrameTitle.isUntitled_shift]
      cases FrameTitle.isUntitled t with
      | error f => rfl
      | ok untitled => cases untitled <;> rfl

theorem TitleAttribute.isTitled_shift (t : Tag) (k : Int) :
    TitleAttribute.isTitled (t.shift k) = TitleAttribute.isTitled t := by
  unfold TitleAttribute.isTitled
  rw [Tag.valueOf_shift, List.isEmpty_map]
  rfl

theorem LinkText.inBlock_shift (b : Node) (k : Int) :
    LinkText.inBlock (b.shift k) = (LinkText.inBlock b).map (List.map (Finding.shift k)) := by
  unfold LinkText.inBlock
  rw [Node.shift_output?]
  cases b.output? with
  | none => rfl
  | some code =>
      simp only
      cases Expr.parse code with
      | error f => rfl
      | ok e? =>
          simp only [Except.map, Node.shift_span]
          split <;> rfl

theorem LinkText.hasName_shift (t : Tag) (k : Int) (text : Text) :
    LinkText.hasName (t.shift k) text = LinkText.hasName t text := by
  unfold LinkText.hasName
  simp only [Tag.resolve_shift]

/-! ### Moved documents -/

/-- A finding whose ends are moved by amounts in `K`. -/
def MovedFinding (K : Int → Prop) (f g : Finding) : Prop :=
  ∃ k l, K k ∧ K l ∧ g = { f with span := ⟨f.span.start + k, f.span.stop + l⟩ }

/-- A node that is moved as a whole by an amount in `K`. -/
def MovedWhole (K : Int → Prop) (n m : Node) : Prop :=
  ∃ k, K k ∧ m = n.shift k

/-- A code block without children. -/
def Node.IsCodeLeaf (b : Node) : Prop :=
  b.kind = .code ∧ b.children = []

/-- A top-level node and the one in its place: a tag is moved as a whole, a comment may be any other
comment, and a text run keeps its text but for the blanks at its ends. -/
inductive MovedNode (K : Int → Prop) : (n m : Node) → Prop
  | tag {n m : Node} (kind : n.kind = .tag) (blocks : ∀ b ∈ n.children, b.IsCodeLeaf)
      (moved : MovedWhole K n m) : MovedNode K n m
  | comment {n m : Node} (kind : n.kind = .comment) (kind' : m.kind = .comment)
      (leaf : n.children = []) (leaf' : m.children = []) : MovedNode K n m
  | text {n m : Node} {k : Int} (kind : n.kind = .text) (kind' : m.kind = .text)
      (same : Text.trim m.source = Text.trim n.source) (hk : K k)
      (stop : m.span.stop = n.span.stop + k) (blocks : ∀ b ∈ n.children, b.IsCodeLeaf)
      (moved : List.Forall₂ (MovedWhole K) n.children m.children) : MovedNode K n m

/-- A node in which no rule finds anything: a comment, or a text run of blanks. -/
def Node.IsSilent (n : Node) : Prop :=
  n.children = [] ∧ (n.kind = .comment ∨ n.kind = .text ∧ ∀ c ∈ n.source, Text.isBlank c = true)

/-- The nodes of a document and those of one in which they stand moved, behind silent ones. -/
inductive MovedNodes (K : Int → Prop) (ns : List Node) : (ms : List Node) → Prop
  | moved {ms : List Node} (h : List.Forall₂ (MovedNode K) ns ms) : MovedNodes K ns ms
  | silent {m : Node} {ms : List Node} (hm : m.IsSilent) (h : MovedNodes K ns ms) :
      MovedNodes K ns (m :: ms)

/-- A top-level node: a tag, a comment or a text run, with code blocks in it. -/
structure Node.IsLaid (n : Node) : Prop where
  kind : n.kind = .tag ∨ n.kind = .text ∨ n.kind = .comment
  blocks : ∀ b ∈ n.children, b.IsCodeLeaf

namespace Node

theorem walk_blocks {keep : Node → Bool} {blocks : List Node} (h : ∀ b ∈ blocks, b.IsCodeLeaf)
    (rest : List Node) : walk keep (blocks ++ rest) = blocks.filter keep ++ walk keep rest := by
  induction blocks with
  | nil => rfl
  | cons b blocks ih =>
      have hb := h b List.mem_cons_self
      have hrest := ih fun c hc => h c (List.mem_cons_of_mem b hc)
      rw [List.cons_append, walk, hb.2, List.nil_append, hrest]
      by_cases hkeep : keep b = true
      · rw [if_pos hkeep, List.filter_cons_of_pos hkeep, List.cons_append]
      · rw [if_neg hkeep, List.filter_cons_of_neg hkeep]

theorem walk_tag {ns : List Node} (h : ∀ n ∈ ns, n.IsLaid) :
    walk (fun m => (some NodeKind.tag).all (· == m.kind)) ns = ns.filter (·.kind = .tag) := by
  induction ns with
  | nil => rw [walk]; rfl
  | cons n ns ih =>
      have hn := (h n List.mem_cons_self).blocks
      have hnone : n.children.filter (fun m => (some NodeKind.tag).all (· == m.kind)) = [] := by
        rw [List.filter_eq_nil_iff]
        intro b hb
        simp [(hn b hb).1]
      have hkeep : (some NodeKind.tag).all (· == n.kind) = decide (n.kind = .tag) := by
        cases n.kind <;> rfl
      rw [walk, walk_blocks hn, hnone, List.nil_append, hkeep,
        ih fun m hm => h m (List.mem_cons_of_mem n hm), List.filter_cons]

theorem walk_code {ns : List Node} (h : ∀ n ∈ ns, n.IsLaid) :
    walk (fun m => (some NodeKind.code).all (· == m.kind)) ns = ns.flatMap (·.children) := by
  induction ns with
  | nil => rw [walk]; rfl
  | cons n ns ih =>
      obtain ⟨hkind, hn⟩ := h n List.mem_cons_self
      have hall : n.children.filter (fun m => (some NodeKind.code).all (· == m.kind)) =
          n.children := by
        rw [List.filter_eq_self]
        intro b hb
        simp [(hn b hb).1]
      have hcode : ((some NodeKind.code).all (· == n.kind)) = false := by
        rcases hkind with hkind | hkind | hkind <;> simp [hkind]
      rw [walk, walk_blocks hn, hall, ih fun m hm => h m (List.mem_cons_of_mem n hm),
        if_neg (by simp [hcode]), List.flatMap_cons]

end Node

section Moved

variable {K : Int → Prop} {n m : Node} {ns ms : List Node}

theorem MovedNode.kind_eq (h : MovedNode K n m) : m.kind = n.kind := by
  cases h with
  | tag _ _ moved =>
      obtain ⟨k, -, rfl⟩ := moved
      exact Node.shift_kind n k
  | comment kind kind' => rw [kind, kind']
  | text kind kind' => rw [kind, kind']

theorem MovedNode.moved_children (h : MovedNode K n m) :
    List.Forall₂ (MovedWhole K) n.children m.children := by
  cases h with
  | tag _ _ moved =>
      obtain ⟨k, hk, rfl⟩ := moved
      rw [Node.shift_children, List.forall₂_map_right_iff, List.forall₂_same]
      exact fun b _ => ⟨k, hk, rfl⟩
  | comment _ _ leaf leaf' => rw [leaf, leaf']; exact .nil
  | text _ _ _ _ _ _ moved => exact moved

theorem isCodeLeaf_of_moved (h : List.Forall₂ (MovedWhole K) ns ms)
    (hns : ∀ b ∈ ns, b.IsCodeLeaf) : ∀ b ∈ ms, b.IsCodeLeaf := by
  induction h with
  | nil => intro b hb; cases hb
  | @cons n m ns ms hnm _ ih =>
      obtain ⟨k, -, rfl⟩ := hnm
      intro b hb
      rcases List.mem_cons.1 hb with rfl | hb
      · obtain ⟨hkind, hleaf⟩ := hns n List.mem_cons_self
        exact ⟨by rw [Node.shift_kind, hkind], by rw [Node.shift_children, hleaf]; rfl⟩
      · exact ih (fun c hc => hns c (List.mem_cons_of_mem n hc)) b hb

theorem MovedNode.isLaid (h : MovedNode K n m) : n.IsLaid ∧ m.IsLaid := by
  have hn : n.IsLaid := by
    cases h with
    | tag kind blocks => exact ⟨.inl kind, blocks⟩
    | comment kind _ leaf => exact ⟨.inr (.inr kind), by rw [leaf]; intro b hb; cases hb⟩
    | text kind _ _ _ _ blocks => exact ⟨.inr (.inl kind), blocks⟩
  exact ⟨hn, by rw [h.kind_eq]; exact hn.kind, isCodeLeaf_of_moved h.moved_children hn.blocks⟩

theorem Node.IsSilent.isLaid (h : m.IsSilent) : m.IsLaid := by
  obtain ⟨leaf, kind⟩ := h
  refine ⟨?_, by rw [leaf]; intro b hb; cases hb⟩
  rcases kind with kind | ⟨kind, -⟩
  · exact .inr (.inr kind)
  · exact .inr (.inl kind)

theorem Node.IsSilent.kind_ne_tag (h : m.IsSilent) : m.kind ≠ .tag := by
  rcases h.2 with kind | ⟨kind, -⟩ <;> rw [kind] <;> decide

theorem MovedNodes.isLaid (h : MovedNodes K ns ms) :
    (∀ n ∈ ns, n.IsLaid) ∧ ∀ m ∈ ms, m.IsLaid := by
  induction h with
  | moved h =>
      induction h with
      | nil => exact ⟨List.forall_mem_nil _, List.forall_mem_nil _⟩
      | cons hnm _ ih =>
          exact ⟨List.forall_mem_cons.2 ⟨hnm.isLaid.1, ih.1⟩,
            List.forall_mem_cons.2 ⟨hnm.isLaid.2, ih.2⟩⟩
  | silent hm _ ih => exact ⟨ih.1, List.forall_mem_cons.2 ⟨hm.isLaid, ih.2⟩⟩

theorem MovedNodes.tags (h : MovedNodes K ns ms) :
    List.Forall₂ (MovedWhole K) (ns.filter (·.kind = .tag)) (ms.filter (·.kind = .tag)) := by
  induction h with
  | moved h =>
      induction h with
      | nil => exact .nil
      | @cons n m ns ms hnm _ ih =>
          have hkind := hnm.kind_eq
          by_cases htag : n.kind = .tag
          · rw [List.filter_cons_of_pos (by simpa using htag),
              List.filter_cons_of_pos (by simpa [hkind] using htag)]
            refine .cons ?_ ih
            cases hnm with
            | tag _ _ moved => exact moved
            | comment kind => rw [kind] at htag; cases htag
            | text kind => rw [kind] at htag; cases htag
          · rw [List.filter_cons_of_neg (by simpa using htag),
              List.filter_cons_of_neg (by simpa [hkind] using htag)]
            exact ih
  | silent hm _ ih =>
      rw [List.filter_cons_of_neg (by simpa using hm.kind_ne_tag)]
      exact ih

theorem MovedNodes.blocks (h : MovedNodes K ns ms) :
    List.Forall₂ (MovedWhole K) (ns.flatMap (·.children)) (ms.flatMap (·.children)) := by
  induction h with
  | moved h =>
      induction h with
      | nil => exact .nil
      | cons hnm _ ih =>
          rw [List.flatMap_cons, List.flatMap_cons]
          exact List.rel_append hnm.moved_children ih
  | silent hm _ ih =>
      rw [List.flatMap_cons, hm.1, List.nil_append]
      exact ih

/-! ### Rules on moved documents -/

theorem movedFinding_shift {k : Int} (hk : K k) (fs : List Finding) :
    List.Forall₂ (MovedFinding K) fs (fs.map (Finding.shift k)) := by
  rw [List.forall₂_map_right_iff, List.forall₂_same]
  exact fun f _ => ⟨k, k, hk, hk, rfl⟩

/-- Findings that are gathered node by node, where a moved node has the moved findings. -/
theorem gather_moved {find : Node → Except RuleError (List Finding)} {fs : List Finding}
    (hshift : ∀ n k, find (n.shift k) = (find n).map (List.map (Finding.shift k)))
    (h : List.Forall₂ (MovedWhole K) ns ms) (hok : Rule.gather find ns = .ok fs) :
    ∃ gs, Rule.gather find ms = .ok gs ∧ List.Forall₂ (MovedFinding K) fs gs := by
  induction h generalizing fs with
  | nil =>
      cases hok
      exact ⟨[], rfl, .nil⟩
  | @cons n m ns ms hnm _ ih =>
      obtain ⟨k, hk, rfl⟩ := hnm
      obtain ⟨found, rest, hfind, hrest, rfl⟩ := Rule.gather_cons_eq_ok_iff.1 hok
      obtain ⟨gs, hgs, hmoved⟩ := ih hrest
      refine ⟨found.map (Finding.shift k) ++ gs, Rule.gather_cons_eq_ok_iff.2 ?_, ?_⟩
      · exact ⟨_, gs, by rw [hshift, hfind]; rfl, hgs, rfl⟩
      · exact List.rel_append (movedFinding_shift hk found) hmoved

theorem ofNodes_moved {ts : List Tag} (h : List.Forall₂ (MovedWhole K) ns ms)
    (hok : Tag.ofNodes ns = .ok ts) :
    ∃ us, Tag.ofNodes ms = .ok us ∧ List.Forall₂ (fun t u => ∃ k, K k ∧ u = t.shift k) ts us := by
  induction h generalizing ts with
  | nil =>
      cases hok
      exact ⟨[], rfl, .nil⟩
  | @cons n m ns ms hnm _ ih =>
      obtain ⟨k, hk, rfl⟩ := hnm
      obtain ⟨t, rest, htag, hrest, rfl⟩ := Tag.ofNodes_cons_eq_ok_iff.1 hok
      obtain ⟨us, hus, hmoved⟩ := ih hrest
      refine ⟨t.shift k :: us, Tag.ofNodes_cons_eq_ok_iff.2 ?_, .cons ⟨k, hk, rfl⟩ hmoved⟩
      exact ⟨_, us, by rw [Tag.ofNode_shift, htag]; rfl, hus, rfl⟩

variable {d e : Document} {fs : List Finding}

theorem FrameTitle.run_moved (h : MovedNodes K d.children e.children)
    (hok : FrameTitle.run d = .ok fs) :
    ∃ gs, FrameTitle.run e = .ok gs ∧ List.Forall₂ (MovedFinding K) fs gs := by
  unfold FrameTitle.run at hok ⊢
  have hd : d.descendants (some .tag) = d.children.filter (·.kind = .tag) := Node.walk_tag h.isLaid.1
  have he : e.descendants (some .tag) = e.children.filter (·.kind = .tag) := Node.walk_tag h.isLaid.2
  rw [hd] at hok
  rw [he]
  exact gather_moved FrameTitle.inTag_shift h.tags hok

theorem titled_moved {ts us : List Tag}
    (h : List.Forall₂ (fun t u => ∃ k, K k ∧ u = t.shift k) ts us) :
    List.Forall₂ (MovedFinding K)
      ((ts.filter TitleAttribute.isTitled).map fun t =>
        Rule.finding TitleAttribute.id TitleAttribute.message t.span)
      ((us.filter TitleAttribute.isTitled).map fun t =>
        Rule.finding TitleAttribute.id TitleAttribute.message t.span) := by
  induction h with
  | nil => exact .nil
  | @cons t u ts us htu _ ih =>
      obtain ⟨k, hk, rfl⟩ := htu
      rw [List.filter_cons, List.filter_cons, TitleAttribute.isTitled_shift]
      split
      · exact .cons ⟨k, k, hk, hk, rfl⟩ ih
      · exact ih

theorem TitleAttribute.run_moved (h : MovedNodes K d.children e.children)
    (hok : TitleAttribute.run d = .ok fs) :
    ∃ gs, TitleAttribute.run e = .ok gs ∧ List.Forall₂ (MovedFinding K) fs gs := by
  have hd : d.descendants (some .tag) = d.children.filter (·.kind = .tag) := Node.walk_tag h.isLaid.1
  have he : e.descendants (some .tag) = e.children.filter (·.kind = .tag) := Node.walk_tag h.isLaid.2
  obtain ⟨ts, htags, rfl⟩ := TitleAttribute.run_eq_ok_iff.1 hok
  rw [hd] at htags
  obtain ⟨us, hus, hmoved⟩ := ofNodes_moved h.tags htags
  exact ⟨_, TitleAttribute.run_eq_ok_iff.2 ⟨us, by rw [he]; exact hus, rfl⟩, titled_moved hmoved⟩

/-- A neighbour of a node and the neighbour of the node in its place: neither is a tag, or one is in
the place of the other. -/
def MovedNeighbour (K : Int → Prop) (p q : Option Node) : Prop :=
  (∀ n, p = some n → n.kind ≠ .tag) ∧ (∀ m, q = some m → m.kind ≠ .tag) ∨
    ∃ n m, p = some n ∧ q = some m ∧ MovedNode K n m

/-- What a neighbour gives as a tag, moved if it gives one. -/
def MovedTag? (K : Int → Prop) (o o' : Option Tag) : Prop :=
  o = none ∧ o' = none ∨ ∃ t k, K k ∧ o = some t ∧ o' = some (t.shift k)

theorem none_kind_ne_tag : ∀ n : Node, none = some n → n.kind ≠ .tag := by
  intro n hn
  cases hn

theorem tag?_of_kind_ne {p : Option Node} (h : ∀ n, p = some n → n.kind ≠ .tag) :
    LinkText.tag? p = .ok none := by
  cases p with
  | none => rfl
  | some n => rw [LinkText.tag?, if_neg (h n rfl)]

theorem tag?_moved {p q : Option Node} {o : Option Tag} (h : MovedNeighbour K p q)
    (hok : LinkText.tag? p = .ok o) :
    ∃ o', LinkText.tag? q = .ok o' ∧ MovedTag? K o o' := by
  rcases h with ⟨hp, hq⟩ | ⟨n, m, rfl, rfl, hnm⟩
  · rw [tag?_of_kind_ne hp] at hok
    cases hok
    exact ⟨none, tag?_of_kind_ne hq, .inl ⟨rfl, rfl⟩⟩
  · by_cases htag : n.kind = .tag
    · cases hnm with
      | comment kind => rw [kind] at htag; cases htag
      | text kind => rw [kind] at htag; cases htag
      | tag _ _ moved =>
          obtain ⟨k, hk, rfl⟩ := moved
          rw [LinkText.tag?, if_pos htag] at hok
          rw [LinkText.tag?, if_pos (by rw [Node.shift_kind, htag]), Tag.ofNode_shift]
          cases hn : Tag.ofNode n with
          | error e =>
              rw [hn] at hok
              cases hok
          | ok t =>
              rw [hn] at hok
              cases hok
              exact ⟨some (t.shift k), rfl, .inr ⟨t, k, hk, rfl, rfl⟩⟩
    · have htag' : m.kind ≠ .tag := by rwa [hnm.kind_eq]
      rw [LinkText.tag?, if_neg htag] at hok
      cases hok
      exact ⟨none, by rw [LinkText.tag?, if_neg htag'], .inl ⟨rfl, rfl⟩⟩

/-- The link that two tags and a text run make up, and the one that the moved tags make up. -/
theorem link_moved {t u : Tag} {text : Text} {k j l stop stop' : Int} (hk : K k) (hl : K l)
    (hstop : stop' = stop + l)
    (hok : (if t.opens ['a'] && u.closes ['a'] then
        match LinkText.hasName t text with
        | .error f => Except.error (RuleError.code f)
        | .ok named =>
            .ok (if named then []
              else [Rule.finding LinkText.id LinkText.message ⟨t.span.start, stop⟩])
      else .ok []) = .ok fs) :
    ∃ gs, (if (t.shift k).opens ['a'] && (u.shift j).closes ['a'] then
        match LinkText.hasName (t.shift k) text with
        | .error f => Except.error (RuleError.code f)
        | .ok named =>
            .ok (if named then []
              else [Rule.finding LinkText.id LinkText.message ⟨(t.shift k).span.start, stop'⟩])
      else .ok []) = .ok gs ∧ List.Forall₂ (MovedFinding K) fs gs := by
  have hopens : (t.shift k).opens ['a'] = t.opens ['a'] := rfl
  have hcloses : (u.shift j).closes ['a'] = u.closes ['a'] := rfl
  rw [hopens, hcloses, LinkText.hasName_shift]
  split at hok
  · rename_i hlink
    rw [if_pos hlink]
    cases hname : LinkText.hasName t text with
    | error f =>
        rw [hname] at hok
        cases hok
    | ok named =>
        rw [hname] at hok
        cases named with
        | true =>
            cases hok
            exact ⟨[], rfl, .nil⟩
        | false =>
            cases hok
            exact ⟨_, rfl, .cons ⟨k, l, hk, hl, by rw [hstop]; rfl⟩ .nil⟩
  · rename_i hlink
    rw [if_neg hlink]
    cases hok
    exact ⟨[], rfl, .nil⟩

/-- A text run between moved neighbours is the text of a link if it was one before. -/
theorem inMarkup_moved {p p' q q' : Option Node} (hp : MovedNeighbour K p p')
    (hq : MovedNeighbour K q q') (h : MovedNode K n m) (hok : LinkText.inMarkup p q n = .ok fs) :
    ∃ gs, LinkText.inMarkup p' q' m = .ok gs ∧ List.Forall₂ (MovedFinding K) fs gs := by
  by_cases hkind : n.kind = .text
  · cases h with
    | tag kind => rw [kind] at hkind; cases hkind
    | comment kind => rw [kind] at hkind; cases hkind
    | @text l _ kind' same hl stop blocks moved =>
        have htext : Text.trim m.text = Text.trim n.text := by
          rw [Node.text, Node.text, if_pos kind', if_pos hkind, same]
        unfold LinkText.inMarkup at hok ⊢
        simp only [htext, hkind, kind'] at hok ⊢
        split at hok
        · rename_i hgeneric
          rw [if_pos hgeneric]
          cases hop : LinkText.tag? p with
          | error e =>
              rw [hop] at hok
              cases hok
          | ok o =>
              cases hoq : LinkText.tag? q with
              | error e =>
                  rw [hop, hoq] at hok
                  cases hok
              | ok c =>
                  rw [hop, hoq] at hok
                  obtain ⟨o', ho', hmo⟩ := tag?_moved hp hop
                  obtain ⟨c', hc', hmc⟩ := tag?_moved hq hoq
                  rw [ho', hc']
                  rcases hmo with ⟨rfl, rfl⟩ | ⟨t, k, hk, rfl, rfl⟩
                  · rcases hmc with ⟨rfl, rfl⟩ | ⟨u, j, hj, rfl, rfl⟩ <;>
                      (cases hok; exact ⟨[], rfl, .nil⟩)
                  · rcases hmc with ⟨rfl, rfl⟩ | ⟨u, j, hj, rfl, rfl⟩
                    · cases hok
                      exact ⟨[], rfl, .nil⟩
                    · exact link_moved hk hl stop hok
        · rename_i hgeneric
          rw [if_neg hgeneric]
          cases hok
          exact ⟨[], rfl, .nil⟩
  · have hkind' : m.kind ≠ .text := by rwa [h.kind_eq]
    unfold LinkText.inMarkup at hok ⊢
    simp only [hkind, hkind', decide_false, Bool.false_and, Bool.false_eq_true, if_false] at hok ⊢
    cases hok
    exact ⟨[], rfl, .nil⟩

theorem movedNeighbour_head? (h : List.Forall₂ (MovedNode K) ns ms) :
    MovedNeighbour K ns.head? ms.head? := by
  cases h with
  | nil => exact .inl ⟨none_kind_ne_tag, none_kind_ne_tag⟩
  | cons hnm _ => exact .inr ⟨_, _, rfl, rfl, hnm⟩

theorem inSiblings_moved {p q : Option Node} (hpq : MovedNeighbour K p q)
    (h : List.Forall₂ (MovedNode K) ns ms) (hok : LinkText.inSiblings p ns = .ok fs) :
    ∃ gs, LinkText.inSiblings q ms = .ok gs ∧ List.Forall₂ (MovedFinding K) fs gs := by
  induction h generalizing p q fs with
  | nil =>
      cases hok
      exact ⟨[], rfl, .nil⟩
  | @cons n m ns ms hnm hrest ih =>
      obtain ⟨found, later, hfirst, hlater, rfl⟩ := LinkText.inSiblings_cons_eq_ok_iff.1 hok
      obtain ⟨found', hfound', hmf⟩ := inMarkup_moved hpq (movedNeighbour_head? hrest) hnm hfirst
      obtain ⟨later', hlater', hml⟩ := ih (.inr ⟨n, m, rfl, rfl, hnm⟩) hlater
      refine ⟨found' ++ later', LinkText.inSiblings_cons_eq_ok_iff.2 ?_, List.rel_append hmf hml⟩
      exact ⟨found', later', hfound', hlater', rfl⟩

theorem isGeneric_trim_blank {s : Text} (h : ∀ c ∈ s, Text.isBlank c = true) :
    LinkText.isGeneric (Text.trim s) = false := by
  have hstart : Text.trimStart s = [] := List.dropWhile_eq_nil_iff.2 h
  rw [Text.trim, hstart]
  decide

theorem inMarkup_silent {p q : Option Node} (h : m.IsSilent) : LinkText.inMarkup p q m = .ok [] := by
  obtain ⟨-, kind | ⟨kind, blank⟩⟩ := h
  · unfold LinkText.inMarkup
    simp [kind]
  · unfold LinkText.inMarkup
    have htext : m.text = m.source := by rw [Node.text, if_pos kind]
    simp [kind, htext, isGeneric_trim_blank blank]

/-- Silent nodes before the moved ones give nothing, and no link begins with them. -/
theorem inSiblings_movedNodes {p q : Option Node} (hp : ∀ n, p = some n → n.kind ≠ .tag)
    (hq : ∀ m, q = some m → m.kind ≠ .tag) (h : MovedNodes K ns ms)
    (hok : LinkText.inSiblings p ns = .ok fs) :
    ∃ gs, LinkText.inSiblings q ms = .ok gs ∧ List.Forall₂ (MovedFinding K) fs gs := by
  induction h generalizing q with
  | moved h => exact inSiblings_moved (.inl ⟨hp, hq⟩) h hok
  | @silent m ms hm _ ih =>
      have hm' : ∀ n, some m = some n → n.kind ≠ .tag := by
        rintro n heq
        cases heq
        exact hm.kind_ne_tag
      obtain ⟨gs, hgs, hmoved⟩ := ih hm'
      exact ⟨gs, LinkText.inSiblings_cons_eq_ok_iff.2 ⟨[], gs, inMarkup_silent hm, hgs, rfl⟩, hmoved⟩

/-- The rule for links sorts what it finds, and finds it in the same order in a moved document. -/
theorem LinkText.run_moved (h : MovedNodes K d.children e.children)
    (hok : LinkText.run d = .ok fs) :
    ∃ found found', fs = Finding.sort found ∧ LinkText.run e = .ok (Finding.sort found') ∧
      List.Forall₂ (MovedFinding K) found found' := by
  have hd : d.descendants (some .code) = d.children.flatMap (·.children) := Node.walk_code h.isLaid.1
  have he : e.descendants (some .code) = e.children.flatMap (·.children) := Node.walk_code h.isLaid.2
  obtain ⟨links, calls, hlinks, hcalls, rfl⟩ := LinkText.run_eq_ok_iff.1 hok
  rw [hd] at hcalls
  obtain ⟨links', hlinks', hml⟩ :=
    inSiblings_movedNodes none_kind_ne_tag none_kind_ne_tag h hlinks
  obtain ⟨calls', hcalls', hmc⟩ := gather_moved LinkText.inBlock_shift h.blocks hcalls
  refine ⟨links ++ calls, links' ++ calls', rfl, LinkText.run_eq_ok_iff.2 ?_,
    List.rel_append hml hmc⟩
  exact ⟨links', calls', hlinks', by rw [he]; exact hcalls', rfl⟩

/-- A rule of the library finds as much in a moved document as in the document. -/
theorem run_moved {r : Registration} (hr : r ∈ shippedRules)
    (h : MovedNodes K d.children e.children) (hok : r.rule.run d = .ok fs) :
    ∃ gs, r.rule.run e = .ok gs ∧ gs.length = fs.length := by
  simp only [shippedRules, List.mem_cons, List.not_mem_nil, or_false] at hr
  rcases hr with rfl | rfl | rfl
  · obtain ⟨found, found', rfl, hgs, hmoved⟩ := LinkText.run_moved h hok
    exact ⟨_, hgs, by rw [length_sort, length_sort, hmoved.length_eq]⟩
  · obtain ⟨gs, hgs, hmoved⟩ := FrameTitle.run_moved h hok
    exact ⟨gs, hgs, hmoved.length_eq.symm⟩
  · obtain ⟨gs, hgs, hmoved⟩ := TitleAttribute.run_moved h hok
    exact ⟨gs, hgs, hmoved.length_eq.symm⟩

/-! ### Rules on documents that are moved as a whole -/

theorem eq_map_shift {k : Int} {gs : List Finding}
    (h : List.Forall₂ (MovedFinding (· = k)) fs gs) : gs = fs.map (Finding.shift k) := by
  induction h with
  | nil => rfl
  | @cons f g fs gs hfg _ ih =>
      obtain ⟨_, _, rfl, rfl, rfl⟩ := hfg
      rw [ih]
      rfl

theorem sort_map_shift (k : Int) (fs : List Finding) :
    Finding.sort (fs.map (Finding.shift k)) = (Finding.sort fs).map (Finding.shift k) := by
  unfold Finding.sort
  refine (List.map_mergeSort fun f _ g _ => ?_).symm
  rw [decide_eq_decide]
  simp only [Finding.shift, Span.shift]
  omega

/-- A rule of the library finds in a document whose nodes are all moved by the same amount what it
finds in the document, moved by that amount and in the same order. -/
theorem run_shifted {k : Int} {r : Registration} (hr : r ∈ shippedRules)
    (h : MovedNodes (· = k) d.children e.children) (hok : r.rule.run d = .ok fs) :
    r.rule.run e = .ok (fs.map (Finding.shift k)) := by
  simp only [shippedRules, List.mem_cons, List.not_mem_nil, or_false] at hr
  rcases hr with rfl | rfl | rfl
  · obtain ⟨found, found', rfl, hgs, hmoved⟩ := LinkText.run_moved h hok
    rw [eq_map_shift hmoved, sort_map_shift] at hgs
    exact hgs
  · obtain ⟨gs, hgs, hmoved⟩ := FrameTitle.run_moved h hok
    rw [eq_map_shift hmoved] at hgs
    exact hgs
  · obtain ⟨gs, hgs, hmoved⟩ := TitleAttribute.run_moved h hok
    rw [eq_map_shift hmoved] at hgs
    exact hgs

end Moved

end MarkupAudit
