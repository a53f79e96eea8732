import MarkupAudit.Proofs.Markup.Masking
import MarkupAudit.Proofs.Rule.Sites

/-!
# Tags from their fragments

Masking the code blocks of a tag and cutting the result at its placeholders takes the text of the tag
apart without loss. The fragments are the blocks in order and the stretches of text around them, none of
them empty (`Reassembles`), as long as no stretch holds the phrase that a placeholder starts with. A
stretch may end with the beginning of the phrase, it may go on with digits or low lines behind a
placeholder, and placeholders may stand side by side.

Masking goes through the text once. Putting in the placeholders one by one, the last one first, gives
the same: all that lies before a block is still in its place when the block is replaced
(`foldl_splice`).
-/

namespace MarkupAudit

open Text

namespace Fragment

/-- Whether a fragment is text. -/
def isText : Fragment → Bool
  | .literal _ => true
  | .code _ => false

/-- The block of a fragment that is code. -/
def block? : Fragment → Option Node
  | .literal _ => none
  | .code b => some b

/-- The text that a fragment stands for. -/
def source : Fragment → Text
  | .literal t => t
  | .code b => b.source

/-- Each of the blocks among fragments in a row stands where its span says, the first fragment at an
offset. -/
def Placed : (pos : Int) → List Fragment → Prop
  | _, [] => True
  | pos, f :: fs => (∀ b, f.block? = some b → b.span.start = pos) ∧ Placed (pos + f.source.length) fs

end Fragment

/-- The stretches of the text of a node around its children: the one before the first child, those
between two children, and the one behind the last. -/
def Node.stretches (n : Node) : List Text :=
  List.zipWith (fun start stop => n.source.slice ⟨start - n.span.start, stop - n.span.start⟩)
    (n.span.start :: n.children.map (·.span.stop)) (n.children.map (·.span.start) ++ [n.span.stop])

/-- Fragments that make up a text at an offset with some blocks in it: the blocks in order and each in
its place, and text between them, neither empty nor in two pieces. -/
structure Fragment.Reassembles (pos : Int) (blocks : List Node) (source : Text)
    (fs : List Fragment) : Prop where
  blocks : fs.filterMap Fragment.block? = blocks
  nonempty : ∀ t, .literal t ∈ fs → t ≠ []
  apart : fs.IsChain fun f g => ¬ (f.isText = true ∧ g.isText = true)
  source : fs.flatMap Fragment.source = source
  placed : Fragment.Placed pos fs

/-! ### Stretches -/

namespace TagItem

/-- The characters in a row among some items, cut at the code blocks. -/
def stretches : List TagItem → List Text
  | [] => [[]]
  | .char c :: items => (stretches items).modifyHead (c :: ·)
  | .code _ :: items => [] :: stretches items

/-- Items without the phrase that a placeholder starts with, but for the text of code blocks. -/
def Clear (items : List TagItem) : Prop :=
  ∀ t ∈ stretches items, ¬ Placeholder.opening <:+: t

theorem stretches_ne_nil (items : List TagItem) : stretches items ≠ [] := by
  induction items with
  | nil => simp [stretches]
  | cons item items ih => cases item <;> simp [stretches, ih]

theorem Clear.of_char {c : Char} {items : List TagItem} (h : Clear (.char c :: items)) :
    Clear items := by
  obtain ⟨run, more, hrun⟩ := List.exists_cons_of_ne_nil (stretches_ne_nil items)
  simp only [Clear, stretches, hrun, List.modifyHead_cons, List.forall_mem_cons] at h ⊢
  refine ⟨?_, h.2⟩
  intro hopening
  exact h.1 (hopening.trans (List.suffix_cons c run).isInfix)

theorem Clear.of_code {s : Text} {items : List TagItem} (h : Clear (.code s :: items)) :
    Clear items := by
  intro t ht
  exact h t (List.mem_cons_of_mem _ ht)

/-- Masked items begin with their first stretch, and a placeholder stands behind it. -/
theorem masked_eq_append {items : List TagItem} {run : Text} {more : List Text}
    (h : stretches items = run :: more) (index : Nat) :
    ∃ t, masked index items = run ++ t ∧ Tag.AtPlaceholder t := by
  induction items generalizing run more with
  | nil =>
      cases h
      exact ⟨[], rfl, .inl rfl⟩
  | cons item items ih =>
      cases item with
      | char c =>
          obtain ⟨tail, rest, htail⟩ := List.exists_cons_of_ne_nil (stretches_ne_nil items)
          rw [stretches, htail, List.modifyHead_cons] at h
          cases h
          obtain ⟨t, hmasked, ht⟩ := ih htail
          exact ⟨t, by rw [masked, hmasked, List.cons_append], ht⟩
      | code s =>
          rw [stretches] at h
          cases h
          exact ⟨_, rfl, .inr ⟨index, _, rfl⟩⟩

/-- No placeholder begins at a character of clear items. -/
theorem Clear.read? {c : Char} {items : List TagItem} (h : Clear (.char c :: items)) (index : Nat) :
    Placeholder.read? (c :: masked index items) = none := by
  obtain ⟨run, more, hrun⟩ := List.exists_cons_of_ne_nil (stretches_ne_nil items)
  obtain ⟨t, hmasked, ht⟩ := masked_eq_append hrun index
  have hopening : ¬ Placeholder.opening <:+: c :: run := by
    apply h
    rw [stretches, hrun, List.modifyHead_cons]
    exact List.mem_cons_self
  rw [hmasked, ← List.cons_append]
  exact Placeholder.read?_append_eq_none (List.cons_ne_nil c run) hopening ht.opening

section Spans

variable {offset lo pos : Int} {source front run : Text}

theorem slice_between {back : Text} (h : source = front ++ (run ++ back))
    (hlo : lo = offset + front.length) (hpos : pos = lo + run.length) :
    source.slice ⟨lo - offset, pos - offset⟩ = run := by
  have hdrop : source.drop front.length = run ++ back := by rw [h, List.drop_left]
  have hstart : lo - offset = front.length := by omega
  have hstop : pos - offset = front.length + run.length := by omega
  rw [hstart, hstop]
  exact slice_of_drop_eq hdrop

/-- The spans of the blocks leave the stretches between them. `run` is what has been passed of the
stretch that begins behind `front`. -/
theorem zipWith_nodes {items : List TagItem} (h : source = front ++ (run ++ sources items))
    (hlo : lo = offset + front.length) (hpos : pos = lo + run.length) :
    List.zipWith (fun start stop => source.slice ⟨start - offset, stop - offset⟩)
        (lo :: (nodes pos items).map (·.span.stop))
        ((nodes pos items).map (·.span.start) ++ [offset + source.length]) =
      (stretches items).modifyHead (run ++ ·) := by
  induction items generalizing lo pos front run with
  | nil =>
      have hlength := congrArg List.length h
      simp only [sources, List.flatMap_nil, List.append_nil, List.length_append] at hlength
      have hstop : offset + source.length = lo + run.length := by omega
      simp only [nodes, List.map_nil, List.nil_append, List.zipWith_cons_cons, List.zipWith_nil_left,
        stretches, List.modifyHead_cons, List.append_nil]
      rw [slice_between h hlo hstop]
  | cons item items ih =>
      cases item with
      | char c =>
          have hsource : source = front ++ ((run ++ [c]) ++ sources items) := by
            simpa [sources, TagItem.source] using h
          rw [nodes, ih hsource hlo (by simp; omega), stretches, List.modifyHead_modifyHead]
          congr 1
          funext t
          simp
      | code s =>
          have hsource : source = (front ++ (run ++ s)) ++ ([] ++ sources items) := by
            simpa [sources, TagItem.source] using h
          have hfront : pos + s.length = offset + ((front ++ (run ++ s)).length : Nat) := by
            simp
            omega
          have hrest := ih hsource hfront (Int.add_zero _).symm
          simp only [nodes, List.map_cons, List.cons_append, List.zipWith_cons_cons, stretches,
            List.modifyHead_cons, List.append_nil]
          rw [slice_between h hlo hpos, hrest]
          cases stretches items <;> simp

end Spans

/-! ### Fragments -/

/-- The fragments that items are put together from, the first item at an offset. -/
def fragments (pos : Int) : List TagItem → List Fragment
  | [] => []
  | .char c :: items => Tag.joinLiteral c (fragments (pos + 1) items)
  | .code s :: items => .code ⟨.code, ⟨pos, pos + s.length⟩, s, []⟩ :: fragments (pos + s.length) items

end TagItem

/-- A character in front of fragments belongs to the text they start with, or is a text of its own. -/
theorem Tag.joinLiteral_cases (c : Char) (fs : List Fragment) :
    (∃ t rest, fs = .literal t :: rest ∧ joinLiteral c fs = .literal (c :: t) :: rest) ∨
      (∀ f ∈ fs.head?, f.isText = false) ∧ joinLiteral c fs = .literal [c] :: fs := by
  cases fs with
  | nil => exact .inr ⟨by simp, rfl⟩
  | cons f fs =>
      cases f with
      | literal t => exact .inl ⟨t, fs, rfl, rfl⟩
      | code b => exact .inr ⟨by simp [Fragment.isText], rfl⟩

namespace Fragment.Reassembles

variable {pos : Int} {blocks : List Node} {source : Text} {fs : List Fragment}

theorem nil (pos : Int) : Reassembles pos [] [] [] :=
  ⟨rfl, by simp, .nil, rfl, trivial⟩

theorem char (h : Reassembles (pos + 1) blocks source fs) (c : Char) :
    Reassembles pos blocks (c :: source) (Tag.joinLiteral c fs) := by
  obtain ⟨hblocks, hnonempty, hapart, hsource, hplaced⟩ := h
  rcases Tag.joinLiteral_cases c fs with ⟨t, rest, rfl, hjoin⟩ | ⟨hhead, hjoin⟩
  · rw [hjoin]
    refine ⟨hblocks, ?_, List.isChain_cons.2 (List.isChain_cons.1 hapart), ?_, ?_, ?_⟩
    · intro u hu
      rcases List.mem_cons.1 hu with hu | hu
      · cases hu
        exact List.cons_ne_nil c t
      · exact hnonempty u (List.mem_cons_of_mem _ hu)
    · rw [← hsource]
      rfl
    · simp [block?]
    · have hlength : pos + 1 + (t.length : Nat) = pos + ((c :: t).length : Nat) := by
        simp
        omega
      exact hlength ▸ hplaced.2
  · rw [hjoin]
    refine ⟨hblocks, ?_, List.isChain_cons.2 ⟨?_, hapart⟩, ?_, ?_, hplaced⟩
    · intro u hu
      rcases List.mem_cons.1 hu with hu | hu
      · cases hu
        exact List.cons_ne_nil c []
      · exact hnonempty u hu
    · intro f hf
      simp [hhead f hf]
    · rw [← hsource]
      rfl
    · simp [block?]

/-- A code block in front is a fragment of its own. -/
theorem code {b : Node} (h : Reassembles (pos + b.source.length) blocks source fs)
    (hb : b.span.start = pos) :
    Reassembles pos (b :: blocks) (b.source ++ source) (.code b :: fs) := by
  obtain ⟨hblocks, hnonempty, hapart, hsource, hplaced⟩ := h
  refine ⟨?_, ?_, ?_, ?_, ?_⟩
  · rw [← hblocks]
    rfl
  · intro t ht
    exact hnonempty t (by simpa using ht)
  · refine List.isChain_cons.2 ⟨?_, hapart⟩
    simp [isText]
  · rw [List.flatMap_cons, hsource]
    rfl
  · refine ⟨?_, hplaced⟩
    intro b' hb'
    cases hb'
    exact hb

end Fragment.Reassembles

theorem TagItem.reassembles_fragments (pos : Int) (items : List TagItem) :
    Fragment.Reassembles pos (nodes pos items) (sources items) (fragments pos items) := by
  induction items generalizing pos with
  | nil => exact .nil pos
  | cons item items ih =>
      cases item with
      | char c => exact (ih (pos + 1)).char c
      | code s =>
          let b : Node := ⟨.code, ⟨pos, pos + s.length⟩, s, []⟩
          exact Fragment.Reassembles.code (b := b) (ih (pos + s.length)) rfl

/-! ### From the text back to the fragments -/

namespace Tag

/-- Masked items are cut into their fragments, if the blocks in front of theirs are as many as the
number of the first placeholder says. -/
theorem pieces_items (front : List Node) (pos : Int) {items : List TagItem} (h : TagItem.Clear items)
    (hfront : front.length ≤ 10 ^ NumeralTooLong.limit) :
    pieces (front ++ TagItem.nodes pos items) (TagItem.masked front.length items) =
      counted (front.length + TagItem.blocks items) (TagItem.fragments pos items) := by
  -- the blocks of the items already read go to `front`
  induction items generalizing front pos with
  | nil =>
      rw [TagItem.masked, pieces, TagItem.blocks, Nat.add_zero, counted_of_le hfront]
      rfl
  | cons item items ih =>
      cases item with
      | char c =>
          rw [TagItem.masked, pieces_literal (h.read? front.length), TagItem.nodes,
            ih front (pos + 1) h.of_char hfront, map_counted]
          rfl
      | code s =>
          rw [TagItem.nodes, TagItem.masked, TagItem.blocks]
          refine pieces_render_counted hfront (by omega) ?_
          intro hnext
          let b : Node := ⟨.code, ⟨pos, pos + s.length⟩, s, []⟩
          have hmore : (front ++ [b]).length ≤ 10 ^ NumeralTooLong.limit := by
            rw [List.length_append]
            exact hnext
          have hrest := ih (front ++ [b]) (pos + s.length) h.of_code hmore
          rw [← List.append_cons, List.length_append, List.length_singleton, Nat.add_assoc,
            Nat.add_comm 1] at hrest
          exact hrest

/-! ### Masking from the back -/

/-- Puts the placeholder with a number in the place of its block. The text is that of a tag at an
offset. -/
def splice (offset : Int) (text : Text) (block : Node × Nat) : Text :=
  text.take (block.1.span.start - offset).toNat ++ Placeholder.render block.2 ++
    text.drop (block.1.span.stop - offset).toNat

/-- When the blocks from `lo` on have been replaced, what lies before `lo` is as it was. -/
theorem foldr_splice {offset lo hi : Int} {blocks : List Node} {text : Text} (index : Nat)
    (hblocks : Within lo hi blocks) (hlo : offset ≤ lo) (hhi : hi ≤ offset + text.length) :
    (blocks.zipIdx index).foldr (fun b t => splice offset t b) text =
      text.take (lo - offset).toNat ++
        maskFrom lo index (text.drop (lo - offset).toNat) blocks := by
  induction blocks generalizing lo index with
  | nil => simp [maskFrom]
  | cons b blocks ih =>
      obtain ⟨hstart, hstop, hrest⟩ := hblocks
      have hbound := hrest.le
      have hlength : (text.take (b.span.stop - offset).toNat).length =
          (b.span.stop - offset).toNat := by
        rw [List.length_take]
        omega
      have htake : (b.span.start - offset).toNat ≤ (b.span.stop - offset).toNat := by omega
      have hbefore : (b.span.start - offset).toNat =
          (lo - offset).toNat + (b.span.start - lo).toNat := by omega
      have hbehind : (b.span.stop - offset).toNat =
          (lo - offset).toNat + (b.span.stop - lo).toNat := by omega
      rw [List.zipIdx_cons, List.foldr_cons, ih (index + 1) hrest (by omega), splice,
        List.drop_left' hlength, List.take_append_of_le_length (by rw [hlength]; exact htake),
        List.take_take, Nat.min_eq_left htake, maskFrom, List.drop_drop, ← hbehind, hbefore,
        List.take_add]
      simp only [List.append_assoc]

/-- Replacing the blocks one by one from the back masks the tag. -/
theorem foldl_splice {n : Node} (hblocks : Within n.span.start n.span.stop n.children)
    (hlength : n.span.stop = n.span.start + n.source.length) :
    n.children.zipIdx.reverse.foldl (splice n.span.start) n.source = mask n := by
  rw [List.foldl_reverse, foldr_splice 0 hblocks (Int.le_refl _) (Int.le_of_eq hlength), mask]
  simp

end Tag

/-! ### Tags of a document -/

/-- A node whose text consists of some items, and whose children are the code blocks among them. -/
structure Node.ConsistsOf (n : Node) (items : List TagItem) : Prop where
  source : n.source = TagItem.sources items
  children : n.children = TagItem.nodes n.span.start items
  stop : n.span.stop = n.span.start + n.source.length

namespace Node.ConsistsOf

variable {n : Node} {items : List TagItem}

theorem stretches_eq (h : n.ConsistsOf items) : n.stretches = TagItem.stretches items := by
  have hsource : n.source = [] ++ ([] ++ TagItem.sources items) := h.source
  have hstart : n.span.start = n.span.start + ([] : Text).length := (Int.add_zero _).symm
  have hstretches := TagItem.zipWith_nodes hsource hstart hstart
  rw [Node.stretches, h.children, h.stop, hstretches]
  cases TagItem.stretches items <;> simp

theorem mask_eq (h : n.ConsistsOf items) : Tag.mask n = TagItem.masked 0 items := by
  have hmask := Tag.maskFrom_nodes n.span.start 0 items []
  rw [List.append_nil, List.append_nil] at hmask
  rw [Tag.mask, h.source, h.children, hmask]

/-- The masked text of a node with clear stretches is cut into the fragments of its items. -/
theorem fragments_mask (h : n.ConsistsOf items) (hne : n.source ≠ []) (hclear : TagItem.Clear items) :
    Tag.fragments n.children (Tag.mask n) =
      Tag.counted n.children.length (TagItem.fragments n.span.start items) := by
  have hpieces := Tag.pieces_items [] n.span.start hclear (Nat.zero_le _)
  have hsource := (TagItem.reassembles_fragments n.span.start items).source
  rw [List.nil_append, List.length_nil, Nat.zero_add, ← TagItem.length_nodes n.span.start items]
    at hpieces
  rw [Tag.fragments, h.mask_eq, h.children, hpieces, Tag.map_counted]
  rw [← h.source] at hsource
  cases hfragments : TagItem.fragments n.span.start items with
  | nil =>
      rw [hfragments] at hsource
      exact absurd hsource.symm hne
  | cons f fs => rfl

end Node.ConsistsOf

/-- A tag of a document that was read consists of its angles and the items between them. -/
theorem Document.exists_consistsOf {s : Text} {path : Option String} {d : Document} {n : Node}
    (hparse : Document.parse s path = .ok d) (hn : n ∈ d.descendants (some .tag)) :
    n.source ≠ [] ∧ Within n.span.start n.span.stop n.children ∧ ∃ items, n.ConsistsOf items := by
  rw [(Document.laid_of_parse hparse).tags_eq, List.mem_filter, decide_eq_true_iff] at hn
  obtain ⟨hmem, hkind⟩ := hn
  have whole : IsTokenizationFrom s 0 d.children := isTokenization_of_parse hparse
  have token := whole.tokens n hmem
  obtain ⟨a, b, hspan, -, hab, hb⟩ := whole.bounds n hmem
  have within := token.within hspan (Nat.le_of_lt hab) hb
  obtain ⟨hslice, hshape⟩ := token
  rw [hkind] at hshape
  obtain ⟨items, tag, hchildren⟩ := hshape
  have hstop : n.span.stop = n.span.start + n.source.length := by
    rw [hslice, hspan, Text.length_slice hb]
    dsimp only
    omega
  have hsource : n.source = TagItem.sources (.char '<' :: (items ++ [.char '>'])) := by
    rw [tag.1]
    simp [TagItem.sources, TagItem.source]
  have hblocks : n.children = TagItem.nodes n.span.start (.char '<' :: (items ++ [.char '>'])) := by
    rw [hchildren, TagItem.nodes, TagItem.nodes_append]
    simp [TagItem.nodes]
  refine ⟨?_, ?_, _, hsource, hblocks, hstop⟩
  · rw [tag.1]
    exact List.cons_ne_nil _ _
  · rw [hspan]
    exact within

/-- Masking a tag and cutting it at the placeholders puts it together again. For every tag of a document
that was read, with any number of code blocks, the fragments of the masked text are the code blocks of
the tag in order and the text around them, if the phrase that a placeholder starts with is in none of
the stretches around the blocks. The masked text is what replacing the blocks one by one from the back
gives. Beyond as many blocks as can be numbered, the fragments are refused instead. -/
theorem fragments_mask_reassembles {s : Text} {path : Option String} {d : Document} {n : Node}
    (hparse : Document.parse s path = .ok d) (hn : n ∈ d.descendants (some .tag))
    (hclear : ∀ t ∈ n.stretches, ¬ Placeholder.opening <:+: t) :
    n.children.zipIdx.reverse.foldl (Tag.splice n.span.start) n.source = Tag.mask n ∧
    ∃ fs, Fragment.Reassembles n.span.start n.children n.source fs ∧
      (n.children.length ≤ 10 ^ NumeralTooLong.limit →
        Tag.fragments n.children (Tag.mask n) = .ok fs) ∧
      (10 ^ NumeralTooLong.limit < n.children.length →
        Tag.fragments n.children (Tag.mask n) = .error (.numeral ⟨NumeralTooLong.limit + 1⟩)) := by
  obtain ⟨hne, within, items, hitems⟩ := Document.exists_consistsOf hparse hn
  have reassembles := TagItem.reassembles_fragments n.span.start items
  rw [← hitems.children, ← hitems.source] at reassembles
  rw [hitems.stretches_eq] at hclear
  have hfragments := hitems.fragments_mask hne hclear
  refine ⟨Tag.foldl_splice within hitems.stop, _, reassembles, ?_, ?_⟩
  · intro hcount
    rw [hfragments, Tag.counted_of_le hcount]
  · intro hcount
    rw [hfragments, Tag.counted_of_lt hcount]

/-- A tag with eleven code blocks. The text before the first begins like a placeholder, the text behind
the second goes on like one, and the last nine stand side by side. -/
def elevenBlocks : Text :=
  "<i a=\"__template_auditor_code\x7b\x7ba\x7d\x7d\x7b\x7bb\x7d\x7d0__\" ".toList ++
    (List.replicate 9 "\x7b\x7b\x7d\x7d".toList).flatten ++ "_>".toList

theorem fragments_mask_reassembles_elevenBlocks :
    ∃ d n fs, Document.parse elevenBlocks none = .ok d ∧ n ∈ d.descendants (some .tag) ∧
      n.children.length = 11 ∧ (∀ t ∈ n.stretches, ¬ Placeholder.opening <:+: t) ∧
      Tag.fragments n.children (Tag.mask n) = .ok fs ∧
      Fragment.Reassembles n.span.start n.children n.source fs := by
  have hread : (Document.parse elevenBlocks none).toOption.map (fun d =>
      (d.descendants (some .tag)).map fun n =>
        (n.children.length, decide (∀ t ∈ n.stretches, ¬ Placeholder.opening <:+: t))) =
        some [(11, true)] := by
    decide +kernel
  obtain ⟨d, hd, htags⟩ := Option.map_eq_some_iff.1 hread
  have hparse := eq_ok_of_toOption hd
  obtain ⟨n, rest, hn, hfirst, -⟩ := List.map_eq_cons_iff.1 htags
  obtain ⟨hcount, hclear⟩ := Prod.mk.inj hfirst
  have hmem : n ∈ d.descendants (some .tag) := hn ▸ List.mem_cons_self
  have hclear := of_decide_eq_true hclear
  have hlimit : n.children.length ≤ 10 ^ NumeralTooLong.limit := by
    rw [hcount]
    have htwo : 2 ≤ NumeralTooLong.limit := by decide
    exact Nat.le_trans (by decide) (Nat.pow_le_pow_right (by decide) htwo)
  obtain ⟨-, fs, reassembles, hfragments, -⟩ := fragments_mask_reassembles hparse hmem hclear
  exact ⟨d, n, fs, hparse, hmem, hcount, hclear, hfragments hlimit, reassembles⟩

end MarkupAudit
