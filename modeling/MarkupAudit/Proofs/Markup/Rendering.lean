import MarkupAudit.Proofs.Markup.Masking
import MarkupAudit.Proofs.Markup.Writing
import MarkupAudit.Proofs.Rule.Motion
import MarkupAudit.Proofs.Template.Nesting

/-!
# Tags and their text

A tag that is written out and read again is the same tag: its name, its attributes in order, and in
each value the text and the code blocks it was made of, every block where it stands in the text.
-/

namespace MarkupAudit

open Text

/-- A part of the value of an attribute: text, or a code block. -/
inductive ValuePart where
  | literal (text : Text)
  | code (kind : CodeKind) (inner : Text)

namespace ValuePart

/-- Whether a part is text. -/
def isLiteral : ValuePart → Bool
  | .literal _ => true
  | .code _ _ => false

/-- A part that can be written as it is. Text is not empty and holds nothing that ends the value, that
stands for another character, that opens code or that looks like a placeholder. The quotes and
brackets of code have their partners. -/
def WellFormed : ValuePart → Prop
  | .literal t => t ≠ [] ∧ '"' ∉ t ∧ '&' ∉ t ∧ '{' ∉ t ∧ ¬ Placeholder.opening <:+: t
  | .code _ inner => IsNested inner

/-- The text of a part. -/
def source : ValuePart → Text
  | .literal t => t
  | .code kind inner => kind.opener ++ inner ++ kind.closer

/-- A part as fragment, at an offset. -/
def fragment (pos : Int) : ValuePart → Fragment
  | .literal t => .literal t
  | .code kind inner =>
      let s := source (.code kind inner)
      .code ⟨.code, ⟨pos, pos + s.length⟩, s, []⟩

/-- Parts in a row as fragments, the first at an offset. -/
def fragments (pos : Int) : List ValuePart → List Fragment
  | [] => []
  | p :: ps => p.fragment pos :: fragments (pos + p.source.length) ps

/-- No two parts in a row are text. -/
abbrev Apart (ps : List ValuePart) : Prop :=
  ps.IsChain fun p q => ¬ (p.isLiteral = true ∧ q.isLiteral = true)

end ValuePart

/-- The value of an attribute: parts, of which no two in a row are text. -/
structure WrittenValue where
  parts : List ValuePart
  wellFormed : ∀ p ∈ parts, p.WellFormed
  apart : ValuePart.Apart parts

namespace WrittenValue

/-- The text of a value. -/
def source (v : WrittenValue) : Text :=
  v.parts.flatMap ValuePart.source

/-- A value as fragments, at an offset. An empty value is one empty text. -/
def fragments (pos : Int) (v : WrittenValue) : List Fragment :=
  if v.parts.isEmpty then [.literal []] else ValuePart.fragments pos v.parts

end WrittenValue

/-- A tag that can be written. -/
structure WrittenTag where
  name : Text
  attributes : List (Text × WrittenValue)
  isTagName : IsTagName name
  areAttributeNames : ∀ a ∈ attributes, IsAttributeName a.1
  distinct : (attributes.map (·.1)).Nodup

namespace WrittenTag

/-- The text of a tag: its name, and each attribute behind a blank and in double quotes. -/
def render (w : WrittenTag) : Text :=
  StartTag.text w.name (w.attributes.map fun a => (a.1, a.2.source))

/-- Attributes as fragments. The blank in front of the first stands at an offset. -/
def attributesAt (pos : Int) : List (Text × WrittenValue) → List (Text × List Fragment)
  | [] => []
  | (name, value) :: more =>
      (name, value.fragments (pos + name.length + 3)) ::
        attributesAt (pos + name.length + value.source.length + 4) more

/-- How many code blocks there are in a tag. -/
def codeCount (w : WrittenTag) : Nat :=
  (w.attributes.flatMap (·.2.parts)).countP (!·.isLiteral)

/-- The tag that is written. -/
def tag (w : WrittenTag) : Tag :=
  { name := w.name
    attributes := attributesAt (w.name.length + 1) w.attributes
    closing := false
    selfClosing := false
    dynamic := false
    span := ⟨0, w.render.length⟩ }

end WrittenTag

/-! ### Values -/

namespace ValuePart

/-- The items of a tag that a part is made of. -/
def items : ValuePart → List TagItem
  | .literal t => TagItem.chars t
  | .code kind inner => [.code (source (.code kind inner))]

theorem sources_items (p : ValuePart) : TagItem.sources p.items = p.source := by
  cases p with
  | literal t => exact TagItem.sources_chars t
  | code kind inner => exact List.append_nil _

theorem blocks_items (p : ValuePart) : TagItem.blocks p.items = if p.isLiteral then 0 else 1 := by
  cases p with
  | literal t => exact TagItem.blocks_chars t
  | code kind inner => rfl

theorem sources_flatMap (ps : List ValuePart) :
    TagItem.sources (ps.flatMap items) = ps.flatMap source := by
  induction ps with
  | nil => rfl
  | cons p ps ih =>
      rw [List.flatMap_cons, List.flatMap_cons, TagItem.sources_append, sources_items, ih]

theorem blocks_flatMap (ps : List ValuePart) :
    TagItem.blocks (ps.flatMap items) = ps.countP (!·.isLiteral) := by
  induction ps with
  | nil => rfl
  | cons p ps ih =>
      rw [List.flatMap_cons, TagItem.blocks_append, blocks_items, ih, List.countP_cons, Nat.add_comm]
      cases p <;> rfl

/-- What stands behind a text is a code block, or nothing. -/
theorem atPlaceholder_masked {t : Text} {ps : List ValuePart} (h : Apart (.literal t :: ps))
    (index : Nat) : Tag.AtPlaceholder (TagItem.masked index (ps.flatMap items)) := by
  cases ps with
  | nil => exact .inl rfl
  | cons p ps =>
      cases p with
      | literal u => exact absurd ⟨rfl, rfl⟩ (List.isChain_cons_cons.1 h).1
      | code kind inner => exact .inr ⟨index, _, rfl⟩

end ValuePart

namespace WrittenValue

/-- The items of a tag that a value is made of. -/
def items (v : WrittenValue) : List TagItem :=
  v.parts.flatMap ValuePart.items

/-- No character of a value ends it, stands for another one or opens code. -/
theorem of_char_mem (v : WrittenValue) {c : Char} (h : .char c ∈ v.items) :
    c ≠ '"' ∧ c ≠ '&' ∧ c ≠ '{' := by
  obtain ⟨p, hp, hc⟩ := List.mem_flatMap.1 h
  have hwell := v.wellFormed p hp
  cases p with
  | literal t =>
      obtain ⟨d, hd, heq⟩ := List.mem_map.1 hc
      cases heq
      obtain ⟨-, hquote, hampersand, hbrace, -⟩ := hwell
      exact ⟨ne_of_mem_of_not_mem hd hquote, ne_of_mem_of_not_mem hd hampersand,
        ne_of_mem_of_not_mem hd hbrace⟩
  | code kind inner => cases List.mem_singleton.1 hc

theorem isCode_of_mem (v : WrittenValue) {s : Text} (h : .code s ∈ v.items) :
    ∃ kind, IsCode kind s := by
  obtain ⟨p, hp, hs⟩ := List.mem_flatMap.1 h
  have hwell := v.wellFormed p hp
  cases p with
  | literal t =>
      obtain ⟨c, -, heq⟩ := List.mem_map.1 hs
      cases heq
  | code kind inner =>
      cases List.mem_singleton.1 hs
      exact ⟨kind, IsNested.isCode hwell kind⟩

end WrittenValue

namespace Tag

/-- A value with placeholders is cut into its parts again, if its blocks stand among all others where
their numbers say. -/
theorem pieces_masked (front behind : List Node) (pos : Int) (ps : List ValuePart)
    (hps : ∀ p ∈ ps, p.WellFormed) (hapart : ValuePart.Apart ps)
    (hfront : front.length ≤ 10 ^ NumeralTooLong.limit) :
    pieces (front ++ (TagItem.nodes pos (ps.flatMap ValuePart.items) ++ behind))
        (TagItem.masked front.length (ps.flatMap ValuePart.items)) =
      counted (front.length + TagItem.blocks (ps.flatMap ValuePart.items))
        (ValuePart.fragments pos ps) := by
  -- the blocks of the parts already read are in `front`, so its length is the number of the next
  induction ps generalizing front pos with
  | nil =>
      rw [List.flatMap_nil, TagItem.masked, pieces, TagItem.blocks, Nat.add_zero,
        counted_of_le hfront]
      rfl
  | cons p ps ih =>
      obtain ⟨hp, hmore⟩ := List.forall_mem_cons.1 hps
      have ih := fun front pos => ih front pos hmore hapart.tail
      rw [List.flatMap_cons]
      cases p with
      | literal t =>
          obtain ⟨hne, -, -, -, hopening⟩ := hp
          rw [ValuePart.items, TagItem.nodes_append, TagItem.masked_append, TagItem.blocks_append]
          simp only [TagItem.nodes_chars, TagItem.masked_chars, TagItem.blocks_chars,
            TagItem.sources_chars, List.nil_append, Nat.add_zero, Nat.zero_add]
          rw [pieces_append hne hopening (ValuePart.atPlaceholder_masked hapart _),
            ih front _ hfront, map_counted]
          rfl
      | code kind inner =>
          rw [ValuePart.items, List.singleton_append, TagItem.nodes, TagItem.masked, TagItem.blocks,
            List.cons_append, pieces_render, block_ofNat _ _ _ hfront]
          by_cases hnext : front.length + 1 ≤ 10 ^ NumeralTooLong.limit
          · rw [counted_of_le hnext, List.append_cons]
            have hrest := fun (b : Node) pos => ih (front ++ [b]) pos (by simpa using hnext)
            simp only [List.length_append, List.length_singleton] at hrest
            simp only [hrest, map_counted, Nat.add_assoc, Nat.add_comm 1]
            rfl
          · rw [counted_of_lt (Nat.lt_of_not_le hnext), counted_of_lt (by omega)]

/-- A value with placeholders is mapped back to its fragments. -/
theorem fragments_masked (front behind : List Node) (pos : Int) (v : WrittenValue)
    (hfront : front.length ≤ 10 ^ NumeralTooLong.limit) :
    fragments (front ++ (TagItem.nodes pos v.items ++ behind))
        (TagItem.masked front.length v.items) =
      counted (front.length + TagItem.blocks v.items) (v.fragments pos) := by
  rw [fragments, WrittenValue.items,
    pieces_masked front behind pos v.parts v.wellFormed v.apart hfront, map_counted,
    WrittenValue.fragments]
  cases v.parts <;> rfl

end Tag

/-! ### Attributes -/

namespace WrittenTag

/-- The items that attributes are made of. -/
def attributeItems : List (Text × WrittenValue) → List TagItem
  | [] => []
  | (name, value) :: more =>
      TagItem.chars (' ' :: (name ++ ['=', '"'])) ++
        (value.items ++ .char '"' :: attributeItems more)

/-- Attributes with placeholders for the code blocks, counted from `index` on. -/
def maskedAttributes (index : Nat) : List (Text × WrittenValue) → List (Text × Text)
  | [] => []
  | (name, value) :: more =>
      (name, TagItem.masked index (value.items)) ::
        maskedAttributes (index + TagItem.blocks (value.items)) more

section Attributes

variable {attributes : List (Text × WrittenValue)}

theorem sources_attributeItems (attributes : List (Text × WrittenValue)) :
    TagItem.sources (attributeItems attributes) =
      StartTag.written (attributes.map fun a => (a.1, a.2.source)) := by
  induction attributes with
  | nil => rfl
  | cons a more ih =>
      obtain ⟨name, value⟩ := a
      have hquote : TagItem.sources (.char '"' :: attributeItems more) =
          '"' :: TagItem.sources (attributeItems more) := rfl
      rw [attributeItems, TagItem.sources_append, TagItem.sources_append, TagItem.sources_chars,
        WrittenValue.items, ValuePart.sources_flatMap, hquote, ih]
      simp [StartTag.written, WrittenValue.source]

theorem masked_attributeItems (index : Nat) (attributes : List (Text × WrittenValue)) :
    TagItem.masked index (attributeItems attributes) =
      StartTag.written (maskedAttributes index attributes) := by
  induction attributes generalizing index with
  | nil => rfl
  | cons a more ih =>
      obtain ⟨name, value⟩ := a
      rw [attributeItems, TagItem.masked_append, TagItem.masked_append, TagItem.masked_chars,
        TagItem.blocks_chars, TagItem.masked, Nat.add_zero, ih]
      simp [StartTag.written, maskedAttributes]

theorem map_maskedAttributes (index : Nat) (attributes : List (Text × WrittenValue)) :
    (maskedAttributes index attributes).map (·.1) = attributes.map (·.1) := by
  induction attributes generalizing index with
  | nil => rfl
  | cons a more ih => exact congrArg (a.1 :: ·) (ih _)

theorem writable_maskedAttributes (h : ∀ a ∈ attributes, IsAttributeName a.1) (index : Nat) :
    ∀ a ∈ maskedAttributes index attributes, StartTag.Writable a := by
  induction attributes generalizing index with
  | nil => exact fun a ha => absurd ha List.not_mem_nil
  | cons a more ih =>
      obtain ⟨name, value⟩ := a
      obtain ⟨hname, hmore⟩ := List.forall_mem_cons.1 h
      refine List.forall_mem_cons.2 ⟨⟨hname, ?_, ?_⟩, ih hmore _⟩
      · refine TagItem.not_mem_masked ?_ (fun hmem => (value.of_char_mem hmem).1 rfl) index
        exact Placeholder.not_mem_render (by decide) (by decide)
      · refine TagItem.not_mem_masked ?_ (fun hmem => (value.of_char_mem hmem).2.1 rfl) index
        exact Placeholder.not_mem_render (by decide) (by decide)

/-- The blocks of the first attribute come first. -/
theorem nodes_attributeItems (pos : Int) (name : Text) (value : WrittenValue)
    (more : List (Text × WrittenValue)) :
    TagItem.nodes pos (attributeItems ((name, value) :: more)) =
      TagItem.nodes (pos + name.length + 3) (value.items) ++
        TagItem.nodes (pos + name.length + value.source.length + 4) (attributeItems more) := by
  rw [attributeItems, TagItem.nodes_append, TagItem.nodes_append, TagItem.nodes_chars,
    TagItem.sources_chars, TagItem.nodes, WrittenValue.items, ValuePart.sources_flatMap,
    List.nil_append]
  simp only [List.length_cons, List.length_append, List.length_nil, WrittenValue.source]
  congr 2 <;> omega

theorem blocks_attributeItems (name : Text) (value : WrittenValue)
    (more : List (Text × WrittenValue)) :
    TagItem.blocks (attributeItems ((name, value) :: more)) =
      TagItem.blocks (value.items) + TagItem.blocks (attributeItems more) := by
  rw [attributeItems, TagItem.blocks_append, TagItem.blocks_append, TagItem.blocks_chars,
    TagItem.blocks, Nat.zero_add]

theorem blocks_eq_countP (attributes : List (Text × WrittenValue)) :
    TagItem.blocks (attributeItems attributes) =
      (attributes.flatMap (·.2.parts)).countP (!·.isLiteral) := by
  induction attributes with
  | nil => rfl
  | cons a more ih =>
      rw [blocks_attributeItems, ih, WrittenValue.items, ValuePart.blocks_flatMap, List.flatMap_cons,
        List.countP_append]

/-- The attributes of a tag with placeholders are mapped back to the fragments that they are made
of. -/
theorem fragmented_masked (front : List Node) (pos : Int)
    (h : ∀ a ∈ attributes, IsAttributeName a.1)
    (hfront : front.length ≤ 10 ^ NumeralTooLong.limit) :
    Tag.fragmented (front ++ TagItem.nodes pos (attributeItems attributes))
        (maskedAttributes front.length attributes) =
      Tag.counted (front.length + TagItem.blocks (attributeItems attributes))
        (attributesAt pos attributes) := by
  induction attributes generalizing front pos with
  | nil => exact (Tag.counted_of_le hfront []).symm
  | cons a more ih =>
      obtain ⟨name, value⟩ := a
      obtain ⟨hname, hmore⟩ := List.forall_mem_cons.1 h
      have hstatic : Placeholder.occursIn name = false :=
        Placeholder.occursIn_eq_false fun hmem => (hname.plain _ hmem).ne (by decide) rfl
      let blocks := TagItem.nodes (pos + name.length + 3) (value.items)
      have hlength : (front ++ blocks).length =
          front.length + TagItem.blocks (value.items) := by
        rw [List.length_append, TagItem.length_nodes]
      rw [nodes_attributeItems, blocks_attributeItems, maskedAttributes, Tag.fragmented, hstatic,
        if_neg (by simp), Tag.fragments_masked _ _ _ _ hfront, ← Nat.add_assoc, ← hlength]
      by_cases hnext : (front ++ blocks).length ≤ 10 ^ NumeralTooLong.limit
      · rw [Tag.counted_of_le hnext, ← List.append_assoc]
        refine (congrArg (Except.map _) (ih (front ++ blocks) _ hmore hnext)).trans ?_
        exact Tag.map_counted ..
      · have hlarge := Nat.lt_of_not_le hnext
        rw [Tag.counted_of_lt hlarge, Tag.counted_of_lt (Nat.lt_add_right _ hlarge)]

end Attributes

end WrittenTag

/-! ### The tag in its text -/

theorem not_opener {c : Char} (h : c ≠ '{') (s : Text) :
    ∀ kind : CodeKind, ¬ kind.opener <+: c :: s := by
  rintro kind ⟨tail, htail⟩
  cases kind <;> cases htail <;> exact h rfl

/-- Characters outside of values are passed over. -/
theorem tagEnds_chars {s : Text} (h : ∀ c ∈ s, c ≠ '>' ∧ c ≠ '{' ∧ c ≠ '=')
    {items : List TagItem} (hitems : TagEnds {} items) :
    TagEnds {} (TagItem.chars s ++ items) := by
  induction s with
  | nil => exact hitems
  | cons c s ih =>
      obtain ⟨⟨hangle, hbrace, hequals⟩, hs⟩ := List.forall_mem_cons.1 h
      refine tagEnds_char.2 ⟨fun hc => hangle hc.1, not_opener hbrace _, ?_⟩
      have hstep : TagState.step {} (.char c) = {} := by simp [TagState.step, hequals]
      rw [hstep]
      exact ih hs

theorem Text.Plain.passed {c : Char} (h : Plain c) : c ≠ '>' ∧ c ≠ '{' ∧ c ≠ '=' :=
  ⟨h.ne (by decide), h.ne (by decide), h.ne (by decide)⟩

/-- What stands in double quotes is passed over. -/
theorem tagEnds_quoted {items back : List TagItem}
    (hchars : ∀ c, .char c ∈ items → c ≠ '"' ∧ c ≠ '{')
    (hcodes : ∀ s, .code s ∈ items → ∃ kind, IsCode kind s)
    (hback : TagEnds ⟨some '"', false⟩ back) : TagEnds ⟨some '"', false⟩ (items ++ back) := by
  induction items with
  | nil => exact hback
  | cons item items ih =>
      have hrest := ih (fun c hc => hchars c (List.mem_cons_of_mem _ hc))
        fun s hs => hcodes s (List.mem_cons_of_mem _ hs)
      cases item with
      | char c =>
          obtain ⟨hquote, hbrace⟩ := hchars c List.mem_cons_self
          refine tagEnds_char.2 ⟨by simp, not_opener hbrace _, ?_⟩
          have hstep : TagState.step ⟨some '"', false⟩ (.char c) = ⟨some '"', false⟩ := by
            simp [TagState.step, hquote]
          rwa [hstep]
      | code s => exact tagEnds_code.2 ⟨hcodes s List.mem_cons_self, hrest⟩

theorem TagItem.isCodeLeaf_of_mem_nodes {pos : Int} {items : List TagItem} {b : Node}
    (h : b ∈ nodes pos items) : b.IsCodeLeaf := by
  induction items generalizing pos with
  | nil => cases h
  | cons item items ih =>
      cases item with
      | char c => exact ih h
      | code s =>
          rcases List.mem_cons.1 h with rfl | h
          · exact ⟨rfl, rfl⟩
          · exact ih h

namespace WrittenTag

theorem tagEnds_attributeItems {attributes : List (Text × WrittenValue)}
    (h : ∀ a ∈ attributes, IsAttributeName a.1) : TagEnds {} (attributeItems attributes) := by
  induction attributes with
  | nil => exact tagEnds_nil.2 rfl
  | cons a more ih =>
      obtain ⟨name, value⟩ := a
      obtain ⟨hname, hmore⟩ := List.forall_mem_cons.1 h
      -- behind the quotation mark that ends the value, the tag is where it was before the attribute
      have hback : TagEnds ⟨some '"', false⟩ (.char '"' :: attributeItems more) :=
        tagEnds_char.2 ⟨by simp, not_opener (by decide) _, ih hmore⟩
      have hvalue := tagEnds_quoted (fun c hc => ⟨(value.of_char_mem hc).1, (value.of_char_mem hc).2.2⟩)
        (fun s hs => value.isCode_of_mem hs) hback
      have hequals : TagEnds {} (.char '=' :: .char '"' ::
          (value.items ++ .char '"' :: attributeItems more)) :=
        tagEnds_char.2 ⟨by simp, not_opener (by decide) _,
          tagEnds_char.2 ⟨by simp, not_opener (by decide) _, hvalue⟩⟩
      have hplain : ∀ c ∈ ' ' :: name, c ≠ '>' ∧ c ≠ '{' ∧ c ≠ '=' := by
        refine List.forall_mem_cons.2 ⟨by decide, fun c hc => ?_⟩
        exact (hname.plain c hc).passed
      have hitems : attributeItems ((name, value) :: more) = TagItem.chars (' ' :: name) ++
          .char '=' :: .char '"' :: (value.items ++ .char '"' :: attributeItems more) := by
        simp [attributeItems, TagItem.chars]
      rw [hitems]
      exact tagEnds_chars hplain hequals

variable (w : WrittenTag)

/-- The items of a tag. -/
def items : List TagItem :=
  TagItem.chars w.name ++ attributeItems w.attributes

/-- The node of a tag that stands at the start of a text. -/
def node : Node :=
  ⟨.tag, ⟨0, w.render.length⟩, w.render, TagItem.nodes 1 w.items⟩

theorem render_eq : w.render = '<' :: (TagItem.sources w.items ++ ['>']) := by
  rw [render, StartTag.text, items, TagItem.sources_append, TagItem.sources_chars,
    sources_attributeItems]

theorem isTag_render : IsTag w.render w.items := by
  refine ⟨w.render_eq, ?_, tagEnds_chars (fun c hc => ?_) (tagEnds_attributeItems w.areAttributeNames)⟩
  · obtain ⟨c, hc, hstarts⟩ := StartTag.starts_text w.isTagName (w.attributes.map fun a => (a.1, a.2.source))
    exact ⟨c, hc, .inl hstarts⟩
  · exact (w.isTagName.isAttributeName.plain c hc).passed

/-- The text of a tag is read as one tag and nothing else. -/
theorem exists_parse_render (path : Option String) :
    ∃ d, Document.parse w.render path = .ok d ∧ d.children = [w.node] := by
  have hpieces := Scan.pieces_of_reads (.tag w.isTag_render .nil)
  rw [List.append_nil] at hpieces
  refine ⟨_, by rw [Document.parse, hpieces], ?_⟩
  have hnodes := Layout.map_codeNode_add (TagItem.insets w.items) 0 1
  rw [TagItem.map_codeNode_insets] at hnodes
  simp only [Document.children, Layout.nodes, hnodes]
  simp [node]

theorem children_node :
    w.node.children = TagItem.nodes (w.name.length + 1) (attributeItems w.attributes) := by
  rw [node, items, TagItem.nodes_append, TagItem.nodes_chars, TagItem.sources_chars,
    List.nil_append, Int.add_comm]

/-- The text of a tag with placeholders is again the text of a tag. -/
theorem mask_node :
    Tag.mask w.node = StartTag.text w.name (maskedAttributes 0 w.attributes) := by
  have hmask := Tag.maskFrom_nodes 0 0 (.char '<' :: w.items) ['>']
  have hmasked : TagItem.masked 0 (.char '<' :: w.items) =
      '<' :: (w.name ++ StartTag.written (maskedAttributes 0 w.attributes)) := by
    rw [TagItem.masked, items, TagItem.masked_append, TagItem.masked_chars, TagItem.blocks_chars,
      masked_attributeItems]
  rw [hmasked] at hmask
  rw [Tag.mask, node, w.render_eq]
  exact hmask

end WrittenTag

namespace Tag

/-- A name that is new is put behind all others. -/
theorem put_of_not_mem {α : Type} {name : Text} {value : α} {m : List (Text × α)}
    (h : name ∉ m.map (·.1)) : put name value m = m ++ [(name, value)] := by
  induction m with
  | nil => rfl
  | cons a m ih =>
      obtain ⟨n, v⟩ := a
      rw [List.map_cons, List.mem_cons, not_or] at h
      rw [put, if_neg (Ne.symm h.1), ih h.2]
      rfl

theorem foldl_put {attributes m : List (Text × Text)} (h : ((m ++ attributes).map (·.1)).Nodup) :
    (attributes.map fun a => (a.1, some a.2)).foldl
      (fun m (name, value) => put name (value.getD []) m) m = m ++ attributes := by
  induction attributes generalizing m with
  | nil => exact (List.append_nil m).symm
  | cons a more ih =>
      have hfresh : a.1 ∉ m.map (·.1) := by
        rw [List.map_append, List.map_cons, List.nodup_append] at h
        exact fun hmem => h.2.2 _ hmem _ List.mem_cons_self rfl
      show List.foldl _ (put a.1 a.2 m) _ = _
      rw [put_of_not_mem hfresh, ih (by simpa using h), List.append_assoc]
      rfl

/-- Attributes with names of their own are left as they are. -/
theorem merged_of_nodup {attributes : List (Text × Text)} (h : (attributes.map (·.1)).Nodup) :
    merged (attributes.map fun a => (a.1, some a.2)) = attributes :=
  foldl_put (m := []) h

section Text

variable {name : Text} {attributes : List (Text × Text)}

theorem take_text (hname : IsTagName name) :
    (StartTag.text name attributes).take 2 ≠ ['<', '/'] := by
  obtain ⟨c, hc, tail, htail⟩ := StartTag.starts_text hname attributes
  rw [← htail]
  intro h
  cases h
  exact absurd hc (by decide)

theorem nameOf_text (hname : IsTagName name) : nameOf (StartTag.text name attributes) = name := by
  have hplain := hname.isAttributeName.plain
  have htext : (StartTag.text name attributes).drop 1 =
      name ++ (StartTag.written attributes ++ ['>']) := by simp [StartTag.text]
  have hblank : StopsAt isBlank (name ++ (StartTag.written attributes ++ ['>'])) :=
    StartTag.stopsAt_name hname.isAttributeName fun c hc => hc.not_blank
  have hrun : ∀ c ∈ name, (!(isBlank c || c = '/' || c = '>')) = true := fun c hc => by
    have hslash : c ≠ '/' := (hplain c hc).ne (by decide)
    simp [(hplain c hc).not_blank, hslash, (hplain c hc).passed.1]
  simp only [nameOf, if_neg (take_text hname), htext, hblank.dropWhile_eq_self]
  rw [List.takeWhile_append_of_pos hrun,
    (StartTag.stopsAt_written (by decide) (by decide)).takeWhile_eq_nil, List.append_nil,
    hname.isAttributeName.lower]

theorem getLast?_trimEnd_text (hname : IsTagName name) :
    ((trimEnd (StartTag.text name attributes).dropLast).getLast? == some '/') = false := by
  obtain ⟨front, d, hsplit, hblank, hslash⟩ := StartTag.exists_last hname attributes
  have hlast : (StartTag.text name attributes).dropLast = ('<' :: front) ++ [d] := by
    rw [StartTag.text, hsplit, ← List.cons_append, List.dropLast_concat]
    rfl
  have htrim : trimEnd (('<' :: front) ++ [d]) = ('<' :: front) ++ [d] := by
    simp [trimEnd, hblank]
  rw [hlast, htrim, List.getLast?_concat]
  simpa using hslash

end Text

end Tag

/-- The tag of a node is what was written, unless it has too many blocks to number them. -/
theorem WrittenTag.ofNode_node (w : WrittenTag) :
    Tag.ofNode w.node = Tag.counted w.codeCount w.tag := by
  have hwritable := writable_maskedAttributes w.areAttributeNames 0
  have hnodup : ((maskedAttributes 0 w.attributes).map (·.1)).Nodup := by
    rw [map_maskedAttributes]
    exact w.distinct
  have hstatic : (maskedAttributes 0 w.attributes).any (fun a => Placeholder.occursIn a.1) = false := by
    rw [List.any_eq_false]
    intro a ha
    rw [Placeholder.occursIn_eq_false fun hmem => ((hwritable a ha).1.plain _ hmem).ne (by decide) rfl]
    exact Bool.false_ne_true
  have hfragmented : Tag.fragmented w.node.children (maskedAttributes 0 w.attributes) =
      Tag.counted w.codeCount w.tag.attributes := by
    have h := fragmented_masked [] (w.name.length + 1) w.areAttributeNames (Nat.zero_le _)
    rw [List.nil_append, List.length_nil, Nat.zero_add, blocks_eq_countP] at h
    rw [w.children_node]
    exact h
  unfold Tag.ofNode
  rw [if_neg (by simp [node]), w.mask_node]
  simp only [if_neg (Tag.take_text w.isTagName), Tag.nameOf_text w.isTagName,
    Markup.firstTag?_text w.isTagName hwritable, Option.map_some, Option.getD_some,
    Tag.merged_of_nodup hnodup, Tag.getLast?_trimEnd_text w.isTagName, hstatic, hfragmented]
  by_cases hcount : w.codeCount ≤ 10 ^ NumeralTooLong.limit
  · rw [Tag.counted_of_le hcount, Tag.counted_of_le hcount]
    rfl
  · rw [Tag.counted_of_lt (Nat.lt_of_not_le hcount), Tag.counted_of_lt (Nat.lt_of_not_le hcount)]

/-- Writing a tag and reading it again gives the tag back. Its text is read as one tag node and
nothing else, and the tag of this node is the one that was written: it has the same name and the same
attributes in the same order, each with the texts and code blocks of its value, and each block with
the span where it stands in the text. Beyond as many blocks as can be numbered, the tag is rejected
instead. -/
theorem ofNode_parse_render (w : WrittenTag) (path : Option String) :
    ∃ d n, Document.parse w.render path = .ok d ∧ d.children = [n] ∧
      d.descendants (some .tag) = [n] ∧ n.kind = .tag ∧
      n.span = ⟨0, w.render.length⟩ ∧ n.source = w.render ∧
      (w.codeCount ≤ 10 ^ NumeralTooLong.limit → Tag.ofNode n = .ok w.tag) ∧
      (10 ^ NumeralTooLong.limit < w.codeCount →
        Tag.ofNode n = .error (.numeral ⟨NumeralTooLong.limit + 1⟩)) := by
  obtain ⟨d, hparse, hchildren⟩ := w.exists_parse_render path
  have hlaid : ∀ n ∈ [w.node], n.IsLaid := by
    intro n hn
    rw [List.mem_singleton.1 hn]
    exact ⟨.inl rfl, fun b hb => TagItem.isCodeLeaf_of_mem_nodes hb⟩
  refine ⟨d, w.node, hparse, hchildren, ?_, rfl, rfl, rfl, fun h => ?_, fun h => ?_⟩
  · rw [Document.descendants, Node.descendants, show d.root.children = [w.node] from hchildren,
      Node.walk_tag hlaid]
    rfl
  · rw [w.ofNode_node, Tag.counted_of_le h]
  · rw [w.ofNode_node, Tag.counted_of_lt h]

/-- A value in which text that begins like a placeholder stands before a code block, and a slash and an
angle behind it. -/
def mixedValue : WrittenValue where
  parts := [.literal "__template_auditor_code".toList, .code .output ['\'', '"', '\''],
    .literal ['/', '>']]
  wellFormed := by
    have hcode : ValuePart.WellFormed (.code .output ['\'', '"', '\'']) :=
      .quoted (by decide) (.char (by decide) (by decide) .nil) .nil
    simp only [List.forall_mem_cons]
    -- neither text is as long as the phrase that a placeholder starts with
    exact ⟨⟨by decide, by decide, by decide, by decide, fun h => absurd h.length_le (by decide)⟩, hcode,
      ⟨by decide, by decide, by decide, by decide, fun h => absurd h.length_le (by decide)⟩, by simp⟩
  apart := by decide

/-- A tag with such a value, and with an empty one. -/
def mixedTag : WrittenTag where
  name := ['a']
  attributes := [(['h'], mixedValue), (['x', '-', '1'], ⟨[], by simp, by decide⟩)]
  isTagName := by decide
  areAttributeNames := by simp only [List.forall_mem_cons]; exact ⟨by decide, by decide, by simp⟩
  distinct := by decide

theorem ofNode_parse_render_mixed :
    ∃ d n, mixedTag.render =
        "<a h=\"__template_auditor_code\x7b\x7b'\"'\x7d\x7d/>\" x-1=\"\">".toList ∧
      Document.parse mixedTag.render none = .ok d ∧ d.children = [n] ∧
      Tag.ofNode n = .ok
        { name := ['a']
          attributes :=
            [(['h'],
                [.literal "__template_auditor_code".toList,
                  .code ⟨.code, ⟨29, 36⟩, "\x7b\x7b'\"'\x7d\x7d".toList, []⟩, .literal ['/', '>']]),
              (['x', '-', '1'], [.literal []])]
          closing := false
          selfClosing := false
          dynamic := false
          span := ⟨0, 47⟩ } := by
  obtain ⟨d, n, hparse, hchildren, -, -, -, -, htag, -⟩ := ofNode_parse_render mixedTag none
  have hcount : mixedTag.codeCount ≤ 10 ^ NumeralTooLong.limit :=
    Nat.pow_pos (by decide)
  refine ⟨d, n, by decide, hparse, hchildren, ?_⟩
  rw [htag hcount]
  rfl

end MarkupAudit
