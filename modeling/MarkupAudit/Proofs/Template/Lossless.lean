import MarkupAudit.Proofs.Template.Tokenization

/-!
# Nothing is lost in reading

A document holds its text, the whole of it and every character once. All of this follows from the
nodes being a tokenization, with no further look at the scanners: the nodes tile the text, the blocks
in a tag lie between its first and its last character, and what the text runs hold is the text
without its tags and comments.
-/

namespace MarkupAudit

/-- The characters of a text whose offsets lie in none of some spans. The first character has the
offset `pos`. -/
def Text.outside (pos : Nat) (s : Text) (spans : List Span) : Text :=
  ((s.zipIdx pos).filter fun ci => !spans.any fun span => span.Holds ci.2).map (·.1)

/-- The spans of the tags and comments among some nodes. -/
def markupSpans (ns : List Node) : List Span :=
  (ns.filter fun n => n.kind = .tag || n.kind = .comment).map (·.span)

/-- A document that lost nothing of a text. -/
structure Document.Lossless (s : Text) (d : Document) : Prop where
  kinds : ∀ n ∈ d.children, n.kind = .text ∨ n.kind = .tag ∨ n.kind = .comment
  tiles : Tiles 0 s.length d.children
  whole : d.children.flatMap (·.source) = s
  separated : Separated d.children
  slices : ∀ n ∈ d.root :: d.descendants none, n.source = s.slice n.span
  blocks : ∀ n ∈ d.children, ∀ b ∈ n.children, b.kind = .code ∧ b.children = []
  inText : ∀ n ∈ d.children, n.kind = .text → Within n.span.start n.span.stop n.children
  inTag : ∀ n ∈ d.children, n.kind = .tag →
    Within (n.span.start + 1) (n.span.stop - 1) n.children
  inComment : ∀ n ∈ d.children, n.kind = .comment → n.children = []
  text : d.root.textOf = Text.outside 0 s (markupSpans d.children)

/-! ### Code blocks in tags -/

/-- The code blocks among some items lie in the text of the items. -/
theorem TagItem.within_nodes (items : List TagItem) (pos : Int)
    (blocks : ∀ s, TagItem.code s ∈ items → ∃ kind, IsCode kind s) :
    Within pos (pos + (TagItem.sources items).length) (TagItem.nodes pos items) := by
  induction items generalizing pos with
  | nil =>
      show pos ≤ pos + 0
      omega
  | cons item items ih =>
      have rest := fun pos => ih pos fun s hs => blocks s (List.mem_cons_of_mem _ hs)
      cases item with
      | char c =>
          have hlen : (TagItem.sources (.char c :: items)).length =
              1 + (TagItem.sources items).length := by
            simp [TagItem.sources, TagItem.source, Nat.add_comm]
          rw [hlen]
          exact (rest (pos + 1)).mono (by omega) (by omega)
      | code b =>
          obtain ⟨kind, hcode⟩ := blocks b (by simp)
          have hpos := hcode.length_pos
          have hlen : (TagItem.sources (.code b :: items)).length =
              b.length + (TagItem.sources items).length := by
            simp [TagItem.sources, TagItem.source]
          rw [hlen]
          refine ⟨Int.le_refl _, ?_, ?_⟩
          · show pos < pos + b.length
            omega
          · exact (rest (pos + b.length)).mono (Int.le_refl _) (by omega)

/-- The code blocks among some items that stand in a text are code blocks of the text. -/
theorem TagItem.isBlock_nodes {s rest : Text} {pos : Nat} (items : List TagItem)
    (blocks : ∀ s, TagItem.code s ∈ items → ∃ kind, IsCode kind s)
    (hs : s.drop pos = TagItem.sources items ++ rest) :
    ∀ n ∈ TagItem.nodes pos items, IsBlock s n := by
  induction items generalizing pos with
  | nil => intro n hn; cases hn
  | cons item items ih =>
      have hs' : s.drop pos = item.source ++ (TagItem.sources items ++ rest) := by
        rw [hs, TagItem.sources, List.flatMap_cons, List.append_assoc]
        rfl
      have later := ih (fun s hs => blocks s (List.mem_cons_of_mem _ hs))
        (Text.drop_add_of_drop_eq hs')
      cases item with
      | char c => exact later
      | code b =>
          obtain ⟨kind, hcode⟩ := blocks b (by simp)
          intro n hn
          rcases List.mem_cons.1 hn with rfl | hn
          · exact isBlock_codeNode hs' hcode
          · exact later n hn

section Tokens

variable {s : Text} {n : Node} {a b : Nat}

/-- The text at a node. -/
theorem IsToken.drop_eq (h : IsToken s n) (hspan : n.span = ⟨a, b⟩) (hab : a ≤ b) :
    s.drop a = n.source ++ s.drop b := by
  rw [h.1, hspan]
  exact Text.drop_eq_slice_append hab

/-- The code blocks of a tag lie in it, behind its first character and before its last. -/
theorem IsToken.tag_children (h : IsToken s n) (hkind : n.kind = .tag) (hspan : n.span = ⟨a, b⟩)
    (hab : a ≤ b) (hb : b ≤ s.length) :
    Within (n.span.start + 1) (n.span.stop - 1) n.children ∧ ∀ c ∈ n.children, IsBlock s c := by
  have hs := h.drop_eq hspan hab
  have hlen : n.source.length = b - a := by rw [h.1, hspan, Text.length_slice hb]
  obtain ⟨-, htag⟩ := h
  rw [hkind] at htag
  obtain ⟨items, ⟨hsource, -, ends⟩, hchildren⟩ := htag
  rw [hchildren, hspan]
  constructor
  · refine (TagItem.within_nodes items _ ends.blocks).mono (Int.le_refl _) ?_
    rw [hsource, List.length_cons, List.length_append, List.length_singleton] at hlen
    dsimp only
    omega
  · have hinner : s.drop (a + 1) = TagItem.sources items ++ '>' :: s.drop b := by
      rw [← List.drop_drop, hs, hsource]
      simp
    exact TagItem.isBlock_nodes items ends.blocks hinner

/-- The children of a token are code blocks. -/
theorem IsToken.isBlock_of_mem_children (h : IsToken s n) (hspan : n.span = ⟨a, b⟩) (hab : a ≤ b)
    (hb : b ≤ s.length) : ∀ c ∈ n.children, IsBlock s c := by
  obtain ⟨-, hkind⟩ := id h
  split at hkind
  · exact hkind.blocks
  · exact (h.tag_children ‹_› hspan hab hb).2
  · rw [hkind.2]
    simp
  · exact hkind.elim
  · exact hkind.elim

end Tokens

/-! ### The nodes of a tokenization -/

section Tokenization

variable {s : Text} {pos : Nat} {ns : List Node}

theorem IsTokenizationFrom.bounds (h : IsTokenizationFrom s pos ns) :
    ∀ n ∈ ns, ∃ a b : Nat, n.span = ⟨a, b⟩ ∧ pos ≤ a ∧ a < b ∧ b ≤ s.length := by
  induction ns generalizing pos with
  | nil => intro n hn; cases hn
  | cons m ns ih =>
      obtain ⟨stop, hspan, hlt, -, -, rest⟩ := isTokenizationFrom_cons.1 h
      have hstop := rest.tiles.le
      intro n hn
      rcases List.mem_cons.1 hn with rfl | hn
      · exact ⟨pos, stop, hspan, by omega, hlt, by omega⟩
      · obtain ⟨a, b, hab, hle, hlt', hb⟩ := ih rest n hn
        exact ⟨a, b, hab, by omega, hlt', hb⟩

/-- The sources of the nodes make up the text. -/
theorem IsTokenizationFrom.flatMap_source (h : IsTokenizationFrom s pos ns) :
    ns.flatMap (·.source) = s.drop pos := by
  induction ns generalizing pos with
  | nil =>
      have hend : (pos : Int) = s.length := h.tiles
      rw [List.drop_eq_nil_of_le (by omega)]
      rfl
  | cons n ns ih =>
      obtain ⟨stop, hspan, hlt, token, -, rest⟩ := isTokenizationFrom_cons.1 h
      rw [List.flatMap_cons, ih rest, token.drop_eq hspan (Nat.le_of_lt hlt)]

/-- There is no text under code blocks. -/
theorem textOfAll_of_isBlock {cs : List Node} (h : ∀ c ∈ cs, IsBlock s c) :
    Node.textOfAll cs = [] := by
  induction cs with
  | nil => rfl
  | cons c cs ih =>
      have hc := h c (by simp)
      obtain ⟨kind, span, source, children⟩ := c
      obtain ⟨hkind, -, -, hleaf⟩ := hc
      dsimp only at hkind hleaf
      subst hkind hleaf
      rw [Node.textOfAll, ih fun c hc => h c (List.mem_cons_of_mem _ hc)]
      rfl

/-- A text run stands for all that it contains, and no other node holds text. -/
theorem textOf_of_isBlock {n : Node} (h : ∀ c ∈ n.children, IsBlock s c) :
    n.textOf = if n.kind = .text then n.source else [] := by
  obtain ⟨kind, span, source, children⟩ := n
  rw [Node.textOf]
  split
  · rfl
  · exact textOfAll_of_isBlock h

theorem Text.outside_append (pos : Nat) (u v : Text) (spans : List Span) :
    Text.outside pos (u ++ v) spans =
      Text.outside pos u spans ++ Text.outside (pos + u.length) v spans := by
  rw [Text.outside, List.zipIdx_append, List.filter_append, List.map_append]
  rfl

/-- A text that lies apart from all of the spans is kept whole. -/
theorem Text.outside_eq_self {pos : Nat} {u : Text} {spans : List Span}
    (h : ∀ span ∈ spans, ∀ p : Nat, pos ≤ p → p < pos + u.length → ¬ span.Holds p) :
    Text.outside pos u spans = u := by
  rw [Text.outside, List.filter_eq_self.2, List.zipIdx_map_fst]
  intro ci hci
  have hlo := List.le_snd_of_mem_zipIdx hci
  have hhi := List.snd_lt_add_of_mem_zipIdx hci
  simpa using fun span hspan => h span hspan ci.2 hlo (by omega)

/-- A text that lies in one of the spans is dropped. -/
theorem Text.outside_eq_nil {pos : Nat} {u : Text} {spans : List Span} {span : Span}
    (hspan : span ∈ spans) (h : ∀ p : Nat, pos ≤ p → p < pos + u.length → span.Holds p) :
    Text.outside pos u spans = [] := by
  rw [Text.outside, List.filter_eq_nil_iff.2, List.map_nil]
  intro ci hci
  have hlo := List.le_snd_of_mem_zipIdx hci
  have hhi := List.snd_lt_add_of_mem_zipIdx hci
  simpa using ⟨span, hspan, h ci.2 hlo (by omega)⟩

/-- A span that the text does not reach plays no part. -/
theorem Text.outside_cons {pos : Nat} {u : Text} {spans : List Span} {span : Span}
    (h : ∀ p : Nat, pos ≤ p → ¬ span.Holds p) :
    Text.outside pos u (span :: spans) = Text.outside pos u spans := by
  rw [Text.outside, Text.outside]
  congr 1
  refine List.filter_congr fun ci hci => ?_
  rw [List.any_cons, decide_eq_false (h ci.2 (List.le_snd_of_mem_zipIdx hci)), Bool.false_or]

theorem markupSpans_cons_text {n : Node} (h : n.kind = .text) :
    markupSpans (n :: ns) = markupSpans ns := by
  simp [markupSpans, h]

theorem IsToken.markupSpans_cons {n : Node} (token : IsToken s n) (h : n.kind ≠ .text) :
    markupSpans (n :: ns) = n.span :: markupSpans ns := by
  obtain ⟨-, hshape⟩ := token
  revert hshape
  cases hkind : n.kind <;> simp_all [markupSpans]

/-- The spans of the nodes from an offset on do not reach back before it. -/
theorem IsTokenizationFrom.not_holds (h : IsTokenizationFrom s pos ns) :
    ∀ span ∈ markupSpans ns, ∀ p : Nat, p < pos → ¬ span.Holds p := by
  intro span hspan p hp hheld
  obtain ⟨m, hm, rfl⟩ := List.mem_map.1 hspan
  obtain ⟨a, b, hab, hle, -, -⟩ := h.bounds m (List.mem_filter.1 hm).1
  rw [hab] at hheld
  have := hheld.1
  dsimp only at this
  omega

/-- What the nodes of a tokenization hold is the text without its tags and comments. -/
theorem IsTokenizationFrom.textOfAll_eq (h : IsTokenizationFrom s pos ns) :
    Node.textOfAll ns = Text.outside pos (s.drop pos) (markupSpans ns) := by
  induction ns generalizing pos with
  | nil =>
      have hend : (pos : Int) = s.length := h.tiles
      rw [List.drop_eq_nil_of_le (by omega)]
      rfl
  | cons n ns ih =>
      obtain ⟨stop, hspan, hlt, token, -, rest⟩ := isTokenizationFrom_cons.1 h
      have hstop := rest.tiles.le
      have hs := token.drop_eq hspan (Nat.le_of_lt hlt)
      have hnext : pos + n.source.length = stop := by
        rw [token.1, hspan, Text.length_slice (by omega)]
        omega
      have blocks := token.isBlock_of_mem_children hspan (Nat.le_of_lt hlt) (by omega)
      rw [Node.textOfAll, textOf_of_isBlock blocks, ih rest, hs, Text.outside_append, hnext]
      by_cases hkind : n.kind = .text
      · have here : Text.outside pos n.source (markupSpans ns) = n.source :=
          Text.outside_eq_self fun span hspan p _ hp => rest.not_holds span hspan p (by omega)
        rw [if_pos hkind, markupSpans_cons_text hkind, here]
      · have here : Text.outside pos n.source (n.span :: markupSpans ns) = [] := by
          refine Text.outside_eq_nil (List.mem_cons_self ..) fun p hlo hhi => ?_
          rw [hspan]
          exact ⟨by dsimp only; omega, by dsimp only; omega⟩
        have behind : Text.outside stop (s.drop stop) (n.span :: markupSpans ns) =
            Text.outside stop (s.drop stop) (markupSpans ns) := by
          refine Text.outside_cons fun p hp hheld => ?_
          rw [hspan] at hheld
          have := hheld.2
          dsimp only at this
          omega
        rw [if_neg hkind, token.markupSpans_cons hkind, here, behind]

end Tokenization

/-! ### Documents -/

/-- A property that passes from nodes to their children holds of every node that is visited. -/
theorem Node.forall_mem_walk {P : Node → Prop} (passes : ∀ n, P n → ∀ c ∈ n.children, P c)
    {keep : Node → Bool} {pending : List Node} (h : ∀ n ∈ pending, P n) :
    ∀ n ∈ Node.walk keep pending, P n := by
  have next : ∀ (m : Node) (rest : List Node), (∀ n ∈ m :: rest, P n) →
      ∀ n ∈ m.children ++ rest, P n := by
    intro m rest hall n hn
    rcases List.mem_append.1 hn with hn | hn
    · exact passes m (hall m (by simp)) n hn
    · exact hall n (List.mem_cons_of_mem _ hn)
  fun_induction Node.walk keep pending with
  | case1 => intro n hn; cases hn
  | case2 m rest later hkeep ih =>
      intro n hn
      rcases List.mem_cons.1 hn with rfl | hn
      · exact h n (by simp)
      · exact ih (next m rest h) n hn
  | case3 m rest later hkeep ih => exact ih (next m rest h)

/-- Nothing is lost in reading a template. -/
theorem parse_lossless {s : Text} {path : Option String} {d : Document}
    (h : Document.parse s path = .ok d) : d.Lossless s := by
  have whole : IsTokenizationFrom s 0 d.children := isTokenization_of_parse h
  have blocks : ∀ n ∈ d.children, ∀ c ∈ n.children, IsBlock s c := by
    intro n hn
    obtain ⟨a, b, hspan, -, hab, hb⟩ := whole.bounds n hn
    exact (whole.tokens n hn).isBlock_of_mem_children hspan (Nat.le_of_lt hab) hb
  obtain ⟨ps, -, hd⟩ := Document.parse_eq_ok_iff.1 h
  have hroot : d.root = ⟨.document, ⟨0, s.length⟩, s, d.children⟩ := by rw [hd]; rfl
  refine ⟨?_, whole.tiles, whole.flatMap_source, whole.separated, ?_, ?_, ?_, ?_, ?_, ?_⟩
  · intro n hn
    obtain ⟨-, hshape⟩ := whole.tokens n hn
    revert hshape
    cases n.kind <;> simp
  · intro n hn
    rcases List.mem_cons.1 hn with rfl | hn
    · rw [hroot]
      simp [Text.slice]
    · -- below the root there are tokens and, below these, code blocks
      have visited : IsToken s n ∧ n ∈ d.children ∨ IsBlock s n := by
        refine Node.forall_mem_walk (P := fun n => IsToken s n ∧ n ∈ d.children ∨ IsBlock s n)
          ?_ ?_ n hn
        · rintro m (⟨-, hm⟩ | hm) c hc
          · exact .inr (blocks m hm c hc)
          · rw [hm.leaf] at hc
            cases hc
        · exact fun m hm => .inl ⟨whole.tokens m hm, hm⟩
      rcases visited with hn | hn
      · exact hn.1.1
      · exact hn.source
  · exact fun n hn c hc => ⟨(blocks n hn c hc).kind, (blocks n hn c hc).leaf⟩
  · intro n hn hkind
    obtain ⟨-, hshape⟩ := whole.tokens n hn
    rw [hkind] at hshape
    exact hshape.within
  · intro n hn hkind
    obtain ⟨a, b, hspan, -, hab, hb⟩ := whole.bounds n hn
    exact ((whole.tokens n hn).tag_children hkind hspan (Nat.le_of_lt hab) hb).1
  · intro n hn hkind
    obtain ⟨-, hshape⟩ := whole.tokens n hn
    rw [hkind] at hshape
    exact hshape.2
  · rw [hroot, Node.textOf, if_neg (by simp), whole.textOfAll_eq]
    rfl

/-- A template with a code block in a value, a text run that starts with one, and a comment. -/
def mixedTemplate : Text :=
  "<a b=\"\x7b\x7b t \x7d\x7d\">\x7b\x7b y \x7d\x7d</a>\x7b# c #\x7d".toList

theorem parse_lossless_mixed :
    ∃ d, Document.parse mixedTemplate none = .ok d ∧ d.Lossless mixedTemplate := by
  have hok : (Scan.pieces mixedTemplate).isOk = true := by decide +kernel
  cases hpieces : Scan.pieces mixedTemplate with
  | error m =>
      rw [hpieces] at hok
      cases hok
  | ok ps =>
      have hparse : Document.parse mixedTemplate none = .ok _ :=
        Document.parse_eq_ok_iff.2 ⟨ps, Scan.reads_of_pieces hpieces, rfl⟩
      exact ⟨_, hparse, parse_lossless hparse⟩

end MarkupAudit
