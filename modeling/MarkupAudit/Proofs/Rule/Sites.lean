import MarkupAudit.Proofs.Audit.Merging
import MarkupAudit.Proofs.Rule.Motion
import MarkupAudit.Proofs.Template.Gluing
import MarkupAudit.Proofs.Template.Lossless

/-!
# Where rules find something

A finding has a site: the tag or the code block that offends, and at which the finding starts. No two
of these nodes start at one offset, because the top-level nodes tile the text and the code blocks lie
in them (`IsTokenizationFrom.ascending_places`); a text run may start where its first block starts,
but it is never a site. So a rule that looks at each node once reports each site once, and so does the
rule for links, which goes over a document twice and sorts what it finds. The number that is written
for a rule is the number of nodes that offend (`run_reports`).
-/

namespace MarkupAudit

/-! ### Nodes by where they start -/

/-- Nodes in the order of where they start, no two of them at one offset. -/
def Ascending (ns : List Node) : Prop :=
  ns.Pairwise fun n m => n.span.start < m.span.start

/-- What may be a site in a top-level node: the node itself if it is a tag, and its code blocks. -/
def Node.places (n : Node) : List Node :=
  (if n.kind = .tag then [n] else []) ++ n.children

/-- What may be a site in some top-level nodes. -/
def places (ns : List Node) : List Node :=
  ns.flatMap Node.places

theorem Within.ascending {lo hi : Int} {ns : List Node} (h : Within lo hi ns) : Ascending ns := by
  induction ns generalizing lo with
  | nil => exact .nil
  | cons n ns ih =>
      obtain ⟨-, hlt, hrest⟩ := h
      refine .cons ?_ (ih hrest)
      intro m hm
      have := hrest.bounds m hm
      omega

section Places

variable {s : Text} {n : Node} {ns : List Node}

/-- The code blocks of a token lie in it. -/
theorem IsToken.within {a b : Nat} (token : IsToken s n) (hspan : n.span = ⟨a, b⟩) (hab : a ≤ b)
    (hb : b ≤ s.length) : Within a b n.children := by
  have hshape := token.2
  cases hkind : n.kind with
  | tag =>
      have inner := (token.tag_children hkind hspan hab hb).1
      rw [hspan] at inner
      exact inner.mono (by dsimp only; omega) (by dsimp only; omega)
  | text =>
      rw [hkind] at hshape
      have within := hshape.within
      rwa [hspan] at within
  | comment =>
      rw [hkind] at hshape
      rw [hshape.2]
      show (a : Int) ≤ b
      omega
  | document | code =>
      rw [hkind] at hshape
      exact hshape.elim

theorem IsToken.ascending_places {a b : Nat} (token : IsToken s n) (hspan : n.span = ⟨a, b⟩)
    (hab : a < b) (hb : b ≤ s.length) :
    Ascending n.places ∧ ∀ m ∈ n.places, (a : Int) ≤ m.span.start ∧ m.span.start < b := by
  have within := token.within hspan (Nat.le_of_lt hab) hb
  have inner : ∀ m ∈ n.children, (a : Int) ≤ m.span.start ∧ m.span.start < b := by
    intro m hm
    have := within.bounds m hm
    omega
  unfold Node.places
  by_cases hkind : n.kind = .tag
  · rw [if_pos hkind]
    refine ⟨.cons ?_ within.ascending, ?_⟩
    · -- the first character of a tag is in none of its blocks
      intro m hm
      have := (token.tag_children hkind hspan (Nat.le_of_lt hab) hb).1.bounds m hm
      omega
    · intro m hm
      rcases List.mem_cons.1 hm with rfl | hm
      · rw [hspan]
        dsimp only
        omega
      · exact inner m hm
  · rw [if_neg hkind]
    exact ⟨within.ascending, inner⟩

/-- The tags and code blocks of a tokenization start at different offsets, in document order. -/
theorem IsTokenizationFrom.ascending_places {pos : Nat} (h : IsTokenizationFrom s pos ns) :
    Ascending (MarkupAudit.places ns) ∧ ∀ m ∈ MarkupAudit.places ns, (pos : Int) ≤ m.span.start := by
  induction ns generalizing pos with
  | nil => exact ⟨.nil, by simp [MarkupAudit.places]⟩
  | cons n ns ih =>
      obtain ⟨stop, hspan, hlt, token, -, rest⟩ := isTokenizationFrom_cons.1 h
      have hstop := rest.tiles.le
      obtain ⟨ascending, bounds⟩ := token.ascending_places hspan hlt (by omega)
      obtain ⟨later, behind⟩ := ih rest
      constructor
      · refine List.pairwise_append.2 ⟨ascending, later, ?_⟩
        intro m hm k hk
        have := (bounds m hm).2
        have := behind k hk
        omega
      · intro m hm
        rcases List.mem_append.1 hm with hm | hm
        · exact (bounds m hm).1
        · have := behind m hm
          omega

theorem tags_sublist_places (ns : List Node) :
    (ns.filter (·.kind = .tag)).Sublist (places ns) := by
  induction ns with
  | nil => exact .slnil
  | cons n ns ih =>
      by_cases hkind : n.kind = .tag
      · have hplaces : places (n :: ns) = n :: (n.children ++ places ns) := by
          simp [places, Node.places, hkind]
        rw [List.filter_cons_of_pos (by simpa using hkind), hplaces]
        exact (ih.trans (List.sublist_append_right _ _)).cons_cons n
      · rw [List.filter_cons_of_neg (by simpa using hkind)]
        exact ih.trans (List.sublist_append_right _ _)

theorem blocks_sublist_places (ns : List Node) :
    (ns.flatMap (·.children)).Sublist (places ns) := by
  induction ns with
  | nil => exact .slnil
  | cons n ns ih => exact (List.sublist_append_right _ _).append ih

end Places

/-! ### The nodes of a document -/

theorem Node.walk_all {ns : List Node} (h : ∀ n ∈ ns, n.IsLaid) :
    walk (fun m => (none : Option NodeKind).all (· == m.kind)) ns =
      ns.flatMap fun n => n :: n.children := by
  induction ns with
  | nil => rw [walk]; rfl
  | cons n ns ih =>
      have hn := (h n List.mem_cons_self).blocks
      have hall : n.children.filter (fun m => (none : Option NodeKind).all (· == m.kind)) =
          n.children := List.filter_eq_self.2 fun _ _ => rfl
      rw [walk, walk_blocks hn, hall, ih fun m hm => h m (List.mem_cons_of_mem n hm)]
      rfl

/-- The nodes of a document that was read, as rules go over them. -/
structure Document.Laid (d : Document) : Prop where
  tiles : Tiles 0 d.source.length d.children
  laid : ∀ n ∈ d.children, n.IsLaid
  ascending : Ascending (places d.children)
  blocks : ∀ n ∈ d.children, ∀ b ∈ n.children,
    n.span.start ≤ b.span.start ∧ b.span.start < b.span.stop ∧ b.span.stop ≤ n.span.stop

theorem Document.laid_of_parse {s : Text} {path : Option String} {d : Document}
    (h : Document.parse s path = .ok d) : d.Laid := by
  have hsource : d.source = s := by
    obtain ⟨ps, -, rfl⟩ := Document.parse_eq_ok_iff.1 h
    rfl
  have whole : IsTokenizationFrom d.source 0 d.children := hsource ▸ isTokenization_of_parse h
  refine ⟨whole.tiles, ?_, whole.ascending_places.1, ?_⟩
  · intro n hn
    obtain ⟨a, b, hspan, -, hab, hb⟩ := whole.bounds n hn
    have token := whole.tokens n hn
    have blocks := token.isBlock_of_mem_children hspan (Nat.le_of_lt hab) hb
    refine ⟨?_, fun c hc => ⟨(blocks c hc).kind, (blocks c hc).leaf⟩⟩
    obtain ⟨-, hshape⟩ := token
    revert hshape
    cases n.kind <;> simp
  · intro n hn
    obtain ⟨a, b, hspan, -, hab, hb⟩ := whole.bounds n hn
    intro c hc
    have := ((whole.tokens n hn).within hspan (Nat.le_of_lt hab) hb).bounds c hc
    rw [hspan]
    exact this

/-! ### Findings and their sites -/

/-- A finding at a node: it starts where the node starts, it is not empty, and it lies in the text. -/
structure Finding.IsAt (s : Text) (f : Finding) (n : Node) : Prop where
  start : f.span.start = n.span.start
  nonneg : 0 ≤ f.span.start
  nonempty : f.span.start < f.span.stop
  inside : f.span.stop ≤ s.length

/-- Findings at the offending ones among some nodes, one at each of them and in their order. -/
structure Locates (s : Text) (nodes : List Node) (offends : Node → Prop) (fs : List Finding)
    (sites : List Node) : Prop where
  sublist : sites.Sublist nodes
  each : List.Forall₂ (Finding.IsAt s) fs sites
  all : ∀ n, n ∈ sites ↔ offends n

section Locates

variable {s : Text} {nodes sites : List Node} {offends offends' : Node → Prop} {fs : List Finding}
  {n : Node} {f : Finding}

theorem Locates.cons_site (h : Locates s nodes offends fs sites) (hf : f.IsAt s n)
    (hoffends : ∀ m, offends' m ↔ m = n ∨ offends m) :
    Locates s (n :: nodes) offends' (f :: fs) (n :: sites) where
  sublist := h.sublist.cons_cons n
  each := .cons hf h.each
  all := fun m => by rw [List.mem_cons, h.all, hoffends]

theorem Locates.cons_other (h : Locates s nodes offends fs sites)
    (hoffends : ∀ m, offends' m ↔ offends m) : Locates s (n :: nodes) offends' fs sites where
  sublist := h.sublist.cons n
  each := h.each
  all := fun m => by rw [h.all, hoffends]

/-- What is found at a single node: a finding at it if it offends, else nothing. -/
def FoundAt (s : Text) (offends : Prop) (n : Node) (fs : List Finding) : Prop :=
  offends ∧ (∃ f, fs = [f] ∧ f.IsAt s n) ∨ ¬ offends ∧ fs = []

/-- A node before others, each of which offends or not whatever the others are. -/
theorem Locates.cons {found : List Finding}
    (h : Locates s nodes (fun m => m ∈ nodes ∧ offends m) fs sites)
    (hn : FoundAt s (offends n) n found) :
    ∃ sites', Locates s (n :: nodes) (fun m => m ∈ n :: nodes ∧ offends m) (found ++ fs) sites' := by
  rcases hn with ⟨hoffends, f, rfl, hf⟩ | ⟨hoffends, rfl⟩
  · refine ⟨n :: sites, h.cons_site hf fun m => ?_⟩
    rw [List.mem_cons, or_and_right]
    refine or_congr_left (and_iff_left_of_imp ?_)
    rintro rfl
    exact hoffends
  · refine ⟨sites, h.cons_other fun m => ?_⟩
    rw [List.mem_cons, or_and_right]
    refine or_iff_right ?_
    rintro ⟨rfl, hm⟩
    exact hoffends hm

theorem locates_nil : Locates s [] (fun m => m ∈ [] ∧ offends m) [] [] :=
  ⟨.slnil, .nil, by simp⟩

/-- Findings that are gathered node by node. -/
theorem exists_locates_of_gather {find : Node → Except RuleError (List Finding)}
    (hfind : ∀ n ∈ nodes, ∀ found, find n = .ok found → FoundAt s (offends n) n found)
    (h : Rule.gather find nodes = .ok fs) :
    ∃ sites, Locates s nodes (fun m => m ∈ nodes ∧ offends m) fs sites := by
  induction nodes generalizing fs with
  | nil =>
      cases h
      exact ⟨[], locates_nil⟩
  | cons n nodes ih =>
      obtain ⟨found, rest, hfound, hrest, rfl⟩ := Rule.gather_cons_eq_ok_iff.1 h
      obtain ⟨hn, later⟩ := List.forall_mem_cons.1 hfind
      obtain ⟨sites, located⟩ := ih later hrest
      exact located.cons (hn found hfound)

end Locates

/-! ### What offends -/

/-- A tag is read from a tag node, and stands where the node stands. -/
theorem Tag.of_ofNode {n : Node} {t : Tag} (h : Tag.ofNode n = .ok t) :
    n.kind = .tag ∧ t.span = n.span := by
  unfold Tag.ofNode at h
  split at h
  · cases h
  · rename_i hkind
    refine ⟨not_not.1 hkind, ?_⟩
    dsimp only at h
    split at h
    · cases h
      rfl
    · split at h
      · cases h
      · split at h
        · cases h
        · cases h
          rfl

/-- A tag that offends the rule for frames. -/
def FrameTitle.Offends (n : Node) : Prop :=
  ∃ t, Tag.ofNode n = .ok t ∧ FrameTitle.isUntitled t = .ok true

/-- A tag that offends the rule for titles. -/
def TitleAttribute.Offends (n : Node) : Prop :=
  ∃ t, Tag.ofNode n = .ok t ∧ TitleAttribute.isTitled t = true

namespace LinkText

/-- A tag, a text run and a tag that make up a link with a generic text and no other name. -/
def IsGenericMarkup (n run closing : Node) : Prop :=
  ∃ t u, Tag.ofNode n = .ok t ∧ Tag.ofNode closing = .ok u ∧ t.opens ['a'] = true ∧
    u.closes ['a'] = true ∧ run.kind = .text ∧ isGeneric (Text.trim run.text) = true ∧
    hasName t (Text.trim run.text) = .ok false

/-- A tag that opens such a link among sibling nodes. -/
def OpensGeneric (ns : List Node) (n : Node) : Prop :=
  ∃ run closing, [n, run, closing] <:+: ns ∧ IsGenericMarkup n run closing

/-- A code block that writes such a link. -/
def CallsGeneric (n : Node) : Prop :=
  ∃ code e, n.output? = some code ∧ Expr.parse code = .ok (some e) ∧ isGenericLink e = true

end LinkText

/-- The nodes of a document that offend a rule of the library. -/
def Origin.Offends (d : Document) (n : Node) : Origin → Prop
  | .linkText => LinkText.OpensGeneric d.children n ∨ LinkText.CallsGeneric n
  | .frameTitle => FrameTitle.Offends n
  | .titleAttribute => TitleAttribute.Offends n
  | .custom _ => False

/-! ### The findings of each rule -/

/-- A node that is not empty and lies in a text. -/
structure Node.Inside (s : Text) (n : Node) : Prop where
  nonneg : 0 ≤ n.span.start
  nonempty : n.span.start < n.span.stop
  inside : n.span.stop ≤ s.length

theorem Node.Inside.isAt {s : Text} {n : Node} (h : n.Inside s) (id message : String) :
    (Rule.finding id message n.span).IsAt s n :=
  ⟨rfl, h.nonneg, h.nonempty, h.inside⟩

section EachRule

variable {s : Text} {n : Node} {nodes : List Node} {found fs : List Finding}

theorem FrameTitle.foundAt (inside : n.Inside s) (h : FrameTitle.inTag n = .ok found) :
    FoundAt s (FrameTitle.Offends n) n found := by
  unfold FrameTitle.inTag at h
  cases htag : Tag.ofNode n with
  | error e =>
      rw [htag] at h
      cases h
  | ok t =>
      rw [htag] at h
      dsimp only at h
      cases huntitled : FrameTitle.isUntitled t with
      | error f =>
          rw [huntitled] at h
          cases h
      | ok untitled =>
          rw [huntitled] at h
          cases untitled with
          | true =>
              cases h
              refine .inl ⟨⟨t, htag, huntitled⟩, _, rfl, ?_⟩
              rw [(Tag.of_ofNode htag).2]
              exact inside.isAt _ _
          | false =>
              cases h
              refine .inr ⟨?_, rfl⟩
              rintro ⟨u, hu, huntitled'⟩
              rw [htag] at hu
              cases hu
              rw [huntitled] at huntitled'
              cases huntitled'

theorem TitleAttribute.exists_locates {ts : List Tag} (inside : ∀ n ∈ nodes, n.Inside s)
    (h : Tag.ofNodes nodes = .ok ts) :
    ∃ sites, Locates s nodes (fun m => m ∈ nodes ∧ TitleAttribute.Offends m)
      ((ts.filter TitleAttribute.isTitled).map fun t =>
        Rule.finding TitleAttribute.id TitleAttribute.message t.span) sites := by
  induction nodes generalizing ts with
  | nil =>
      cases h
      exact ⟨[], locates_nil⟩
  | cons n nodes ih =>
      obtain ⟨t, rest, htag, hrest, rfl⟩ := Tag.ofNodes_cons_eq_ok_iff.1 h
      obtain ⟨here, later⟩ := List.forall_mem_cons.1 inside
      obtain ⟨sites, located⟩ := ih later hrest
      by_cases htitled : TitleAttribute.isTitled t = true
      · rw [List.filter_cons_of_pos htitled, List.map_cons, (Tag.of_ofNode htag).2]
        exact located.cons (.inl ⟨⟨t, htag, htitled⟩, _, rfl, here.isAt _ _⟩)
      · rw [List.filter_cons_of_neg htitled]
        refine located.cons (.inr ⟨?_, rfl⟩)
        rintro ⟨u, hu, htitled'⟩
        rw [htag] at hu
        cases hu
        exact htitled htitled'

namespace LinkText

theorem foundAt_inBlock (inside : n.Inside s) (h : inBlock n = .ok found) :
    FoundAt s (CallsGeneric n) n found := by
  unfold inBlock at h
  cases hcode : n.output? with
  | none =>
      rw [hcode] at h
      cases h
      refine .inr ⟨?_, rfl⟩
      rintro ⟨code, e, hcode', -⟩
      rw [hcode] at hcode'
      cases hcode'
  | some code =>
      rw [hcode] at h
      dsimp only at h
      cases hparse : Expr.parse code with
      | error f =>
          rw [hparse] at h
          cases h
      | ok e? =>
          rw [hparse] at h
          by_cases hgeneric : (e?.map isGenericLink).getD false = true
          · simp only [hgeneric, if_true] at h
            cases h
            cases e? with
            | none => cases hgeneric
            | some e => exact .inl ⟨⟨code, e, hcode, hparse, hgeneric⟩, _, rfl, inside.isAt _ _⟩
          · simp only [hgeneric] at h
            cases h
            refine .inr ⟨?_, rfl⟩
            rintro ⟨code', e, hcode', hparse', hlink⟩
            rw [hcode] at hcode'
            cases hcode'
            rw [hparse] at hparse'
            cases hparse'
            exact hgeneric hlink

theorem tag?_eq_some_iff {p : Option Node} {t : Tag} :
    tag? p = .ok (some t) ↔ ∃ n, p = some n ∧ Tag.ofNode n = .ok t := by
  cases p with
  | none => simp [tag?]
  | some n =>
      by_cases hkind : n.kind = .tag
      · simp [tag?, hkind, map_eq_ok_iff]
      · have hnot : Tag.ofNode n ≠ .ok t := fun h => hkind (Tag.of_ofNode h).1
        simp [tag?, hkind, hnot]

/-- A generic link gives a finding from the start of its tag to the end of its text. -/
theorem inMarkup_of_isGenericMarkup {run closing : Node} (h : IsGenericMarkup n run closing) :
    inMarkup (some n) (some closing) run =
      .ok [Rule.finding id message ⟨n.span.start, run.span.stop⟩] := by
  obtain ⟨t, u, ht, hu, opens, closes, hkind, hgeneric, unnamed⟩ := h
  have hprevious : tag? (some n) = .ok (some t) := tag?_eq_some_iff.2 ⟨n, rfl, ht⟩
  have hfollowing : tag? (some closing) = .ok (some u) := tag?_eq_some_iff.2 ⟨closing, rfl, hu⟩
  simp [inMarkup, hkind, hgeneric, hprevious, hfollowing, opens, closes, unnamed,
    (Tag.of_ofNode ht).2]

/-- Nothing else gives a finding. -/
theorem exists_isGenericMarkup {p q : Option Node} {run : Node} (h : inMarkup p q run = .ok fs)
    (hne : fs ≠ []) :
    ∃ n closing, p = some n ∧ q = some closing ∧ IsGenericMarkup n run closing := by
  unfold inMarkup at h
  dsimp only at h
  split at h
  · rename_i hgeneric
    simp only [Bool.and_eq_true, decide_eq_true_eq] at hgeneric
    split at h
    · cases h
    · cases h
    · rename_i t u hprevious hfollowing
      obtain ⟨n, rfl, ht⟩ := tag?_eq_some_iff.1 hprevious
      obtain ⟨closing, rfl, hu⟩ := tag?_eq_some_iff.1 hfollowing
      split at h
      · rename_i hlink
        rw [Bool.and_eq_true] at hlink
        split at h
        · cases h
        · rename_i named hnamed
          cases named with
          | true =>
              cases h
              exact absurd rfl hne
          | false =>
              exact ⟨n, closing, rfl, rfl, t, u, ht, hu, hlink.1, hlink.2, hgeneric.1, hgeneric.2,
                hnamed⟩
      · cases h
        exact absurd rfl hne
    · cases h
      exact absurd rfl hne
  · cases h
    exact absurd rfl hne

theorem infix_of_head? {q closing : Node} (h : nodes.head? = some closing) :
    [q, n, closing] <:+: q :: n :: nodes := by
  refine List.infix_cons_iff.2 (.inl ⟨nodes.tail, ?_⟩)
  rw [← List.cons_head?_tail h]
  rfl

/-- The first of some sibling nodes opens a generic link with the next two, or a later one does. -/
theorem opensGeneric_cons_cons {q m : Node} :
    OpensGeneric (q :: n :: nodes) m ↔
      m = q ∧ (∃ closing, nodes.head? = some closing ∧ IsGenericMarkup q n closing) ∨
        OpensGeneric (n :: nodes) m := by
  constructor
  · rintro ⟨run, closing, hwindow, generic⟩
    rcases List.infix_cons_iff.1 hwindow with hstart | hlater
    · obtain ⟨rfl, hnext⟩ := List.cons_prefix_cons.1 hstart
      obtain ⟨rfl, rest, rfl⟩ := List.cons_prefix_cons.1 hnext
      exact .inl ⟨rfl, closing, rfl, generic⟩
    · exact .inr ⟨run, closing, hlater, generic⟩
  · rintro (⟨rfl, closing, hhead, generic⟩ | ⟨run, closing, hwindow, generic⟩)
    · exact ⟨n, closing, infix_of_head? hhead, generic⟩
    · exact ⟨run, closing, List.infix_cons_iff.2 (.inr hwindow), generic⟩

theorem not_opensGeneric_toList {p : Option Node} {m : Node} : ¬ OpensGeneric p.toList m := by
  rintro ⟨run, closing, hwindow, -⟩
  have hlength := hwindow.length_le
  cases p <;> simp at hlength

/-- The findings among sibling nodes are at the tags that open generic links. -/
theorem exists_locates_inSiblings {p : Option Node}
    (inside : ∀ n run closing, [n, run, closing] <:+: p.toList ++ nodes →
      0 ≤ n.span.start ∧ n.span.start < run.span.stop ∧ run.span.stop ≤ s.length)
    (h : inSiblings p nodes = .ok fs) :
    ∃ sites, Locates s (p.toList ++ nodes) (OpensGeneric (p.toList ++ nodes)) fs sites := by
  -- by the nodes; the previous node is the first of those that may open a link
  induction nodes generalizing p fs with
  | nil =>
      cases h
      refine ⟨[], List.nil_sublist _, .nil, fun m => ?_⟩
      rw [List.append_nil]
      simp [not_opensGeneric_toList]
  | cons n nodes ih =>
      obtain ⟨found, rest, hfound, hrest, rfl⟩ := inSiblings_cons_eq_ok_iff.1 h
      cases p with
      | none =>
          have hnil : found = [] := by
            by_contra hne
            obtain ⟨m, -, hm, -⟩ := exists_isGenericMarkup hfound hne
            cases hm
          subst hnil
          exact ih inside hrest
      | some q =>
          have later : ∀ m run closing, [m, run, closing] <:+: n :: nodes →
              0 ≤ m.span.start ∧ m.span.start < run.span.stop ∧ run.span.stop ≤ s.length :=
            fun m run closing hm => inside m run closing (List.infix_cons_iff.2 (.inr hm))
          obtain ⟨sites, located⟩ := ih (p := some n) later hrest
          by_cases hgeneric : ∃ closing, nodes.head? = some closing ∧ IsGenericMarkup q n closing
          · obtain ⟨closing, hhead, generic⟩ := hgeneric
            rw [hhead, inMarkup_of_isGenericMarkup generic] at hfound
            cases hfound
            obtain ⟨nonneg, nonempty, hstop⟩ := inside q n closing (infix_of_head? hhead)
            refine ⟨q :: sites, located.cons_site ⟨rfl, nonneg, nonempty, hstop⟩ fun m => ?_⟩
            refine opensGeneric_cons_cons.trans (or_congr_left (and_iff_left ?_))
            exact ⟨closing, hhead, generic⟩
          · have hnil : found = [] := by
              by_contra hne
              obtain ⟨m, closing, hm, hclosing, generic⟩ := exists_isGenericMarkup hfound hne
              cases hm
              exact hgeneric ⟨closing, hclosing, generic⟩
            subst hnil
            refine ⟨sites, located.cons_other fun m => ?_⟩
            exact opensGeneric_cons_cons.trans (or_iff_right fun hm => hgeneric hm.2)

end LinkText

end EachRule

/-! ### Sorted findings -/

/-- Nodes sorted by where they start. -/
def sortNodes (ns : List Node) : List Node :=
  ns.mergeSort fun n m => decide (n.span.start ≤ m.span.start)

theorem mem_sortNodes {n : Node} {ns : List Node} : n ∈ sortNodes ns ↔ n ∈ ns :=
  (List.mergeSort_perm ns _).mem_iff

theorem Ascending.sublist {ns ms : List Node} (h : Ascending ns) (hms : ms.Sublist ns) :
    Ascending ms :=
  List.Pairwise.sublist hms h

theorem Ascending.nodup_starts {ns : List Node} (h : Ascending ns) :
    (ns.map (·.span.start)).Nodup :=
  List.pairwise_map.2 (h.imp fun hlt => Int.ne_of_lt hlt)

/-- Nodes that start at different offsets are in ascending order once they are sorted. -/
theorem ascending_sortNodes {ns : List Node} (h : (ns.map (·.span.start)).Nodup) :
    Ascending (sortNodes ns) := by
  have sorted : (sortNodes ns).Pairwise fun n m => decide (n.span.start ≤ m.span.start) = true := by
    refine List.pairwise_mergeSort ?_ ?_ ns
    · intro a b c hab hbc
      exact decide_eq_true (Int.le_trans (of_decide_eq_true hab) (of_decide_eq_true hbc))
    · intro a b
      rw [Bool.or_eq_true, decide_eq_true_eq, decide_eq_true_eq]
      exact Int.le_total _ _
  have distinct : ((sortNodes ns).map (·.span.start)).Nodup :=
    ((List.mergeSort_perm ns _).map _).nodup_iff.2 h
  refine (sorted.and (List.pairwise_map.1 distinct)).imp fun hboth => ?_
  have hle := of_decide_eq_true hboth.1
  have hne := hboth.2
  omega

/-- Findings and their sites stay side by side when both are sorted. -/
theorem forall₂_isAt_sort {s : Text} {fs : List Finding} {sites : List Node}
    (h : List.Forall₂ (Finding.IsAt s) fs sites) :
    List.Forall₂ (Finding.IsAt s) (Finding.sort fs) (sortNodes sites) := by
  obtain ⟨hlength, hat⟩ := List.forall₂_iff_zip.1 h
  -- both are sorted as the pairs are
  let pairs := (fs.zip sites).mergeSort fun a b => decide (a.1.span.start ≤ b.1.span.start)
  have hfindings : pairs.map (·.1) = ((fs.zip sites).map (·.1)).mergeSort
      fun f g => decide (f.span.start ≤ g.span.start) :=
    List.map_mergeSort fun _ _ _ _ => rfl
  have hnodes : pairs.map (·.2) = ((fs.zip sites).map (·.2)).mergeSort
      fun n m => decide (n.span.start ≤ m.span.start) := by
    refine List.map_mergeSort fun a ha b hb => ?_
    rw [(hat ha).start, (hat hb).start]
  rw [List.map_fst_zip (Nat.le_of_eq hlength)] at hfindings
  rw [List.map_snd_zip (Nat.le_of_eq hlength.symm)] at hnodes
  rw [Finding.sort, sortNodes, ← hfindings, ← hnodes, List.forall₂_map_left_iff,
    List.forall₂_map_right_iff, List.forall₂_same]
  exact fun a ha => hat ((List.mergeSort_perm _ _).mem_iff.1 ha)

/-! ### Reports -/

/-- What a rule of the library reports of a document: a finding at each node that offends, in document
order and no two at one offset. A correction writes the number of these nodes. -/
structure Reports (r : Registration) (d : Document) (fs : List Finding) (sites : List Node) :
    Prop where
  offending : ∀ n, n ∈ sites ↔ n ∈ d.descendants none ∧ r.origin.Offends d n
  kinds : ∀ n ∈ sites, n.kind = .tag ∨ n.isOutput = true
  distinct : sites.Nodup
  each : List.Forall₂ (Finding.IsAt d.source) fs sites
  ascending : fs.Pairwise fun f g => f.span.start < g.span.start
  counted : ∀ config result c, Engine.runRule ⟨r.rule, config⟩ d = .ok result →
    result.correction = some c → c.rule = r.rule.id ∧ IsEntry d.source (fun _ => sites.length) c

section Reports

variable {d : Document} {fs : List Finding} {n : Node}

theorem Document.Laid.mem_descendants_iff (h : d.Laid) :
    n ∈ d.descendants none ↔ ∃ m ∈ d.children, n = m ∨ n ∈ m.children := by
  have hwalk : d.descendants none = d.children.flatMap fun n => n :: n.children :=
    Node.walk_all h.laid
  simp only [hwalk, List.mem_flatMap, List.mem_cons]

theorem Document.Laid.mem_children_of_kind (h : d.Laid) (hn : n ∈ d.descendants none)
    (hkind : n.kind = .tag) : n ∈ d.children := by
  obtain ⟨m, hm, rfl | hblock⟩ := h.mem_descendants_iff.1 hn
  · exact hm
  · rw [((h.laid m hm).blocks n hblock).1] at hkind
    cases hkind

theorem Document.Laid.mem_blocks_of_kind (h : d.Laid) (hn : n ∈ d.descendants none)
    (hkind : n.kind = .code) : n ∈ d.children.flatMap (·.children) := by
  obtain ⟨m, hm, rfl | hblock⟩ := h.mem_descendants_iff.1 hn
  · rcases (h.laid n hm).kind with h | h | h <;> rw [h] at hkind <;> cases hkind
  · exact List.mem_flatMap.2 ⟨m, hm, hblock⟩

theorem Document.Laid.inside (h : d.Laid) (hn : n ∈ d.descendants none) : n.Inside d.source := by
  obtain ⟨m, hm, rfl | hblock⟩ := h.mem_descendants_iff.1 hn
  · obtain ⟨nonneg, nonempty, inside⟩ := h.tiles.bounds n hm
    exact ⟨nonneg, nonempty, inside⟩
  · have := h.tiles.bounds m hm
    have := h.blocks m hm n hblock
    exact ⟨by omega, by omega, by omega⟩

theorem Document.Laid.tags_eq (h : d.Laid) :
    d.descendants (some .tag) = d.children.filter (·.kind = .tag) :=
  Node.walk_tag h.laid

theorem Document.Laid.blocks_eq (h : d.Laid) :
    d.descendants (some .code) = d.children.flatMap (·.children) :=
  Node.walk_code h.laid

theorem Document.Laid.mem_tags_iff (h : d.Laid) :
    n ∈ d.descendants (some .tag) ↔ n ∈ d.descendants none ∧ n.kind = .tag := by
  rw [h.tags_eq, List.mem_filter, decide_eq_true_eq]
  refine and_congr_left fun hkind => ⟨fun hn => ?_, fun hn => h.mem_children_of_kind hn hkind⟩
  exact h.mem_descendants_iff.2 ⟨n, hn, .inl rfl⟩

theorem Document.Laid.mem_code_iff (h : d.Laid) :
    n ∈ d.descendants (some .code) ↔ n ∈ d.descendants none ∧ n.kind = .code := by
  rw [h.blocks_eq]
  constructor
  · intro hn
    obtain ⟨m, hm, hblock⟩ := List.mem_flatMap.1 hn
    exact ⟨h.mem_descendants_iff.2 ⟨m, hm, .inr hblock⟩, ((h.laid m hm).blocks n hblock).1⟩
  · rintro ⟨hn, hkind⟩
    exact h.mem_blocks_of_kind hn hkind

theorem FrameTitle.Offends.kind (h : FrameTitle.Offends n) : n.kind = .tag := by
  obtain ⟨t, htag, -⟩ := h
  exact (Tag.of_ofNode htag).1

theorem TitleAttribute.Offends.kind (h : TitleAttribute.Offends n) : n.kind = .tag := by
  obtain ⟨t, htag, -⟩ := h
  exact (Tag.of_ofNode htag).1

theorem LinkText.OpensGeneric.kind {ns : List Node} (h : LinkText.OpensGeneric ns n) :
    n.kind = .tag := by
  obtain ⟨-, -, -, t, -, htag, -⟩ := h
  exact (Tag.of_ofNode htag).1

theorem LinkText.CallsGeneric.isOutput (h : LinkText.CallsGeneric n) : n.isOutput = true := by
  obtain ⟨code, -, hcode, -⟩ := h
  unfold Node.output? at hcode
  split at hcode
  · assumption
  · cases hcode

theorem Node.kind_of_isOutput (h : n.isOutput = true) : n.kind = .code := by
  unfold Node.isOutput Node.indicator at h
  by_contra hkind
  rw [if_neg hkind] at h
  cases h

/-- The nodes that offend a rule are tags and code blocks whose value is written. -/
theorem Origin.Offends.kinds {o : Origin} (h : o.Offends d n) :
    n.kind = .tag ∨ n.isOutput = true := by
  cases o with
  | linkText =>
      rcases h with h | h
      · exact .inl h.kind
      · exact .inr h.isOutput
  | frameTitle => exact .inl (FrameTitle.Offends.kind h)
  | titleAttribute => exact .inl (TitleAttribute.Offends.kind h)
  | custom => exact h.elim

/-- Three nodes in a row: the first starts before the second ends. -/
theorem Tiles.window {lo hi : Int} {ns : List Node} {run closing : Node} (h : Tiles lo hi ns)
    (hwindow : [n, run, closing] <:+: ns) :
    lo ≤ n.span.start ∧ n.span.start < run.span.stop ∧ run.span.stop ≤ hi := by
  obtain ⟨front, back, rfl⟩ := hwindow
  obtain ⟨stop, hupto, hback⟩ := tiles_append.1 h
  obtain ⟨start, hfront, hstart, hlt, hnext, hlt', hclosing⟩ := tiles_append.1 hupto
  have := hfront.le
  have := hclosing.le
  have := hback.le
  omega

/-- What a rule finds and the nodes that offend it. -/
structure Sited (d : Document) (offends : Node → Prop) (fs : List Finding) (sites : List Node) :
    Prop where
  ascending : Ascending sites
  each : List.Forall₂ (Finding.IsAt d.source) fs sites
  all : ∀ n, n ∈ sites ↔ n ∈ d.descendants none ∧ offends n

/-- The findings at tags are in the order of the tags. -/
theorem Locates.sited {offends : Node → Prop} {sites : List Node} (h : d.Laid)
    (hkind : ∀ n, offends n → n.kind = .tag)
    (located : Locates d.source (d.descendants (some .tag))
      (fun m => m ∈ d.descendants (some .tag) ∧ offends m) fs sites) :
    Sited d offends fs sites := by
  refine ⟨?_, located.each, fun n => ?_⟩
  · rw [h.tags_eq] at located
    exact h.ascending.sublist (located.sublist.trans (tags_sublist_places _))
  · rw [located.all, h.mem_tags_iff, and_assoc]
    exact and_congr_right fun _ => and_iff_right_of_imp (hkind n)

theorem FrameTitle.exists_sited (h : d.Laid) (hrun : FrameTitle.run d = .ok fs) :
    ∃ sites, Sited d FrameTitle.Offends fs sites := by
  have hfind : ∀ n ∈ d.descendants (some .tag), ∀ found, FrameTitle.inTag n = .ok found →
      FoundAt d.source (FrameTitle.Offends n) n found :=
    fun n hn found => FrameTitle.foundAt (h.inside (h.mem_tags_iff.1 hn).1)
  obtain ⟨sites, located⟩ := exists_locates_of_gather hfind hrun
  exact ⟨sites, located.sited h fun n => FrameTitle.Offends.kind⟩

theorem TitleAttribute.exists_sited (h : d.Laid) (hrun : TitleAttribute.run d = .ok fs) :
    ∃ sites, Sited d TitleAttribute.Offends fs sites := by
  obtain ⟨ts, htags, rfl⟩ := TitleAttribute.run_eq_ok_iff.1 hrun
  have inside : ∀ n ∈ d.descendants (some .tag), n.Inside d.source :=
    fun n hn => h.inside (h.mem_tags_iff.1 hn).1
  obtain ⟨sites, located⟩ := TitleAttribute.exists_locates inside htags
  exact ⟨sites, located.sited h fun n => TitleAttribute.Offends.kind⟩

/-- The rule for links goes over the siblings and then over the code blocks. The tags and the blocks
that offend start at different offsets, so sorting leaves no two findings at one. -/
theorem LinkText.exists_sited (h : d.Laid) (hrun : LinkText.run d = .ok fs) :
    ∃ sites, Sited d (fun n => LinkText.OpensGeneric d.children n ∨ LinkText.CallsGeneric n)
      fs sites := by
  obtain ⟨links, calls, hlinks, hcalls, rfl⟩ := LinkText.run_eq_ok_iff.1 hrun
  obtain ⟨opening, openings⟩ : ∃ opening,
      Locates d.source d.children (LinkText.OpensGeneric d.children) links opening :=
    LinkText.exists_locates_inSiblings (p := none) (fun n run closing => h.tiles.window) hlinks
  have hfind : ∀ n ∈ d.descendants (some .code), ∀ found, LinkText.inBlock n = .ok found →
      FoundAt d.source (LinkText.CallsGeneric n) n found :=
    fun n hn found => LinkText.foundAt_inBlock (h.inside (h.mem_code_iff.1 hn).1)
  obtain ⟨calling, callings⟩ := exists_locates_of_gather hfind hcalls
  have hopening : opening.Sublist (places d.children) := by
    have tags := openings.sublist.filter (·.kind = .tag)
    rw [List.filter_eq_self.2 fun n hn => decide_eq_true ((openings.all n).1 hn).kind] at tags
    exact tags.trans (tags_sublist_places _)
  have hcalling : calling.Sublist (places d.children) := by
    have blocks := callings.sublist
    rw [h.blocks_eq] at blocks
    exact blocks.trans (blocks_sublist_places _)
  have distinct : ((opening ++ calling).map (·.span.start)).Nodup := by
    rw [List.map_append, List.nodup_append]
    refine ⟨(h.ascending.sublist hopening).nodup_starts,
      (h.ascending.sublist hcalling).nodup_starts, ?_⟩
    intro a ha b hb hab
    obtain ⟨n, hn, rfl⟩ := List.mem_map.1 ha
    obtain ⟨m, hm, rfl⟩ := List.mem_map.1 hb
    have hsame : n = m := List.inj_on_of_nodup_map h.ascending.nodup_starts (hopening.subset hn)
      (hcalling.subset hm) hab
    have htag : n.kind = .tag := ((openings.all n).1 hn).kind
    have hcode : m.kind = .code := (h.mem_code_iff.1 ((callings.all m).1 hm).1).2
    rw [hsame, hcode] at htag
    cases htag
  refine ⟨sortNodes (opening ++ calling), ascending_sortNodes distinct,
    forall₂_isAt_sort (List.rel_append openings.each callings.each), fun n => ?_⟩
  rw [mem_sortNodes, List.mem_append, openings.all, callings.all, h.mem_code_iff, and_or_left]
  refine or_congr ⟨fun hn => ⟨?_, hn⟩, fun hn => hn.2⟩ ?_
  · exact h.mem_descendants_iff.2 ⟨n, openings.sublist.subset ((openings.all n).2 hn), .inl rfl⟩
  · rw [and_assoc]
    exact and_congr_right fun _ => and_iff_right_of_imp fun hn => Node.kind_of_isOutput hn.isOutput

theorem exists_sited {r : Registration} (hr : r ∈ shippedRules) (h : d.Laid)
    (hrun : r.rule.run d = .ok fs) : ∃ sites, Sited d (fun n => r.origin.Offends d n) fs sites := by
  simp only [shippedRules, List.mem_cons, List.not_mem_nil, or_false] at hr
  rcases hr with rfl | rfl | rfl
  · exact LinkText.exists_sited h hrun
  · exact FrameTitle.exists_sited h hrun
  · exact TitleAttribute.exists_sited h hrun

end Reports

/-- What a rule of the library reports of a text that was read. Its findings lie in the text, none of
them is empty, and they start one after another: each at the begin of a tag or of a block whose value
is written, one for each such node that offends. The number that a correction writes for the rule is
the number of these nodes. -/
theorem run_reports {r : Registration} (hr : r ∈ shippedRules) {s : Text} {path : Option String}
    {d : Document} (hparse : Document.parse s path = .ok d) {fs : List Finding}
    (hrun : r.rule.run d = .ok fs) : ∃ sites, Reports r d fs sites := by
  obtain ⟨sites, ascending, each, all⟩ := exists_sited hr (Document.laid_of_parse hparse) hrun
  refine ⟨sites, all, fun n hn => ((all n).1 hn).2.kinds, ?_, each, ?_, ?_⟩
  · exact ascending.imp fun hlt heq => by rw [heq] at hlt; omega
  · have hstarts : fs.map (·.span.start) = sites.map (·.span.start) := by
      rw [← List.forall₂_eq_eq_eq, List.forall₂_map_left_iff, List.forall₂_map_right_iff]
      exact each.imp fun f n hat => hat.start
    rw [← List.pairwise_map (R := (· < ·)), hstarts, List.pairwise_map]
    exact ascending
  · intro config result c hresult hc
    refine isEntry_of_runRule (r := ⟨r.rule, config⟩) (fun raw hraw => ?_) hresult hc
    have hsame : raw = fs := Except.ok.inj (hraw.symm.trans hrun)
    rw [hsame, each.length_eq]

/-- A generic link whose target is written by a call that writes another one. -/
def linkInLink : Text :=
  "<a href=\"\x7b\x7b link_to('More') \x7d\x7d\">More</a>".toList

theorem run_reports_linkInLink :
    ∃ d sites, Document.parse linkInLink none = .ok d ∧
      LinkText.run d = .ok [Rule.finding LinkText.id LinkText.message ⟨0, 36⟩,
        Rule.finding LinkText.id LinkText.message ⟨9, 30⟩] ∧
      Reports ⟨.linkText, LinkText.rule⟩ d [Rule.finding LinkText.id LinkText.message ⟨0, 36⟩,
        Rule.finding LinkText.id LinkText.message ⟨9, 30⟩] sites := by
  have found : ((Document.parse linkInLink none).toOption.bind fun d =>
      (LinkText.inSiblings none d.children).toOption.bind fun links =>
        (LinkText.inHelpers d).toOption.map fun calls => (links, calls)) =
      some ([Rule.finding LinkText.id LinkText.message ⟨0, 36⟩],
        [Rule.finding LinkText.id LinkText.message ⟨9, 30⟩]) := by
    decide +kernel
  obtain ⟨d, hparse, hd⟩ := Option.bind_eq_some_iff.1 found
  obtain ⟨links, hlinks, hd⟩ := Option.bind_eq_some_iff.1 hd
  obtain ⟨calls, hcalls, heq⟩ := Option.map_eq_some_iff.1 hd
  obtain ⟨rfl, rfl⟩ := Prod.mk.inj heq
  have hrun : LinkText.run d = .ok [Rule.finding LinkText.id LinkText.message ⟨0, 36⟩,
      Rule.finding LinkText.id LinkText.message ⟨9, 30⟩] := by
    refine LinkText.run_eq_ok_iff.2
      ⟨_, _, eq_ok_of_toOption hlinks, eq_ok_of_toOption hcalls, ?_⟩
    exact (List.mergeSort_of_pairwise (by decide)).symm
  obtain ⟨sites, reports⟩ :=
    run_reports (r := ⟨.linkText, LinkText.rule⟩) List.mem_cons_self (eq_ok_of_toOption hparse) hrun
  exact ⟨d, sites, eq_ok_of_toOption hparse, hrun, reports⟩

end MarkupAudit
