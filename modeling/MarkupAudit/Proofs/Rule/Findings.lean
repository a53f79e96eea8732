import MarkupAudit.Rule.Registry

/-!
# Findings of rules

A rule completes if every part of the document that it looks at can be read. Its findings are put
together from the findings in these parts, and all of them carry the identifier of the rule
(`rule_of_mem_run`).
-/

namespace MarkupAudit

theorem map_eq_ok_iff {ε α β : Type} {f : α → β} {x : Except ε α} {b : β} :
    x.map f = .ok b ↔ ∃ a, x = .ok a ∧ b = f a := by
  cases x with
  | error e => simp [Except.map]
  | ok a => simp [Except.map, eq_comm]

theorem eq_ok_of_toOption {ε α : Type} {x : Except ε α} {a : α} (h : x.toOption = some a) :
    x = .ok a := by
  cases x with
  | error e => cases h
  | ok b => cases h; rfl

theorem mem_sort {f : Finding} {fs : List Finding} : f ∈ Finding.sort fs ↔ f ∈ fs :=
  (List.mergeSort_perm fs _).mem_iff

theorem length_sort (fs : List Finding) : (Finding.sort fs).length = fs.length :=
  List.length_mergeSort fs

/-! ### Rules that complete -/

theorem Rule.gather_cons_eq_ok_iff {α : Type} {find : α → Except RuleError (List Finding)} {a : α}
    {as : List α} {fs : List Finding} :
    Rule.gather find (a :: as) = .ok fs ↔
      ∃ found rest, find a = .ok found ∧ Rule.gather find as = .ok rest ∧ fs = found ++ rest := by
  rw [Rule.gather]
  cases find a with
  | error e => simp
  | ok found => simp [map_eq_ok_iff]

theorem Tag.ofNodes_cons_eq_ok_iff {n : Node} {ns : List Node} {ts : List Tag} :
    Tag.ofNodes (n :: ns) = .ok ts ↔
      ∃ t rest, Tag.ofNode n = .ok t ∧ Tag.ofNodes ns = .ok rest ∧ ts = t :: rest := by
  rw [Tag.ofNodes]
  cases Tag.ofNode n with
  | error e => simp
  | ok t => simp [map_eq_ok_iff]

theorem LinkText.inSiblings_cons_eq_ok_iff {p : Option Node} {n : Node} {ns : List Node}
    {fs : List Finding} :
    LinkText.inSiblings p (n :: ns) = .ok fs ↔
      ∃ found rest, LinkText.inMarkup p ns.head? n = .ok found ∧
        LinkText.inSiblings (some n) ns = .ok rest ∧ fs = found ++ rest := by
  rw [LinkText.inSiblings]
  cases LinkText.inMarkup p ns.head? n with
  | error e => simp
  | ok found => simp [map_eq_ok_iff]

theorem LinkText.run_eq_ok_iff {d : Document} {fs : List Finding} :
    LinkText.run d = .ok fs ↔
      ∃ links calls, LinkText.inSiblings none d.children = .ok links ∧
        Rule.gather LinkText.inBlock (d.descendants (some .code)) = .ok calls ∧
        fs = Finding.sort (links ++ calls) := by
  rw [LinkText.run, LinkText.inHelpers]
  cases LinkText.inSiblings none d.children with
  | error e => simp
  | ok links => simp [map_eq_ok_iff]

theorem TitleAttribute.run_eq_ok_iff {d : Document} {fs : List Finding} :
    TitleAttribute.run d = .ok fs ↔
      ∃ ts, Tag.ofNodes (d.descendants (some .tag)) = .ok ts ∧
        fs = (ts.filter TitleAttribute.isTitled).map fun t =>
          Rule.finding TitleAttribute.id TitleAttribute.message t.span := by
  rw [TitleAttribute.run, Document.tags]
  cases Tag.ofNodes (d.descendants (some .tag)) with
  | error e => simp
  | ok ts => simp [eq_comm]

/-! ### Findings name their rule -/

theorem forall_mem_gather {α : Type} {p : Finding → Prop}
    {find : α → Except RuleError (List Finding)} {as : List α} {fs : List Finding}
    (h : ∀ a found, find a = .ok found → ∀ f ∈ found, p f) (hok : Rule.gather find as = .ok fs) :
    ∀ f ∈ fs, p f := by
  induction as generalizing fs with
  | nil =>
      cases hok
      exact List.forall_mem_nil _
  | cons a as ih =>
      obtain ⟨found, rest, hfound, hrest, rfl⟩ := Rule.gather_cons_eq_ok_iff.1 hok
      exact List.forall_mem_append.2 ⟨h a found hfound, ih hrest⟩

theorem LinkText.rule_of_mem_inMarkup {p q : Option Node} {n : Node} {fs : List Finding}
    (h : LinkText.inMarkup p q n = .ok fs) : ∀ f ∈ fs, f.rule = LinkText.id := by
  unfold LinkText.inMarkup at h
  grind [Rule.finding]

theorem LinkText.rule_of_mem_inSiblings {p : Option Node} {ns : List Node} {fs : List Finding}
    (h : LinkText.inSiblings p ns = .ok fs) : ∀ f ∈ fs, f.rule = LinkText.id := by
  induction ns generalizing p fs with
  | nil =>
      cases h
      exact List.forall_mem_nil _
  | cons n ns ih =>
      obtain ⟨found, rest, hfound, hrest, rfl⟩ := LinkText.inSiblings_cons_eq_ok_iff.1 h
      exact List.forall_mem_append.2 ⟨rule_of_mem_inMarkup hfound, ih hrest⟩

theorem LinkText.rule_of_mem_inBlock (b : Node) (fs : List Finding)
    (h : LinkText.inBlock b = .ok fs) : ∀ f ∈ fs, f.rule = LinkText.id := by
  unfold LinkText.inBlock at h
  grind [Rule.finding]

theorem FrameTitle.rule_of_mem_inTag (n : Node) (fs : List Finding)
    (h : FrameTitle.inTag n = .ok fs) : ∀ f ∈ fs, f.rule = FrameTitle.id := by
  unfold FrameTitle.inTag at h
  grind [Rule.finding]

/-- The findings of a rule of the library carry its identifier. -/
theorem rule_of_mem_run {e : Registration} (he : e ∈ shippedRules) {d : Document}
    {fs : List Finding} (h : e.rule.run d = .ok fs) : ∀ f ∈ fs, f.rule = e.rule.id := by
  simp only [shippedRules, List.mem_cons, List.not_mem_nil, or_false] at he
  rcases he with rfl | rfl | rfl
  · obtain ⟨links, calls, hlinks, hcalls, rfl⟩ := LinkText.run_eq_ok_iff.1 h
    intro f hf
    rcases List.mem_append.1 (mem_sort.1 hf) with hf | hf
    · exact LinkText.rule_of_mem_inSiblings hlinks f hf
    · exact forall_mem_gather LinkText.rule_of_mem_inBlock hcalls f hf
  · exact forall_mem_gather FrameTitle.rule_of_mem_inTag h
  · obtain ⟨ts, -, rfl⟩ := TitleAttribute.run_eq_ok_iff.1 h
    intro f hf
    obtain ⟨t, -, rfl⟩ := List.mem_map.1 hf
    rfl

end MarkupAudit
