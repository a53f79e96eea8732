import Mathlib.Logic.Function.Iterate
import MarkupAudit.Proofs.Rule.Sites

/-!
# Going over the nodes of a tree

A node occurs in a tree at an address: the numbers of the children that lead to it. The descendants of
a node are visited in the order of their addresses, each occurrence once (`Node.isEnumeration`). That is
the recursive pre-order (`Node.walk_eq_filter`), and it is what comes out of a stack from which the next
node is taken at the end and to which its children are added in reverse (`Visit.iterate_step`).

In a document that was read, a node starts before the nodes behind it and no later than the code blocks
in it, so the nodes are also visited in document order (`IsTokenizationFrom.inOrder`).
-/

namespace MarkupAudit

namespace Node

/-! ### Pre-order -/

theorem preorder_eq (n : Node) : n.preorder = preorderAll n.children := by
  cases n
  rw [preorder]

theorem preorderAll_append (ns ms : List Node) :
    preorderAll (ns ++ ms) = preorderAll ns ++ preorderAll ms := by
  induction ns with
  | nil => simp [preorderAll]
  | cons n ns ih => simp [preorderAll, ih]

/-- The pending nodes are visited with all that is below them, one after another. -/
theorem walk_eq_filter (keep : Node → Bool) (pending : List Node) :
    walk keep pending = (preorderAll pending).filter keep := by
  fun_induction walk keep pending with
  | case1 => simp [preorderAll]
  | case2 n rest later hkeep ih =>
      simp only [later, ih, preorderAll, preorderAll_append, preorder_eq]
      rw [List.filter_cons_of_pos hkeep]
  | case3 n rest later hkeep ih =>
      simp only [later, ih, preorderAll, preorderAll_append, preorder_eq]
      rw [List.filter_cons_of_neg hkeep]

/-! ### Addresses -/

/-- The node at an address: the numbers of the children to go to, one after another. -/
def at? : Node → (address : List Nat) → Option Node
  | n, [] => some n
  | n, i :: rest => n.children[i]?.bind fun c => at? c rest

/-- The node at an address that starts with the number of one of some nodes. -/
def among? (ns : List Node) : (address : List Nat) → Option Node
  | [] => none
  | i :: rest => ns[i]?.bind fun n => n.at? rest

/-- The address of a node once another node has been put before its siblings. -/
def later : (address : List Nat) → List Nat
  | [] => []
  | i :: rest => (i + 1) :: rest

mutual

/-- The addresses of the proper descendants of a node, those of a node before those below it. -/
def addresses : Node → List (List Nat)
  | ⟨_, _, _, children⟩ => addressesAll children

/-- The addresses of some nodes and of all that is below them. -/
def addressesAll : List Node → List (List Nat)
  | [] => []
  | n :: ns => ([0] :: (addresses n).map (0 :: ·)) ++ (addressesAll ns).map later

end

theorem at?_of_ne_nil (n : Node) {a : List Nat} (h : a ≠ []) : n.at? a = among? n.children a := by
  cases a with
  | nil => exact absurd rfl h
  | cons i rest => rw [at?, among?]

theorem among?_zero (n : Node) (ns : List Node) (a : List Nat) :
    among? (n :: ns) (0 :: a) = n.at? a := by
  simp [among?]

theorem among?_later (n : Node) (ns : List Node) (a : List Nat) :
    among? (n :: ns) (later a) = among? ns a := by
  cases a with
  | nil => rfl
  | cons i rest => simp [among?, later]

mutual

theorem mem_addresses_iff : ∀ (n : Node) (a : List Nat),
    a ∈ n.addresses ↔ (among? n.children a).isSome = true
  | ⟨_, _, _, children⟩, a => by
      rw [addresses]
      exact mem_addressesAll_iff children a

theorem mem_addressesAll_iff : ∀ (ns : List Node) (a : List Nat),
    a ∈ addressesAll ns ↔ (among? ns a).isSome = true
  | [], a => by cases a <;> simp [addressesAll, among?]
  | n :: ns, a => by
      have below := mem_addresses_iff n
      have beside := mem_addressesAll_iff ns
      rw [addressesAll, List.mem_append, List.mem_cons, List.mem_map, List.mem_map]
      match a with
      | [] =>
          have hlater : ¬ ∃ b ∈ addressesAll ns, later b = [] := by
            rintro ⟨b, hb, heq⟩
            cases b with
            | nil => simp [(beside []), among?] at hb
            | cons i rest => simp [later] at heq
          simp [hlater, among?]
      | 0 :: rest =>
          have hlater : ¬ ∃ b ∈ addressesAll ns, later b = 0 :: rest := by
            rintro ⟨b, -, heq⟩
            cases b <;> simp [later] at heq
          rw [among?_zero]
          by_cases hrest : rest = []
          · simp [hrest, at?]
          · simp [hrest, hlater, below, at?_of_ne_nil n hrest]
      | (i + 1) :: rest =>
          have hlater : (∃ b ∈ addressesAll ns, later b = (i + 1) :: rest) ↔
              i :: rest ∈ addressesAll ns := by
            constructor
            · rintro ⟨b, hb, heq⟩
              cases b with
              | nil => simp [later] at heq
              | cons j tail =>
                  simp only [later, List.cons.injEq, Nat.add_right_cancel_iff] at heq
                  rw [← heq.1, ← heq.2]
                  exact hb
            · intro hb
              exact ⟨i :: rest, hb, rfl⟩
          have hshift := among?_later n ns (i :: rest)
          rw [later] at hshift
          rw [hshift, ← beside, ← hlater]
          simp

end

theorem ne_nil_of_mem_addressesAll {ns : List Node} {a : List Nat} (h : a ∈ addressesAll ns) :
    a ≠ [] := by
  rintro rfl
  simp [mem_addressesAll_iff, among?] at h

theorem ne_nil_of_mem_addresses {n : Node} {a : List Nat} (h : a ∈ n.addresses) : a ≠ [] := by
  rintro rfl
  simp [mem_addresses_iff, among?] at h

mutual

/-- Addresses come in the order of the numbers in them, and an address comes before those that go on
from it. -/
theorem pairwise_addresses : ∀ n : Node, n.addresses.Pairwise (· < ·)
  | ⟨_, _, _, children⟩ => by
      rw [addresses]
      exact pairwise_addressesAll children

theorem pairwise_addressesAll : ∀ ns : List Node, (addressesAll ns).Pairwise (· < ·)
  | [] => by
      rw [addressesAll]
      exact .nil
  | n :: ns => by
      have below := pairwise_addresses n
      have beside := pairwise_addressesAll ns
      rw [addressesAll, List.pairwise_append, List.pairwise_cons, List.pairwise_map,
        List.pairwise_map]
      refine ⟨⟨?_, ?_⟩, ?_, ?_⟩
      · intro a ha
        obtain ⟨b, hb, rfl⟩ := List.mem_map.1 ha
        obtain ⟨i, rest, rfl⟩ := List.exists_cons_of_ne_nil (ne_nil_of_mem_addresses hb)
        simp
      · apply below.imp
        intro a b hab
        simpa using hab
      · apply beside.imp
        intro a b hab
        cases a with
        | nil =>
            cases b with
            | nil => simp at hab
            | cons j tail => simp [later]
        | cons i rest =>
            cases b with
            | nil => simp at hab
            | cons j tail => simpa [later, List.cons_lt_cons_iff] using hab
      · intro a ha b hb
        obtain ⟨c, hc, rfl⟩ := List.mem_map.1 hb
        obtain ⟨j, tail, rfl⟩ := List.exists_cons_of_ne_nil (ne_nil_of_mem_addressesAll hc)
        have hzero : ∃ rest, a = 0 :: rest := by
          rcases List.mem_cons.1 ha with rfl | ha
          · exact ⟨[], rfl⟩
          · obtain ⟨rest, -, rfl⟩ := List.mem_map.1 ha
            exact ⟨rest, rfl⟩
        obtain ⟨rest, rfl⟩ := hzero
        simp [later, List.cons_lt_cons_iff]

end

mutual

theorem map_addresses : ∀ n : Node, n.addresses.map (among? n.children) = n.preorder.map some
  | ⟨_, _, _, children⟩ => by
      rw [addresses, preorder]
      exact map_addressesAll children

theorem map_addressesAll : ∀ ns : List Node,
    (addressesAll ns).map (among? ns) = (preorderAll ns).map some
  | [] => by simp [addressesAll, preorderAll]
  | n :: ns => by
      have below : n.addresses.map n.at? = n.preorder.map some := by
        rw [← map_addresses n]
        apply List.map_congr_left
        intro a ha
        exact at?_of_ne_nil n (ne_nil_of_mem_addresses ha)
      have beside := map_addressesAll ns
      have hbelow : (n.addresses.map (0 :: ·)).map (among? (n :: ns)) = n.preorder.map some := by
        rw [List.map_map, ← below]
        apply List.map_congr_left
        intro a _
        exact among?_zero n ns a
      have hbeside : ((addressesAll ns).map later).map (among? (n :: ns)) =
          (preorderAll ns).map some := by
        rw [List.map_map, ← beside]
        apply List.map_congr_left
        intro a _
        exact among?_later n ns a
      rw [addressesAll, preorderAll, List.map_append, List.map_cons, hbelow, hbeside, among?_zero,
        at?, List.map_cons, List.map_append, List.cons_append]

end

/-- The nodes of a kind below a node, by where they occur: each occurrence once, in the order of the
addresses. -/
structure IsEnumeration (n : Node) (kind : Option NodeKind) (ms : List Node)
    (occurrences : List (List Nat)) : Prop where
  ascending : occurrences.Pairwise (· < ·)
  all : ∀ a, a ∈ occurrences ↔
    a ≠ [] ∧ ∃ m, n.at? a = some m ∧ ∀ k, kind = some k → m.kind = k
  each : occurrences.map n.at? = ms.map some

theorem all_eq_true_iff {kind : Option NodeKind} {m : Node} :
    kind.all (· == m.kind) = true ↔ ∀ k, kind = some k → m.kind = k := by
  cases kind with
  | none => simp
  | some k =>
      simp only [Option.all_some, beq_iff_eq, Option.some.injEq, forall_eq']
      exact eq_comm

/-- Of the addresses of all descendants, those of the nodes of a kind. -/
theorem isEnumeration (n : Node) (kind : Option NodeKind) :
    ∃ occurrences, IsEnumeration n kind (n.preorder.filter fun m => kind.all (· == m.kind))
      occurrences := by
  have hat : ∀ a ∈ n.addresses, n.at? a = among? n.children a := by
    intro a ha
    exact at?_of_ne_nil n (ne_nil_of_mem_addresses ha)
  have hmap : n.addresses.map n.at? = n.preorder.map some := by
    rw [← map_addresses n]
    exact List.map_congr_left hat
  let keep : Option Node → Bool := fun m? => m?.all fun m => kind.all (· == m.kind)
  refine ⟨n.addresses.filter fun a => keep (n.at? a), ?_, ?_, ?_⟩
  · exact (pairwise_addresses n).filter _
  · intro a
    rw [List.mem_filter, mem_addresses_iff]
    constructor
    · rintro ⟨hsome, hkeep⟩
      have hne : a ≠ [] := ne_nil_of_mem_addresses ((mem_addresses_iff n a).2 hsome)
      obtain ⟨m, hm⟩ := Option.isSome_iff_exists.1 hsome
      rw [← at?_of_ne_nil n hne] at hm
      rw [hm] at hkeep
      exact ⟨hne, m, hm, all_eq_true_iff.1 hkeep⟩
    · rintro ⟨hne, m, hm, hkind⟩
      refine ⟨?_, ?_⟩
      · rw [← at?_of_ne_nil n hne, hm]
        rfl
      · rw [hm]
        exact all_eq_true_iff.2 hkind
  · have hfilter : (n.addresses.map n.at?).filter keep = (n.preorder.map some).filter keep := by
      rw [hmap]
    rw [List.filter_map, List.filter_map] at hfilter
    exact hfilter

end Node

/-! ### The stack -/

/-- A walk in progress: the nodes still to be visited, the next one last, and the nodes kept so far. -/
structure Visit where
  stack : List Node
  kept : List Node

namespace Visit

/-- Takes a node from the end of the stack, keeps it if `keep` holds, and adds its children to the
stack, the first of them last. -/
def step (keep : Node → Bool) (v : Visit) : Visit :=
  match v.stack.getLast? with
  | none => v
  | some n =>
      ⟨v.stack.dropLast ++ n.children.reverse, if keep n then v.kept ++ [n] else v.kept⟩

theorem step_append (keep : Node → Bool) (front kept : List Node) (n : Node) :
    step keep ⟨front ++ [n], kept⟩ =
      ⟨front ++ n.children.reverse, if keep n then kept ++ [n] else kept⟩ := by
  simp [step]

/-- All that has been kept and will be kept. -/
def outcome (keep : Node → Bool) (v : Visit) : List Node :=
  v.kept ++ Node.walk keep v.stack.reverse

/-- A step changes nothing of what will have been kept in the end. -/
theorem outcome_step (keep : Node → Bool) (front kept : List Node) (n : Node) :
    (step keep ⟨front ++ [n], kept⟩).outcome keep = outcome keep ⟨front ++ [n], kept⟩ := by
  have hwalk := Node.walk.eq_2 keep n front.reverse
  rw [step_append, outcome, outcome, List.reverse_append, List.reverse_reverse, List.reverse_concat,
    hwalk]
  by_cases hkeep : keep n = true
  · simp [hkeep]
  · simp [hkeep]

theorem sizeAll_reverse (ns : List Node) : Node.sizeAll ns.reverse = Node.sizeAll ns := by
  induction ns with
  | nil => rfl
  | cons n ns ih =>
      rw [List.reverse_cons, Node.sizeAll_append, ih]
      simp only [Node.sizeAll]
      omega

/-- A step takes one node off. -/
theorem sizeAll_step (keep : Node → Bool) (front kept : List Node) (n : Node) :
    Node.sizeAll (front ++ [n]) =
      Node.sizeAll (step keep ⟨front ++ [n], kept⟩).stack + 1 := by
  rw [step_append]
  simp only [Node.sizeAll_append, Node.sizeAll, sizeAll_reverse, Node.size_eq]
  omega

/-- After as many steps as there are nodes, the stack is empty. -/
theorem iterate_step (keep : Node → Bool) (v : Visit) :
    (step keep)^[Node.sizeAll v.stack] v = ⟨[], v.outcome keep⟩ := by
  obtain ⟨stack, kept⟩ := v
  induction hsize : Node.sizeAll stack generalizing stack kept with
  | zero =>
      cases stack with
      | nil => simp [outcome, Node.walk]
      | cons n ns =>
          simp only [Node.sizeAll, Node.size_eq] at hsize
          omega
  | succ k ih =>
      rcases List.eq_nil_or_concat stack with rfl | ⟨front, n, rfl⟩
      · simp [Node.sizeAll] at hsize
      · rw [List.concat_eq_append] at hsize ⊢
        have hnext := sizeAll_step keep front kept n
        have hkept := outcome_step keep front kept n
        rw [Function.iterate_succ_apply]
        rw [ih (step keep ⟨front ++ [n], kept⟩).stack (step keep ⟨front ++ [n], kept⟩).kept
          (by omega)]
        rw [← hkept]

end Visit

/-! ### Document order -/

section Documents

variable {s : Text} {d : Document}

/-- The nodes of a tokenization with the code blocks in them: none starts before one that is visited
before it. -/
theorem IsTokenizationFrom.inOrder {pos : Nat} {ns : List Node} (h : IsTokenizationFrom s pos ns) :
    (ns.flatMap fun n => n :: n.children).Pairwise (fun n m => n.span.start ≤ m.span.start) ∧
      ∀ m ∈ ns.flatMap fun n => n :: n.children, (pos : Int) ≤ m.span.start := by
  induction ns generalizing pos with
  | nil => simp
  | cons n ns ih =>
      obtain ⟨stop, hspan, hlt, token, -, rest⟩ := isTokenizationFrom_cons.1 h
      have hstop := rest.tiles.le
      have within := token.within hspan (Nat.le_of_lt hlt) (by omega)
      obtain ⟨inOrder, behind⟩ := ih rest
      have here : ∀ m ∈ n :: n.children, (pos : Int) ≤ m.span.start ∧ m.span.start < stop := by
        intro m hm
        rcases List.mem_cons.1 hm with rfl | hm
        · rw [hspan]
          dsimp only
          omega
        · have := within.bounds m hm
          omega
      rw [List.flatMap_cons]
      constructor
      · refine List.pairwise_append.2 ⟨List.pairwise_cons.2 ⟨?_, ?_⟩, inOrder, ?_⟩
        · intro m hm
          have := within.bounds m hm
          rw [hspan]
          dsimp only
          omega
        · apply within.ascending.imp
          intro a b hab
          omega
        · intro a ha b hb
          have := here a ha
          have := behind b hb
          omega
      · intro m hm
        rcases List.mem_append.1 hm with hm | hm
        · exact (here m hm).1
        · have := behind m hm
          omega

/-- Below a top-level node there are only its code blocks. -/
theorem Node.IsLaid.descendants_eq {n : Node} (h : n.IsLaid) (kind : Option NodeKind) :
    n.descendants kind = n.children.filter fun m => kind.all (· == m.kind) := by
  have hwalk : Node.walk (fun m => kind.all (· == m.kind)) (n.children ++ []) = _ :=
    Node.walk_blocks h.blocks []
  rw [List.append_nil] at hwalk
  rw [Node.descendants, hwalk, Node.walk.eq_1, List.append_nil]

/-- A document whose nodes are visited in the order of where they start. Tags, and code blocks, start
one after another. -/
structure Document.InOrder (d : Document) : Prop where
  nodes : ∀ n ∈ d.root :: d.descendants none, ∀ kind,
    (n.descendants kind).Pairwise fun a b => a.span.start ≤ b.span.start
  tags : ∀ ts, d.tags = .ok ts → ts.Pairwise fun t u => t.span.start < u.span.start
  blocks : Ascending (d.descendants (some .code))

theorem Tag.map_span_ofNodes {ns : List Node} {ts : List Tag} (h : Tag.ofNodes ns = .ok ts) :
    ts.map (·.span) = ns.map (·.span) := by
  induction ns generalizing ts with
  | nil =>
      cases h
      rfl
  | cons n ns ih =>
      obtain ⟨t, rest, htag, hrest, rfl⟩ := Tag.ofNodes_cons_eq_ok_iff.1 h
      rw [List.map_cons, List.map_cons, ih hrest, (Tag.of_ofNode htag).2]

theorem Document.inOrder_of_parse {path : Option String} (h : Document.parse s path = .ok d) :
    d.InOrder := by
  have laid := Document.laid_of_parse h
  have whole : IsTokenizationFrom s 0 d.children := isTokenization_of_parse h
  have all : d.descendants none = d.children.flatMap fun n => n :: n.children :=
    Node.walk_all laid.laid
  refine ⟨?_, ?_, ?_⟩
  · intro n hn kind
    rcases List.mem_cons.1 hn with rfl | hn
    · -- the nodes of a kind are some of all nodes
      have hsub : (d.root.descendants kind).Sublist (d.descendants none) := by
        rw [Document.descendants, Node.descendants, Node.descendants, Node.walk_eq_filter,
          Node.walk_eq_filter]
        have hall : (Node.preorderAll d.root.children).filter
            (fun m => (none : Option NodeKind).all (· == m.kind)) =
              Node.preorderAll d.root.children := List.filter_eq_self.2 fun _ _ => rfl
        rw [hall]
        exact List.filter_sublist
      rw [all] at hsub
      exact whole.inOrder.1.sublist hsub
    · obtain ⟨m, hm, rfl | hblock⟩ := laid.mem_descendants_iff.1 hn
      · obtain ⟨a, b, hspan, -, hab, hb⟩ := whole.bounds n hm
        have within := (whole.tokens n hm).within hspan (Nat.le_of_lt hab) hb
        rw [(laid.laid n hm).descendants_eq]
        apply (within.ascending.filter _).imp
        intro x y hxy
        omega
      · have leaf : n.children = [] := ((laid.laid m hm).blocks n hblock).2
        rw [Node.descendants, leaf, Node.walk.eq_1]
        exact .nil
  · intro ts hts
    have ascending : Ascending (d.descendants (some .tag)) := by
      rw [laid.tags_eq]
      exact laid.ascending.sublist (tags_sublist_places _)
    have hspans := Tag.map_span_ofNodes hts
    have hpairs : (ts.map (·.span)).Pairwise fun a b => a.start < b.start := by
      rw [hspans]
      exact List.pairwise_map.2 ascending
    rw [List.pairwise_map] at hpairs
    exact hpairs
  · rw [laid.blocks_eq]
    exact laid.ascending.sublist (blocks_sublist_places _)

end Documents

/-- The descendants of a node of a kind are its proper descendants of this kind in pre-order, each
occurrence once, and a stack of nodes gives the same. In a document that was read they are visited in
document order. -/
theorem descendants_preorder (n : Node) (kind : Option NodeKind) :
    n.descendants kind = n.preorder.filter (fun m => kind.all (· == m.kind)) ∧
    (∃ occurrences, n.IsEnumeration kind (n.descendants kind) occurrences) ∧
    (Visit.step fun m => kind.all (· == m.kind))^[Node.sizeAll n.children] ⟨n.children.reverse, []⟩ =
      ⟨[], n.descendants kind⟩ ∧
    ∀ s path d, Document.parse s path = .ok d → d.InOrder := by
  have hwalk : n.descendants kind = n.preorder.filter fun m => kind.all (· == m.kind) := by
    rw [Node.descendants, Node.walk_eq_filter, Node.preorder_eq]
  refine ⟨hwalk, ?_, ?_, ?_⟩
  · rw [hwalk]
    exact Node.isEnumeration n kind
  · have hstack := Visit.iterate_step (fun m => kind.all (· == m.kind)) ⟨n.children.reverse, []⟩
    rw [Visit.sizeAll_reverse, Visit.outcome, List.reverse_reverse, List.nil_append] at hstack
    exact hstack
  · intro s path d h
    exact Document.inOrder_of_parse h

/-- A tag with a code block in it, a text run that starts with one, a tag and a comment: the text run
and its block start together. -/
theorem descendants_preorder_mixed :
    ∃ d, Document.parse mixedTemplate none = .ok d ∧
      (d.descendants none).map (fun n => (n.kind, n.span.start)) =
        [(.tag, 0), (.code, 6), (.text, 15), (.code, 15), (.tag, 22), (.comment, 26)] ∧
      d.InOrder ∧ ∃ occurrences, d.root.IsEnumeration none (d.descendants none) occurrences := by
  have visited : (Document.parse mixedTemplate none).toOption.map
      (fun d => (d.descendants none).map fun n => (n.kind, n.span.start)) =
        some [(.tag, 0), (.code, 6), (.text, 15), (.code, 15), (.tag, 22), (.comment, 26)] := by
    decide +kernel
  obtain ⟨d, hd, hnodes⟩ := Option.map_eq_some_iff.1 visited
  have hparse := eq_ok_of_toOption hd
  obtain ⟨-, hoccurrences, -, inOrder⟩ := descendants_preorder d.root none
  exact ⟨d, hparse, hnodes, inOrder mixedTemplate none d hparse, hoccurrences⟩

end MarkupAudit
