import Mathlib.Data.List.Shortlex
import MarkupAudit.Proofs.Rule.Findings
import MarkupAudit.Rule.LinkText

/-!
# Levels of an expression

A part of an expression has an address: the numbers of the parts that lead to it. The length of the
address is how deep the part lies. A queue goes over an expression level by level. While the parts of
one level are taken off its front, those of the next level gather behind them, so the queue never holds
more than two levels (`breadthFirst_append`), and what is visited are all parts in the order of their
addresses, shorter ones first (`breadthFirst_eq`).

The calls are some of the parts. So an outer call comes before the calls in it, and the first call is
one that lies least deep (`head?_calls_eq_some_iff`).
-/

namespace MarkupAudit

namespace Expr

/-! ### Addresses -/

/-- The part of an expression at an address: the numbers of the parts to go to, one after another. -/
def at? : Expr → (address : List Nat) → Option Expr
  | e, [] => some e
  | e, i :: rest => e.children[i]?.bind fun p => at? p rest

theorem at?_concat (e : Expr) (a : List Nat) (i : Nat) :
    e.at? (a ++ [i]) = (e.at? a).bind fun p => p.children[i]? := by
  induction a generalizing e with
  | nil => simp [at?]
  | cons j rest ih =>
      rw [List.cons_append, at?, at?]
      cases e.children[j]? with
      | none => rfl
      | some p => exact ih p

/-- A part of an expression, with its address. -/
structure Occurrence where
  address : List Nat
  part : Expr

/-- The direct parts of a part, in order. -/
def Occurrence.below (x : Occurrence) : List Occurrence :=
  x.part.children.mapIdx fun i p => ⟨x.address ++ [i], p⟩

/-- The parts of an expression that lie equally deep. -/
def level (e : Expr) : (depth : Nat) → List Occurrence
  | 0 => [⟨[], e⟩]
  | depth + 1 => (level e depth).flatMap Occurrence.below

/-- Lists of one length stay in order whatever is put behind them. -/
theorem lex_append {a b : List Nat} (h : List.Lex (· < ·) a b) (hlength : a.length = b.length)
    (s t : List Nat) : List.Lex (· < ·) (a ++ s) (b ++ t) := by
  induction h with
  | nil => simp at hlength
  | cons _ ih => exact .cons (ih (by simpa using hlength))
  | rel hlt => exact .rel hlt

namespace Occurrence

theorem mem_below_iff {x y : Occurrence} :
    y ∈ x.below ↔ ∃ i, x.part.children[i]? = some y.part ∧ y.address = x.address ++ [i] := by
  obtain ⟨address, part⟩ := y
  simp only [below, List.mem_mapIdx, Occurrence.mk.injEq]
  constructor
  · rintro ⟨i, hi, haddress, hpart⟩
    exact ⟨i, by rw [List.getElem?_eq_getElem hi, hpart], haddress.symm⟩
  · rintro ⟨i, hpart, haddress⟩
    obtain ⟨hi, hpart⟩ := List.getElem?_eq_some_iff.1 hpart
    exact ⟨i, hi, haddress.symm, hpart⟩

theorem map_part_below (x : Occurrence) : x.below.map part = x.part.children := by
  apply List.ext_getElem
  · simp [below]
  · intro i _ _
    simp [below]

/-- The order in which parts are visited: less deep ones first, and at one depth by the numbers in
their addresses. -/
abbrev Before (x y : Occurrence) : Prop :=
  List.Shortlex (· < ·) x.address y.address

theorem pairwise_below (x : Occurrence) : x.below.Pairwise Before := by
  rw [List.pairwise_iff_getElem]
  intro i j hi hj hij
  simp only [below, List.getElem_mapIdx, Before]
  exact List.Shortlex.append_left ((List.shortlex_singleton_iff i j).2 hij) x.address

/-- What is below a part comes before what is below a later part. -/
theorem Before.below {x y v w : Occurrence} (h : x.Before y) (hv : v ∈ x.below) (hw : w ∈ y.below) :
    v.Before w := by
  obtain ⟨i, -, hi⟩ := mem_below_iff.1 hv
  obtain ⟨j, -, hj⟩ := mem_below_iff.1 hw
  rw [Before, hi, hj]
  rcases List.shortlex_def.1 h with hlength | ⟨hlength, hlex⟩
  · apply List.Shortlex.of_length_lt
    simpa using hlength
  · apply List.Shortlex.of_lex
    · simpa using hlength
    · exact lex_append hlex hlength [i] [j]

end Occurrence

theorem mem_level_iff {e : Expr} {depth : Nat} {x : Occurrence} :
    x ∈ e.level depth ↔ x.address.length = depth ∧ e.at? x.address = some x.part := by
  obtain ⟨address, part⟩ := x
  -- by the depth: the last number of an address leads to a part from the part above it
  induction depth generalizing address part with
  | zero =>
      rw [level, List.mem_singleton, List.length_eq_zero_iff]
      constructor
      · intro h
        cases h
        exact ⟨rfl, rfl⟩
      · rintro ⟨rfl, hat⟩
        cases hat
        rfl
  | succ depth ih =>
      rw [level, List.mem_flatMap]
      constructor
      · rintro ⟨⟨front, whole⟩, hwhole, hbelow⟩
        obtain ⟨i, hpart, rfl⟩ := Occurrence.mem_below_iff.1 hbelow
        obtain ⟨hlength, hat⟩ := (ih front whole).1 hwhole
        dsimp only at hlength hat hpart ⊢
        refine ⟨by simp [hlength], ?_⟩
        rw [at?_concat, hat, Option.bind_some, hpart]
      · rintro ⟨hlength, hat⟩
        dsimp only at hlength hat
        rcases List.eq_nil_or_concat address with rfl | ⟨front, i, rfl⟩
        · simp at hlength
        · rw [List.concat_eq_append] at hlength hat ⊢
          rw [at?_concat] at hat
          obtain ⟨whole, hwhole, hpart⟩ := Option.bind_eq_some_iff.1 hat
          refine ⟨⟨front, whole⟩, (ih front whole).2 ⟨by simpa using hlength, hwhole⟩, ?_⟩
          exact Occurrence.mem_below_iff.2 ⟨i, hpart, rfl⟩

theorem pairwise_level (e : Expr) (depth : Nat) :
    (e.level depth).Pairwise Occurrence.Before := by
  induction depth with
  | zero => exact List.pairwise_singleton _ _
  | succ depth ih =>
      rw [level, List.pairwise_flatMap]
      refine ⟨fun x _ => x.pairwise_below, ?_⟩
      apply ih.imp
      intro x y hxy v hv w hw
      exact hxy.below hv hw

/-! ### The queue -/

/-- Taking off the front of a queue puts all direct parts of the front, in order, behind its back. -/
theorem breadthFirst_append (front back : List Expr) :
    breadthFirst (front ++ back) = front ++ breadthFirst (back ++ front.flatMap children) := by
  induction front generalizing back with
  | nil => simp
  | cons e front ih =>
      rw [List.cons_append, breadthFirst, List.append_assoc, ih]
      simp

theorem map_part_level_succ (e : Expr) (depth : Nat) :
    (e.level (depth + 1)).map Occurrence.part =
      ((e.level depth).map Occurrence.part).flatMap children := by
  rw [level, List.map_flatMap, List.flatMap_map]
  simp only [Occurrence.map_part_below]

/-- The levels in front of a depth have been visited when the queue holds the level of this depth. -/
theorem breadthFirst_levels (e : Expr) (depth : Nat) :
    breadthFirst [e] = ((List.range depth).flatMap e.level).map Occurrence.part ++
      breadthFirst ((e.level depth).map Occurrence.part) := by
  induction depth with
  | zero => rfl
  | succ depth ih =>
      have hnext := breadthFirst_append ((e.level depth).map Occurrence.part) []
      rw [List.append_nil, List.nil_append, ← map_part_level_succ] at hnext
      rw [ih, hnext, List.range_succ, List.flatMap_append, List.map_append, List.append_assoc]
      simp

theorem sizeAll_flatMap_children (es : List Expr) :
    sizeAll (es.flatMap children) + es.length = sizeAll es := by
  induction es with
  | nil => rfl
  | cons e es ih =>
      have hsize := sizeAll_children e
      simp only [List.flatMap_cons, sizeAll_append, List.length_cons, sizeAll]
      omega

theorem sizeAll_level_add_le {e : Expr} {depth : Nat} (h : e.level depth ≠ []) :
    sizeAll ((e.level depth).map Occurrence.part) + depth ≤ e.size := by
  induction depth with
  | zero => simp [level, sizeAll]
  | succ depth ih =>
      have hne : e.level depth ≠ [] := by
        intro hnil
        rw [level, hnil] at h
        exact h rfl
      have hsize := sizeAll_flatMap_children ((e.level depth).map Occurrence.part)
      have hlength := List.length_pos_of_ne_nil hne
      have hle := ih hne
      rw [← map_part_level_succ, List.length_map] at hsize
      omega

/-- An expression has fewer levels than parts. -/
theorem lt_size_of_mem_level {e : Expr} {depth : Nat} {x : Occurrence} (h : x ∈ e.level depth) :
    depth < e.size := by
  have hne := List.ne_nil_of_mem h
  have hle := sizeAll_level_add_le hne
  have hsize := sizeAll_flatMap_children ((e.level depth).map Occurrence.part)
  have hlength := List.length_pos_of_ne_nil hne
  rw [List.length_map] at hsize
  omega

/-! ### All parts -/

/-- All parts of an expression, level by level. -/
def occurrences (e : Expr) : List Occurrence :=
  (List.range e.size).flatMap e.level

/-- A queue goes over all parts, level by level. -/
theorem breadthFirst_eq (e : Expr) : breadthFirst [e] = e.occurrences.map Occurrence.part := by
  have hlast : e.level e.size = [] := by
    rw [List.eq_nil_iff_forall_not_mem]
    intro x hx
    exact absurd (lt_size_of_mem_level hx) (Nat.lt_irrefl _)
  rw [breadthFirst_levels e e.size, hlast, List.map_nil, breadthFirst, List.append_nil, occurrences]

theorem mem_occurrences_iff {e : Expr} {x : Occurrence} :
    x ∈ e.occurrences ↔ e.at? x.address = some x.part := by
  simp only [occurrences, List.mem_flatMap, List.mem_range]
  constructor
  · rintro ⟨depth, -, hx⟩
    exact (mem_level_iff.1 hx).2
  · intro hat
    have hx : x ∈ e.level x.address.length := mem_level_iff.2 ⟨rfl, hat⟩
    exact ⟨x.address.length, lt_size_of_mem_level hx, hx⟩

theorem pairwise_occurrences (e : Expr) : e.occurrences.Pairwise Occurrence.Before := by
  rw [occurrences, List.pairwise_flatMap]
  refine ⟨fun depth _ => pairwise_level e depth, ?_⟩
  apply List.pairwise_lt_range.imp
  intro i j hij x hx y hy
  apply List.Shortlex.of_length_lt
  rw [(mem_level_iff.1 hx).1, (mem_level_iff.1 hy).1]
  exact hij

/-! ### Calls -/

/-- The calls in an expression by where they occur: every occurrence of a call once, and none before
one that lies less deep. So a call comes before the calls in it. Calls that lie equally deep come in
the order of their addresses. -/
structure OutermostFirst (e : Expr) (cs : List Expr) (addresses : List (List Nat)) : Prop where
  each : addresses.map e.at? = cs.map some
  all : ∀ a, a ∈ addresses ↔ ∃ c, e.at? a = some c ∧ c.isCall = true
  once : addresses.Nodup
  deeper : addresses.Pairwise fun a b => a.length ≤ b.length
  nested : ∀ (i j : Nat) (a b : List Nat), addresses[i]? = some a →
    addresses[j]? = some b → a <+: b → a ≠ b → i < j
  beside : addresses.Pairwise fun a b => a.length = b.length → a < b

/-- The call at an address lies least deep of all calls in an expression, and has the first address of
those that lie as deep. -/
structure IsOutermostCall (e : Expr) (a : List Nat) (c : Expr) : Prop where
  found : e.at? a = some c
  isCall : c.isCall = true
  shallowest : ∀ b d, e.at? b = some d → d.isCall = true → a.length ≤ b.length
  leftmost : ∀ b d, e.at? b = some d → d.isCall = true → b.length = a.length → b ≠ a → a < b

/-- Where the calls in an expression occur, in the order in which they are visited. -/
def callOccurrences (e : Expr) : List Occurrence :=
  e.occurrences.filter fun x => x.part.isCall

theorem calls_eq (e : Expr) : e.calls = e.callOccurrences.map Occurrence.part := by
  rw [calls, breadthFirst_eq, List.filter_map, callOccurrences]
  rfl

theorem mem_callOccurrences_iff {e : Expr} {x : Occurrence} :
    x ∈ e.callOccurrences ↔ e.at? x.address = some x.part ∧ x.part.isCall = true := by
  rw [callOccurrences, List.mem_filter, mem_occurrences_iff]

theorem pairwise_callOccurrences (e : Expr) : e.callOccurrences.Pairwise Occurrence.Before :=
  (pairwise_occurrences e).filter _

section Order

variable {a b : List Nat}

theorem length_le_of_shortlex (h : List.Shortlex (· < ·) a b) : a.length ≤ b.length := by
  rcases List.shortlex_def.1 h with hlength | ⟨hlength, -⟩
  · exact Nat.le_of_lt hlength
  · exact Nat.le_of_eq hlength

theorem lt_of_shortlex (h : List.Shortlex (· < ·) a b) (hlength : a.length = b.length) : a < b :=
  (List.shortlex_iff_lex hlength).1 h

end Order

theorem outermostFirst_calls (e : Expr) :
    e.OutermostFirst e.calls (e.callOccurrences.map Occurrence.address) := by
  have ordered : (e.callOccurrences.map Occurrence.address).Pairwise (List.Shortlex (· < ·)) :=
    List.pairwise_map.2 (pairwise_callOccurrences e)
  have deeper := ordered.imp length_le_of_shortlex
  refine ⟨?_, ?_, ?_, deeper, ?_, ordered.imp lt_of_shortlex⟩
  · rw [calls_eq, List.map_map, List.map_map]
    apply List.map_congr_left
    intro x hx
    exact (mem_callOccurrences_iff.1 hx).1
  · intro a
    rw [List.mem_map]
    constructor
    · rintro ⟨x, hx, rfl⟩
      exact ⟨x.part, mem_callOccurrences_iff.1 hx⟩
    · rintro ⟨c, hc⟩
      exact ⟨⟨a, c⟩, mem_callOccurrences_iff.2 hc, rfl⟩
  · apply ordered.imp
    rintro a b h rfl
    exact Std.Irrefl.irrefl a h
  · intro i j a b hi hj hab hne
    have hlength : a.length < b.length := by
      by_contra hle
      exact hne (hab.eq_of_length_le (Nat.not_lt.1 hle))
    -- the call at the shorter address can neither come later nor be the same
    by_contra hij
    rcases Nat.lt_or_eq_of_le (Nat.not_lt.1 hij) with hji | rfl
    · obtain ⟨hi, ha⟩ := List.getElem?_eq_some_iff.1 hi
      obtain ⟨hj, hb⟩ := List.getElem?_eq_some_iff.1 hj
      have hle := List.pairwise_iff_getElem.1 deeper j i hj hi hji
      rw [ha, hb] at hle
      omega
    · rw [hi] at hj
      exact hne (Option.some.inj hj)

/-- There is at most one outermost call. -/
theorem IsOutermostCall.address_eq {e c d : Expr} {a b : List Nat} (h : e.IsOutermostCall a c)
    (h' : e.IsOutermostCall b d) : a = b := by
  by_contra hne
  have hlength : a.length = b.length :=
    Nat.le_antisymm (h.shallowest b d h'.found h'.isCall) (h'.shallowest a c h.found h.isCall)
  have hlt := h.leftmost b d h'.found h'.isCall hlength.symm (Ne.symm hne)
  have hgt := h'.leftmost a c h.found h.isCall hlength hne
  exact List.lt_asymm hlt hgt

theorem isOutermostCall_head {e : Expr} {x : Occurrence} {rest : List Occurrence}
    (h : e.callOccurrences = x :: rest) : e.IsOutermostCall x.address x.part := by
  obtain ⟨hfound, hcall⟩ := mem_callOccurrences_iff.1 (h ▸ List.mem_cons_self)
  have ordered := pairwise_callOccurrences e
  rw [h] at ordered
  have first : ∀ b d, e.at? b = some d → d.isCall = true →
      b = x.address ∨ List.Shortlex (· < ·) x.address b := by
    intro b d hb hd
    have hmem : ⟨b, d⟩ ∈ x :: rest := h ▸ mem_callOccurrences_iff.2 ⟨hb, hd⟩
    rcases List.mem_cons.1 hmem with rfl | hmem
    · exact .inl rfl
    · exact .inr (List.rel_of_pairwise_cons ordered hmem)
  refine ⟨hfound, hcall, ?_, ?_⟩
  · intro b d hb hd
    rcases first b d hb hd with rfl | hbefore
    · exact Nat.le_refl _
    · exact length_le_of_shortlex hbefore
  · intro b d hb hd hlength hne
    rcases first b d hb hd with heq | hbefore
    · exact absurd heq hne
    · exact lt_of_shortlex hbefore hlength.symm

/-- The first call that is visited is the outermost one. -/
theorem head?_calls_eq_some_iff {e c : Expr} :
    e.calls.head? = some c ↔ ∃ a, e.IsOutermostCall a c := by
  rw [calls_eq]
  cases hcalls : e.callOccurrences with
  | nil =>
      have none : ¬ ∃ a, e.IsOutermostCall a c := by
        rintro ⟨a, h⟩
        have hmem : ⟨a, c⟩ ∈ e.callOccurrences := mem_callOccurrences_iff.2 ⟨h.found, h.isCall⟩
        rw [hcalls] at hmem
        cases hmem
      simp [none]
  | cons x rest =>
      have outermost := isOutermostCall_head hcalls
      rw [List.map_cons, List.head?_cons, Option.some.injEq]
      constructor
      · rintro rfl
        exact ⟨x.address, outermost⟩
      · rintro ⟨a, h⟩
        have hfound := h.found
        rw [h.address_eq outermost, outermost.found] at hfound
        exact Option.some.inj hfound

end Expr

/-- The calls in an expression are visited from the outside in, each of them once. The first of them is
one that lies least deep, and it alone decides whether an expression writes a link with a generic
text. -/
theorem calls_outermostFirst (e : Expr) :
    (∃ addresses, e.OutermostFirst e.calls addresses) ∧
    (∀ c, e.calls.head? = some c ↔ ∃ a, e.IsOutermostCall a c) ∧
    (LinkText.isGenericLink e = true ↔
      ∃ a c, e.IsOutermostCall a c ∧ LinkText.isGenericCall c = true) := by
  refine ⟨⟨_, e.outermostFirst_calls⟩, fun c => Expr.head?_calls_eq_some_iff, ?_⟩
  rw [LinkText.isGenericLink]
  constructor
  · intro h
    cases hfirst : e.calls.head? with
    | none => simp [hfirst] at h
    | some c =>
        obtain ⟨a, outermost⟩ := Expr.head?_calls_eq_some_iff.1 hfirst
        exact ⟨a, c, outermost, by simpa [hfirst] using h⟩
  · rintro ⟨a, c, outermost, hgeneric⟩
    have hfirst := Expr.head?_calls_eq_some_iff.2 ⟨a, outermost⟩
    simpa [hfirst] using hgeneric

/-- The call that stands first in the text lies deeper than the one behind it, which is the link. -/
theorem calls_outermostFirst_sum :
    ∃ e, Expr.parse "f(g()).x + link_to('More')".toList = .ok (some e) ∧
      e.calls.map Expr.calleeName = [some "link_to", some "f", some "g"] ∧
      (∃ addresses, e.OutermostFirst e.calls addresses) ∧
      ∃ a c, e.IsOutermostCall a c ∧ LinkText.isGenericCall c = true := by
  have hvisited : (Expr.parse "f(g()).x + link_to('More')".toList).toOption.join.map
      (fun e => (e.calls.map Expr.calleeName, LinkText.isGenericLink e)) =
        some ([some "link_to", some "f", some "g"], true) := by
    decide +kernel
  obtain ⟨e, he, hcalls⟩ := Option.map_eq_some_iff.1 hvisited
  have hparse := eq_ok_of_toOption (Option.join_eq_some_iff.1 he)
  obtain ⟨hnames, hgeneric⟩ := Prod.mk.inj hcalls
  obtain ⟨hordered, -, hlink⟩ := calls_outermostFirst e
  exact ⟨e, hparse, hnames, hordered, hlink.1 hgeneric⟩

end MarkupAudit
