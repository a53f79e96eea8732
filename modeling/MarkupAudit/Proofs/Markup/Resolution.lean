import MarkupAudit.Markup.ValueSet

/-!
# What the value of an attribute can be

The strings that code writes out are those that some choice of a branch at each of its conditions
leads to, and the values of an attribute are those strings, one per fragment, in a row. Resolution
finds exactly these values, as long as it does not reach code that is nested too deep to be judged.
-/

namespace MarkupAudit

/-- A list names the things with a property: at least one, none twice, and no others. -/
structure Enumerates {α : Type} (values : List α) (P : α → Prop) : Prop where
  ne_nil : values ≠ []
  nodup : values.Nodup
  mem_iff : ∀ v, v ∈ values ↔ P v

theorem Enumerates.singleton {α : Type} (a : α) : Enumerates [a] (· = a) where
  ne_nil := List.cons_ne_nil _ _
  nodup := by simp
  mem_iff := fun _ => List.mem_singleton

theorem Enumerates.congr {α : Type} {values : List α} {P Q : α → Prop} (h : Enumerates values P)
    (hPQ : ∀ v, P v ↔ Q v) : Enumerates values Q where
  ne_nil := h.ne_nil
  nodup := h.nodup
  mem_iff := fun v => (h.mem_iff v).trans (hPQ v)

namespace Expr

/-- A string constant, or a condition between such expressions. -/
inductive IsLiteralTree : Expr → Prop
  | str (value : CodeText) : IsLiteralTree (.str value)
  | conditional (test : Expr) {body alternative : Expr} (hbody : IsLiteralTree body)
      (halternative : IsLiteralTree alternative) :
      IsLiteralTree (.conditional test body alternative)

/-- The string at the end of some way through the conditions of an expression. -/
inductive Chooses : Expr → CodeText → Prop
  | str (value : CodeText) : Chooses (.str value) value
  | body (test alternative : Expr) {body : Expr} {value : CodeText} (h : Chooses body value) :
      Chooses (.conditional test body alternative) value
  | alternative (test body : Expr) {alternative : Expr} {value : CodeText}
      (h : Chooses alternative value) : Chooses (.conditional test body alternative) value

theorem chooses_str_iff {s v : CodeText} : Chooses (.str s) v ↔ v = s := by
  constructor
  · intro h
    cases h
    rfl
  · rintro rfl
    exact .str _

theorem chooses_conditional_iff {test body alternative : Expr} {v : CodeText} :
    Chooses (.conditional test body alternative) v ↔
      Chooses body v ∨ Chooses alternative v := by
  constructor
  · intro h
    cases h with
    | body _ _ h => exact .inl h
    | alternative _ _ h => exact .inr h
  · rintro (h | h)
    · exact .body _ _ h
    · exact .alternative _ _ h

theorem IsLiteralTree.exists_literals? {e : Expr} (h : e.IsLiteralTree) :
    ∃ values, e.literals? = some values := by
  induction h with
  | str value => exact ⟨_, rfl⟩
  | conditional test _ _ ihbody ihalternative =>
      obtain ⟨xs, hxs⟩ := ihbody
      obtain ⟨ys, hys⟩ := ihalternative
      exact ⟨_, by rw [literals?, hxs, hys]⟩

theorem isLiteralTree_of_literals? {e : Expr} {values : List CodeText}
    (h : e.literals? = some values) : e.IsLiteralTree := by
  fun_induction literals? e generalizing values with
  | case1 value => exact .str value
  | case2 test body alternative ys xs hys hxs ihbody ihalternative =>
      exact .conditional test (ihbody hxs) (ihalternative hys)
  | case3 => cases h
  | case4 => cases h

/-- Two lists of things, the second without what is in the first. -/
theorem enumerates_append_filter {α : Type} [BEq α] [LawfulBEq α] {xs ys : List α}
    {P Q : α → Prop} (hxs : Enumerates xs P) (hys : Enumerates ys Q) :
    Enumerates (xs ++ ys.filter fun y => !xs.contains y) (fun v => P v ∨ Q v) where
  ne_nil := by simp [hxs.ne_nil]
  nodup := by
    refine List.nodup_append.2 ⟨hxs.nodup, hys.nodup.filter _, ?_⟩
    rintro a ha b hb rfl
    simp [ha] at hb
  mem_iff := fun v => by
    rw [← hxs.mem_iff, ← hys.mem_iff]
    by_cases hv : v ∈ xs <;> simp [hv]

/-- The strings that an expression writes out are those that its choices lead to. -/
theorem enumerates_literals? {e : Expr} {values : List CodeText} (h : e.literals? = some values) :
    Enumerates values e.Chooses := by
  fun_induction literals? e generalizing values with
  | case1 value =>
      cases h
      exact (Enumerates.singleton value).congr fun v => chooses_str_iff.symm
  | case2 test body alternative ys xs hys hxs ihbody ihalternative =>
      cases h
      exact (enumerates_append_filter (ihbody hxs) (ihalternative hys)).congr
        fun v => chooses_conditional_iff.symm
  | case3 => cases h
  | case4 => cases h

end Expr

/-- A judgement on code whose faults, whose form and whose choices are given: it names the fault, or
there is none and it says whether all strings are written out, and which they are. -/
inductive Judges (Faults : DepthFault → Prop) (IsLiteral : Prop) (Chooses : CodeText → Prop) :
    Except DepthFault (Option (List CodeText)) → Prop
  | fault {fault : DepthFault} (h : ∀ f, Faults f ↔ f = fault) :
      Judges Faults IsLiteral Chooses (.error fault)
  | unknown (hsound : ∀ f, ¬ Faults f) (h : ¬ IsLiteral) :
      Judges Faults IsLiteral Chooses (.ok none)
  | known {values : List CodeText} (hsound : ∀ f, ¬ Faults f) (h : IsLiteral)
      (hvalues : Enumerates values Chooses) : Judges Faults IsLiteral Chooses (.ok (some values))

theorem Judges.congr {Faults Faults' : DepthFault → Prop} {IsLiteral IsLiteral' : Prop}
    {Chooses Chooses' : CodeText → Prop} {r : Except DepthFault (Option (List CodeText))}
    (h : Judges Faults IsLiteral Chooses r) (hfaults : ∀ f, Faults f ↔ Faults' f)
    (hliteral : IsLiteral ↔ IsLiteral') (hchooses : ∀ v, Chooses v ↔ Chooses' v) :
    Judges Faults' IsLiteral' Chooses' r := by
  obtain rfl : Faults = Faults' := funext fun f => propext (hfaults f)
  obtain rfl : Chooses = Chooses' := funext fun v => propext (hchooses v)
  rwa [← hliteral]

/-- The strings of an expression are a judgement on it, in which nothing but the depth of its
conditions is a fault. -/
theorem Expr.judges_literals (e : Expr) :
    Judges (fun f => f = .branches ∧ maxBranches < e.branchDepth) e.IsLiteralTree e.Chooses
      e.literals := by
  rw [literals]
  split
  · rename_i hdepth
    have hsound : ∀ f, ¬ (f = DepthFault.branches ∧ maxBranches < e.branchDepth) :=
      fun f hf => absurd hdepth (Nat.not_le.2 hf.2)
    cases hvalues : e.literals? with
    | none =>
        refine .unknown hsound fun htree => ?_
        obtain ⟨values, h⟩ := htree.exists_literals?
        rw [hvalues] at h
        cases h
    | some values =>
        exact .known hsound (isLiteralTree_of_literals? hvalues) (enumerates_literals? hvalues)
  · rename_i hdepth
    exact .fault fun f => and_iff_left (Nat.not_le.1 hdepth)

/-- A block that writes the value of an expression into the page. -/
def Node.Outputs (n : Node) (e : Expr) : Prop :=
  ∃ code, n.output? = some code ∧ Expr.parse code = .ok (some e)

theorem Node.Outputs.unique {n : Node} {e e' : Expr} (h : n.Outputs e) (h' : n.Outputs e') :
    e = e' := by
  obtain ⟨code, hcode, he⟩ := h
  obtain ⟨code', hcode', he'⟩ := h'
  rw [hcode] at hcode'
  cases hcode'
  rw [he] at he'
  cases he'
  rfl

namespace Fragment

/-- Text as written, or a block that writes the value of a literal tree into the page. -/
inductive IsLiteral : Fragment → Prop
  | literal (text : Text) : IsLiteral (.literal text)
  | code {block : Node} {e : Expr} (houtputs : block.Outputs e) (htree : e.IsLiteralTree) :
      IsLiteral (.code block)

/-- A string that a fragment leads to by some choice at each of its conditions. -/
inductive Chooses : Fragment → CodeText → Prop
  | literal (text : Text) : Chooses (.literal text) (CodeText.ofText text)
  | code {block : Node} {e : Expr} {value : CodeText} (houtputs : block.Outputs e)
      (hchooses : e.Chooses value) : Chooses (.code block) value

/-- A string that fragments in a row lead to: the strings of each, joined in order. -/
inductive ChooseAll : List Fragment → CodeText → Prop
  | nil : ChooseAll [] []
  | cons {f : Fragment} {fs : List Fragment} {head tail : CodeText} (hhead : f.Chooses head)
      (htail : ChooseAll fs tail) : ChooseAll (f :: fs) (head ++ tail)

/-- A fragment whose code is nested too deep: for reading it, or for following its conditions. -/
inductive Faults : Fragment → DepthFault → Prop
  | parse {block : Node} {code : Text} {fault : DepthFault} (hcode : block.output? = some code)
      (hparse : Expr.parse code = .error fault) : Faults (.code block) fault
  | branches {block : Node} {e : Expr} (houtputs : block.Outputs e)
      (hdeep : Expr.maxBranches < e.branchDepth) : Faults (.code block) .branches

/-- Fragments in a row whose first faulty one stands before any that is not literal. -/
def Stops (fs : List Fragment) (fault : DepthFault) : Prop :=
  ∃ front f rest, fs = front ++ f :: rest ∧
    (∀ g ∈ front, g.IsLiteral ∧ ∀ fault, ¬ g.Faults fault) ∧ f.Faults fault

theorem chooses_code_iff {block : Node} {e : Expr} {v : CodeText} (h : block.Outputs e) :
    Chooses (.code block) v ↔ e.Chooses v := by
  constructor
  · intro hv
    cases hv with
    | code h' hv => exact h.unique h' ▸ hv
  · exact .code h

theorem chooseAll_nil_iff {v : CodeText} : ChooseAll [] v ↔ v = [] := by
  constructor
  · intro h
    cases h
    rfl
  · rintro rfl
    exact .nil

theorem chooseAll_cons_iff {f : Fragment} {fs : List Fragment} {v : CodeText} :
    ChooseAll (f :: fs) v ↔ ∃ head, f.Chooses head ∧ ∃ tail, ChooseAll fs tail ∧ head ++ tail = v := by
  constructor
  · intro h
    cases h with
    | cons hhead htail => exact ⟨_, hhead, _, htail, rfl⟩
  · rintro ⟨head, hhead, tail, htail, rfl⟩
    exact .cons hhead htail

/-- Fragments stop at their first one, or behind it if that one is written out. -/
theorem stops_cons_iff {f : Fragment} {fs : List Fragment} {fault : DepthFault} :
    Stops (f :: fs) fault ↔
      f.Faults fault ∨ (f.IsLiteral ∧ ∀ g, ¬ f.Faults g) ∧ Stops fs fault := by
  constructor
  · rintro ⟨front, g, rest, hfs, hfront, hg⟩
    cases front with
    | nil =>
        cases hfs
        exact .inl hg
    | cons f' front =>
        cases hfs
        obtain ⟨hf, hfront⟩ := List.forall_mem_cons.1 hfront
        exact .inr ⟨hf, front, g, rest, rfl, hfront, hg⟩
  · rintro (hf | ⟨hf, front, g, rest, rfl, hfront, hg⟩)
    · exact ⟨[], f, fs, rfl, by simp, hf⟩
    · exact ⟨f :: front, g, rest, rfl, List.forall_mem_cons.2 ⟨hf, hfront⟩, hg⟩

theorem not_stops_nil (fault : DepthFault) : ¬ Stops [] fault := by
  rintro ⟨front, g, rest, hfs, -⟩
  simp at hfs

theorem faults_of_parse_error {block : Node} {code : Text} {fault f : DepthFault}
    (hcode : block.output? = some code) (hparse : Expr.parse code = .error fault) :
    Faults (.code block) f ↔ f = fault := by
  constructor
  · intro h
    cases h with
    | parse hcode' hparse' => grind
    | branches houtputs _ => grind [Node.Outputs]
  · rintro rfl
    exact .parse hcode hparse

theorem faults_of_outputs {block : Node} {e : Expr} {f : DepthFault} (h : block.Outputs e) :
    Faults (.code block) f ↔ f = .branches ∧ Expr.maxBranches < e.branchDepth := by
  constructor
  · intro hf
    cases hf with
    | parse hcode hparse => grind [Node.Outputs]
    | branches houtputs hdeep => exact ⟨rfl, h.unique houtputs ▸ hdeep⟩
  · rintro ⟨rfl, hdeep⟩
    exact .branches h hdeep

/-- Nothing is known of a block that writes no expression into the page. -/
theorem judges_opaque {block : Node}
    (h : ∀ code, block.output? = some code → Expr.parse code = .ok none) :
    Judges (Faults (.code block)) (IsLiteral (.code block)) (Chooses (.code block)) (.ok none) := by
  have hnone : ∀ e, ¬ block.Outputs e := by
    rintro e ⟨code, hcode, hparse⟩
    rw [h code hcode] at hparse
    cases hparse
  refine .unknown ?_ ?_
  · intro fault hf
    cases hf with
    | parse hcode hparse =>
        rw [h _ hcode] at hparse
        cases hparse
    | branches houtputs _ => exact hnone _ houtputs
  · intro hf
    cases hf with
    | code houtputs _ => exact hnone _ houtputs

theorem isLiteral_code_iff {block : Node} {e : Expr} (h : block.Outputs e) :
    IsLiteral (.code block) ↔ e.IsLiteralTree := by
  constructor
  · intro hf
    cases hf with
    | code houtputs htree => exact h.unique houtputs ▸ htree
  · exact .code h

/-- The strings of a fragment are a judgement on it. -/
theorem judges_strings (f : Fragment) : Judges f.Faults f.IsLiteral f.Chooses f.strings := by
  cases f with
  | literal text =>
      refine .known (fun _ => nofun) (.literal text) ((Enumerates.singleton _).congr fun v => ?_)
      exact ⟨fun h => h ▸ .literal text, fun h => by cases h; rfl⟩
  | code block =>
      rw [strings]
      cases hcode : block.output? with
      | none => exact judges_opaque (by simp [hcode])
      | some code =>
          simp only
          cases hparse : Expr.parse code with
          | error fault => exact .fault fun f => faults_of_parse_error hcode hparse
          | ok e? =>
              cases e? with
              | none => exact judges_opaque (by simp [hcode, hparse])
              | some e =>
                  have houtputs : block.Outputs e := ⟨code, hcode, hparse⟩
                  exact e.judges_literals.congr (fun f => (faults_of_outputs houtputs).symm)
                    (isLiteral_code_iff houtputs).symm fun v => (chooses_code_iff houtputs).symm

theorem nodup_eraseDups {α : Type} [BEq α] [LawfulBEq α] (xs : List α) : xs.eraseDups.Nodup := by
  -- The tail is filtered before it is looked at, so the induction is on the length.
  induction hn : xs.length using Nat.strongRecOn generalizing xs with
  | ind n ih =>
      cases xs with
      | nil => simp
      | cons x xs =>
          have hlt : (xs.filter fun y => !y == x).length < n :=
            hn ▸ Nat.lt_succ_of_le (List.length_filter_le _ _)
          rw [List.eraseDups_cons, List.nodup_cons]
          exact ⟨by simp, ih _ hlt _ rfl⟩

/-- All ways to join one of some heads with one of some tails. -/
theorem enumerates_joined {heads tails : List CodeText} {P Q : CodeText → Prop}
    (hheads : Enumerates heads P) (htails : Enumerates tails Q) :
    Enumerates (heads.flatMap fun h => tails.map fun t => h ++ t).eraseDups
      (fun v => ∃ head, P head ∧ ∃ tail, Q tail ∧ head ++ tail = v) where
  ne_nil := by
    obtain ⟨h, hh⟩ := List.exists_mem_of_ne_nil _ hheads.ne_nil
    obtain ⟨t, ht⟩ := List.exists_mem_of_ne_nil _ htails.ne_nil
    refine List.ne_nil_of_mem (a := h ++ t) (List.mem_eraseDups.2 ?_)
    exact List.mem_flatMap.2 ⟨h, hh, List.mem_map.2 ⟨t, ht, rfl⟩⟩
  nodup := nodup_eraseDups _
  mem_iff := fun v => by
    simp only [List.mem_eraseDups, List.mem_flatMap, List.mem_map, hheads.mem_iff, htails.mem_iff]

/-- The strings of fragments in a row are a judgement on all of them. -/
theorem judges_allStrings (fs : List Fragment) :
    Judges (Stops fs) (∀ f ∈ fs, f.IsLiteral) (ChooseAll fs) (allStrings fs) := by
  induction fs with
  | nil =>
      exact .known not_stops_nil (by simp)
        ((Enumerates.singleton _).congr fun v => chooseAll_nil_iff.symm)
  | cons f fs ih =>
      have hf := f.judges_strings
      rw [allStrings]
      generalize f.strings = r at hf
      cases hf with
      | fault h =>
          refine .fault fun g => ?_
          have hfault := (h _).2 rfl
          rw [stops_cons_iff, h g]
          exact or_iff_left fun hstop => hstop.1.2 _ hfault
      | unknown hsound h =>
          refine .unknown (fun g hstop => ?_) fun hall => h (List.forall_mem_cons.1 hall).1
          obtain hg | hstop := stops_cons_iff.1 hstop
          · exact hsound g hg
          · exact h hstop.1.1
      | @known heads hsound h hheads =>
          have hstop : ∀ g, Stops fs g ↔ Stops (f :: fs) g := fun g => by
            rw [stops_cons_iff]
            exact ⟨fun hg => .inr ⟨⟨h, hsound⟩, hg⟩, fun hg => (hg.resolve_left (hsound g)).2⟩
          have hall : (∀ g ∈ fs, g.IsLiteral) ↔ ∀ g ∈ f :: fs, g.IsLiteral := by
            rw [List.forall_mem_cons]
            exact (and_iff_right h).symm
          simp only
          generalize allStrings fs = r at ih
          cases ih with
          | fault hfault => exact .fault fun g => (hstop g).symm.trans (hfault g)
          | unknown htail htails =>
              exact .unknown (fun g hg => htail g ((hstop g).2 hg)) fun hg => htails (hall.2 hg)
          | known htail htails hvalues =>
              exact .known (fun g hg => htail g ((hstop g).2 hg)) (hall.1 htails)
                ((enumerates_joined hheads hvalues).congr fun v => chooseAll_cons_iff.symm)

end Fragment

/-- What the value of an attribute is, fault or not, in terms of its fragments. -/
structure Tag.Resolves (t : Tag) (name : Text) (r : Except DepthFault ValueSet) : Prop where
  /-- There is no answer exactly if code that is nested too deep is reached. -/
  fault : ∀ fault, r = .error fault ↔ Fragment.Stops (t.valueOf name) fault
  /-- The attribute is absent exactly if it has no fragments and none can come from code. -/
  absent : r = .ok .absent ↔ t.valueOf name = [] ∧ t.dynamic = false
  /-- The value is known exactly if there are fragments, and all are literal and can be judged. -/
  known : (∃ values, r = .ok (.known values)) ↔
    t.valueOf name ≠ [] ∧ (∀ f ∈ t.valueOf name, f.IsLiteral) ∧
      ∀ fault, ¬ Fragment.Stops (t.valueOf name) fault
  /-- Nothing is known of an attribute that may come from code, or that has a fragment that is not
  literal. -/
  indeterminate : r = .ok .indeterminate ↔
    (t.valueOf name = [] ∧ t.dynamic = true) ∨
      (∃ f ∈ t.valueOf name, ¬ f.IsLiteral) ∧ ∀ fault, ¬ Fragment.Stops (t.valueOf name) fault
  /-- The known values are what the choices of branches lead to. -/
  values : ∀ values, r = .ok (.known values) →
    Enumerates values (Fragment.ChooseAll (t.valueOf name))

theorem Tag.resolves_missing {t : Tag} {name : Text} (hfs : t.valueOf name = []) :
    t.Resolves name (.ok (if t.dynamic then .indeterminate else .absent)) := by
  cases hdynamic : t.dynamic <;>
    constructor <;> simp [hfs, hdynamic, Fragment.not_stops_nil]

/-- A judgement on the fragments of an attribute, of which there is one at least, says what its value
is. -/
theorem Tag.resolves_of_judges {t : Tag} {name : Text} (hfs : t.valueOf name ≠ [])
    {r : Except DepthFault (Option (List CodeText))}
    (h : Judges (Fragment.Stops (t.valueOf name)) (∀ f ∈ t.valueOf name, f.IsLiteral)
      (Fragment.ChooseAll (t.valueOf name)) r) :
    t.Resolves name (r.map fun
      | some values => .known values
      | none => .indeterminate) := by
  cases h with
  | @fault fault h =>
      have hstops : ∀ f, fault = f ↔ Fragment.Stops (t.valueOf name) f :=
        fun f => eq_comm.trans (h f).symm
      have hunsound : ¬ ∀ f, ¬ Fragment.Stops (t.valueOf name) f :=
        fun hsound => hsound fault ((h fault).2 rfl)
      constructor <;> simp [Except.map, hfs, hstops, hunsound]
  | unknown hsound h =>
      have hexists : ∃ f ∈ t.valueOf name, ¬ f.IsLiteral := by simpa using h
      constructor <;> simp [Except.map, hfs, hsound, h, hexists]
  | known hsound h hvalues =>
      have hforall : ¬ ∃ f ∈ t.valueOf name, ¬ f.IsLiteral := fun ⟨f, hf, hne⟩ => hne (h f hf)
      constructor <;> simp [Except.map, hfs, hsound, hforall]
      case known => exact h
      case values => exact hvalues

/-- Resolution is exact: it stops at code that is nested too deep and nowhere else, and otherwise
gives exactly one of the three states, each under its own condition, with all values that the choices
of branches lead to and no others. -/
theorem resolve_exact (t : Tag) (name : Text) : t.Resolves name (t.resolve name) := by
  unfold Tag.resolve
  split
  · rename_i hfs
    exact Tag.resolves_missing hfs
  · rename_i hfs
    exact Tag.resolves_of_judges hfs (Fragment.judges_allStrings _)

example :
    let block : Node := ⟨.code, ⟨0, 23⟩, "\x7b\x7b 'b' if c else 'd' \x7d\x7d".toList, []⟩
    let tag : Tag :=
      { name := ['p'], attributes := [(['x'], [.literal ['a'], .code block])], closing := false
        selfClosing := false, dynamic := false, span := ⟨0, 30⟩ }
    (tag.resolve ['X']).toOption =
      some (.known [CodeText.ofText ['a', 'b'], CodeText.ofText ['a', 'd']]) := by
  decide +kernel

end MarkupAudit
