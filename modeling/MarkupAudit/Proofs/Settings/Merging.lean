import MarkupAudit.Proofs.Settings.RuleSection

/-!
# Laying settings over others

Entries that are laid over settings are merged with them path by path (`IsMerge`): as long as both
sides hold objects, both go on; where the upper side has nothing the lower one stays, and where
not both hold objects the upper one takes its place. So a second time changes nothing
(`Entries.merge_merge`), and settings laid over themselves are themselves (`Entries.merge_self`).

What takes another's place is copied, and a copy fails if it is nested too deep. `CopiesShallow`
says when no copy fails. Else the entries before the one whose copy failed have been laid over the
settings already (`Settings.overlay_laws`).
-/

namespace MarkupAudit

/-! ### Settings as they are read from a file -/

/-- A value whose objects have strings for keys, each of them once. -/
inductive Value.IsJson : Value → Prop
  | scalar (s : Scalar) : IsJson (.scalar s)
  | list {items : List Value} (items_isJson : ∀ v ∈ items, IsJson v) : IsJson (.list items)
  | object {entries : Entries} (strings : ∀ e ∈ entries, ∃ t, e.1 = .str t)
      (distinct : entries.Distinct) (values_isJson : ∀ e ∈ entries, IsJson e.2) :
      IsJson (.object entries)

/-- The entries of such an object. -/
structure Entries.IsJson (entries : Entries) : Prop where
  strings : ∀ e ∈ entries, ∃ t, e.1 = .str t
  distinct : entries.Distinct
  values : ∀ e ∈ entries, e.2.IsJson

theorem Value.isJson_object {entries : Entries} :
    (Value.object entries).IsJson ↔ entries.IsJson := by
  constructor
  · rintro (_ | _ | ⟨strings, distinct, values⟩)
    exact ⟨strings, distinct, values⟩
  · exact fun h => .object h.strings h.distinct h.values

namespace Entries

theorem find?_cons (key : Scalar) (value : Value) (rest : Entries) (t : CodeText) :
    find? ((key, value) :: rest) (.str t) =
      if key.sameKey (.str t) then some value else find? rest (.str t) := by
  unfold find?
  rw [List.find?_cons]
  cases key.sameKey (.str t) <;> rfl

theorem mem_of_find?_str {entries : Entries} {t : CodeText} {v : Value}
    (h : entries.find? (.str t) = some v) : (.str t, v) ∈ entries := by
  obtain ⟨e, he, rfl⟩ := Option.map_eq_some_iff.1 h
  have hkey : e.1 = .str t := Scalar.sameKey_str.1 (by simpa using List.find?_some he)
  rw [← hkey]
  exact List.mem_of_find?_eq_some he

theorem IsJson.find? {entries : Entries} (h : entries.IsJson) {t : CodeText} {v : Value}
    (hv : entries.find? (.str t) = some v) : v.IsJson :=
  h.values _ (mem_of_find?_str hv)

theorem IsJson.tail {e : Scalar × Value} {rest : Entries} (h : IsJson (e :: rest)) : IsJson rest :=
  ⟨(List.forall_mem_cons.1 h.strings).2, (List.pairwise_cons.1 h.distinct).2,
    (List.forall_mem_cons.1 h.values).2⟩

theorem isJson_nil : Entries.IsJson [] :=
  ⟨List.forall_mem_nil _, List.Pairwise.nil, List.forall_mem_nil _⟩

theorem IsJson.put {entries : Entries} (h : entries.IsJson) (key : CodeText) {v : Value}
    (hv : v.IsJson) : IsJson (entries.put (.str key) v) where
  strings e he := by
    have hkey : e.1 ∈ (entries.put (.str key) v).map Prod.fst := List.mem_map_of_mem he
    have old : e.1 ∈ entries.map Prod.fst → ∃ t, e.1 = .str t := by
      intro hold
      obtain ⟨e', he', heq⟩ := List.mem_map.1 hold
      rw [← heq]
      exact h.strings e' he'
    rcases map_put entries (.str key) v with same | ⟨-, added⟩
    · exact old (same ▸ hkey)
    · rw [added, List.mem_append, List.mem_singleton] at hkey
      exact hkey.elim old fun hnew => ⟨key, hnew⟩
  distinct := distinct_put h.distinct _ _
  values e he := by
    rcases mem_put he with hold | hnew
    · exact h.values e hold
    · rw [hnew]
      exact hv

/-- The first key of such entries does not occur behind it. -/
theorem IsJson.find?_tail {t : CodeText} {value : Value} {rest : Entries}
    (h : IsJson ((.str t, value) :: rest)) : rest.find? (.str t) = none := by
  cases hfind : rest.find? (.str t) with
  | none => rfl
  | some v =>
      have hne := (List.pairwise_cons.1 h.distinct).1 _ (mem_of_find?_str hfind)
      rw [Scalar.sameKey_str.2 rfl] at hne
      cases hne

end Entries

/-! ### Merging, key by key -/

namespace Entries

/-- What a key is bound to after merging. -/
theorem find?_merge {upper : Entries} (h : upper.IsJson) (base : Entries) (t : CodeText) :
    (merge base upper).find? (.str t) =
      match upper.find? (.str t) with
      | none => base.find? (.str t)
      | some v => some (Value.mergeOver (base.find? (.str t)) v) := by
  induction upper generalizing base with
  | nil => rfl
  | cons e rest ih =>
      obtain ⟨key, value⟩ := e
      obtain ⟨s, rfl⟩ := h.strings _ List.mem_cons_self
      rw [merge, ih h.tail, find?_put, find?_cons]
      by_cases hkey : Scalar.sameKey (.str s) (.str t) = true
      · have hst := Scalar.str.inj (Scalar.sameKey_str.1 hkey)
        rw [if_pos hkey, if_pos hkey, ← hst, h.find?_tail]
      · rw [if_neg hkey, if_neg hkey]

theorem map_put_str (entries : Entries) (t : CodeText) (value : Value) :
    (entries.put (.str t) value).map Prod.fst =
      entries.map Prod.fst ++ [Scalar.str t].filter fun k => (entries.find? k).isNone := by
  induction entries with
  | nil => rfl
  | cons e rest ih =>
      obtain ⟨key, v⟩ := e
      simp only [List.filter_cons, List.filter_nil] at ih ⊢
      by_cases hkey : key.sameKey (.str t) = true
      · simp [put, find?_cons, hkey]
      · simp [put, find?_cons, hkey, ih]

/-- Merging leaves the keys in their order, and new keys follow in theirs. -/
theorem map_merge {upper : Entries} (h : upper.IsJson) (base : Entries) :
    (merge base upper).map Prod.fst =
      base.map Prod.fst ++ (upper.map Prod.fst).filter fun k => (base.find? k).isNone := by
  induction upper generalizing base with
  | nil => simp [merge]
  | cons e rest ih =>
      obtain ⟨key, value⟩ := e
      obtain ⟨s, rfl⟩ := h.strings _ List.mem_cons_self
      -- the keys behind the first one are new after it was bound exactly if they were new before
      have hrest : ∀ k ∈ rest.map Prod.fst, ∀ v,
          (find? (base.put (.str s) v) k).isNone = (base.find? k).isNone := by
        intro k hk v
        obtain ⟨e, he, rfl⟩ := List.mem_map.1 hk
        obtain ⟨t, ht⟩ := h.tail.strings e he
        have hne := (List.pairwise_cons.1 h.distinct).1 e he
        rw [ht] at hne ⊢
        rw [find?_put, hne]
        rfl
      rw [merge, ih h.tail, map_put_str, List.filter_congr fun k hk => hrest k hk _,
        List.append_assoc, ← List.filter_append]
      rfl

end Entries

/-! ### Merging again -/

/-- Entries that change nothing when they are merged: each key is bound already, and to a value that
the merged value changes nothing in. -/
def Entries.Absorbs (base upper : Entries) : Prop :=
  ∀ e ∈ upper, ∃ t w, e.1 = .str t ∧ base.find? (.str t) = some w ∧
    Value.mergeOver (some w) e.2 = w

theorem Entries.Absorbs.merge {base upper : Entries} (h : Absorbs base upper) :
    Entries.merge base upper = base := by
  induction upper with
  | nil => rfl
  | cons e rest ih =>
      obtain ⟨key, value⟩ := e
      obtain ⟨⟨t, w, hkey, hfind, hmerge⟩, hrest⟩ := List.forall_mem_cons.1 h
      cases hkey
      rw [Entries.merge, hfind, hmerge, put_of_find? hfind]
      exact ih hrest

theorem Value.mergeOver_self {v : Value} (h : v.IsJson) : mergeOver (some v) v = v := by
  induction h with
  | scalar s => rfl
  | list items ih => rfl
  | @object entries strings distinct values ih =>
      have absorbs : entries.Absorbs entries := by
        intro e he
        obtain ⟨t, ht⟩ := strings e he
        refine ⟨t, e.2, ht, Entries.find?_of_mem distinct ?_, ih e he⟩
        rw [← ht]
        exact he
      rw [mergeOver, absorbs.merge]

theorem Entries.merge_self {entries : Entries} (h : entries.IsJson) :
    Entries.merge entries entries = entries :=
  Value.object.inj (Value.mergeOver_self (Value.isJson_object.2 h))

theorem Entries.absorbs_merge {upper : Entries} (h : upper.IsJson)
    (hvalues : ∀ e ∈ upper, ∀ lower?,
      Value.mergeOver (some (Value.mergeOver lower? e.2)) e.2 = Value.mergeOver lower? e.2)
    (base : Entries) : Absorbs (Entries.merge base upper) upper := by
  intro e he
  obtain ⟨t, ht⟩ := h.strings e he
  have hfind : upper.find? (.str t) = some e.2 := find?_of_mem h.distinct (ht ▸ he)
  refine ⟨t, _, ht, ?_, hvalues e he (base.find? (.str t))⟩
  rw [find?_merge h, hfind]

/-- Laying a value over another a second time changes nothing. -/
theorem Value.mergeOver_mergeOver {v : Value} (h : v.IsJson) (lower? : Option Value) :
    mergeOver (some (mergeOver lower? v)) v = mergeOver lower? v := by
  induction h generalizing lower? with
  | scalar s => rfl
  | list items ih => rfl
  | @object entries strings distinct values ih =>
      have hjson : entries.IsJson := ⟨strings, distinct, values⟩
      by_cases hlower : ∃ b, lower? = some (.object b)
      · obtain ⟨b, rfl⟩ := hlower
        rw [mergeOver, mergeOver, (Entries.absorbs_merge hjson ih b).merge]
      · have hkept : mergeOver lower? (.object entries) = .object entries := by
          rw [mergeOver]
          intro b hb
          exact hlower ⟨b, hb⟩
        rw [hkept, mergeOver_self (isJson_object.2 hjson)]

theorem Entries.merge_merge {upper : Entries} (h : upper.IsJson) (base : Entries) :
    Entries.merge (Entries.merge base upper) upper = Entries.merge base upper :=
  (absorbs_merge h (fun e he => Value.mergeOver_mergeOver (h.values e he)) base).merge

/-! ### Merging, path by path -/

/-- The value at the end of a sequence of keys. -/
def Value.follow? (v : Value) : (path : List CodeText) → Option Value
  | [] => some v
  | key :: path =>
      match v with
      | .object entries => (Entries.find? entries (.str key)).bind fun w => w.follow? path
      | _ => none

theorem Value.follow?_append (v : Value) (p q : List CodeText) :
    v.follow? (p ++ q) = (v.follow? p).bind fun w => w.follow? q := by
  induction p generalizing v with
  | nil => rfl
  | cons key p ih =>
      cases v with
      | object entries =>
          rw [List.cons_append, follow?, follow?, Option.bind_assoc]
          exact Option.bind_congr fun w _ => ih w
      | _ => rfl

/-- Two values of which both are objects. -/
def BothObjects (lower? : Option Value) (upper : Value) : Prop :=
  ∃ b o, lower? = some (.object b) ∧ upper = .object o

theorem Value.mergeOver_of_not_both {lower? : Option Value} {upper : Value}
    (h : ¬ BothObjects lower? upper) : mergeOver lower? upper = upper := by
  cases upper with
  | object o =>
      rw [mergeOver]
      exact fun b hb => h ⟨b, o, hb, rfl⟩
  | _ => rfl

theorem Value.exists_of_follow? {v : Value} {p : List CodeText} {entries : Entries}
    (h : v.follow? p = some (.object entries)) : ∃ es, v = .object es := by
  cases p with
  | nil => exact ⟨entries, Option.some.inj h⟩
  | cons key p =>
      cases v with
      | object es => exact ⟨es, rfl⟩
      | _ => cases h

/-- As long as both sides hold objects, the objects are merged. -/
theorem follow?_merge {base given b o : Entries} (hgiven : given.IsJson) {p : List CodeText}
    (hb : (Value.object base).follow? p = some (.object b))
    (ho : (Value.object given).follow? p = some (.object o)) :
    o.IsJson ∧
      (Value.object (Entries.merge base given)).follow? p = some (.object (Entries.merge b o)) := by
  induction p generalizing base given with
  | nil =>
      cases hb
      cases ho
      exact ⟨hgiven, rfl⟩
  | cons key p ih =>
      rw [Value.follow?] at hb ho
      obtain ⟨lower, hlower, hb⟩ := Option.bind_eq_some_iff.1 hb
      obtain ⟨upper, hupper, ho⟩ := Option.bind_eq_some_iff.1 ho
      obtain ⟨inner, rfl⟩ := Value.exists_of_follow? hb
      obtain ⟨given, rfl⟩ := Value.exists_of_follow? ho
      rw [Value.follow?, Entries.find?_merge hgiven, hupper, hlower]
      exact ih (Value.isJson_object.1 (hgiven.find? hupper)) hb ho

/-- What entries laid over others come to. Along a path on which both sides hold objects there is
an object, with the keys of the lower side and then the new keys of the upper side. At the first
key that the upper side lacks it goes on as below, and at the first key where not both values are
objects it goes on as above. -/
structure IsMerge (base given merged : Entries) : Prop where
  keys : ∀ {p b o}, (Value.object base).follow? p = some (.object b) →
    (Value.object given).follow? p = some (.object o) →
      ∃ m : Entries, (Value.object merged).follow? p = some (.object m) ∧
        m.map Prod.fst = b.map Prod.fst ++
          (o.map Prod.fst).filter fun k => (Entries.find? b k).isNone
  below : ∀ {p b o} key rest, (Value.object base).follow? p = some (.object b) →
    (Value.object given).follow? p = some (.object o) → Entries.find? o (.str key) = none →
      (Value.object merged).follow? (p ++ key :: rest) =
        (Value.object base).follow? (p ++ key :: rest)
  above : ∀ {p b o u} key rest, (Value.object base).follow? p = some (.object b) →
    (Value.object given).follow? p = some (.object o) → Entries.find? o (.str key) = some u →
    ¬ BothObjects (Entries.find? b (.str key)) u →
      (Value.object merged).follow? (p ++ key :: rest) =
        (Value.object given).follow? (p ++ key :: rest)

theorem isMerge_merge {given : Entries} (hgiven : given.IsJson) (base : Entries) :
    IsMerge base given (Entries.merge base given) where
  keys hb ho := by
    obtain ⟨hjson, hmerged⟩ := follow?_merge hgiven hb ho
    exact ⟨_, hmerged, Entries.map_merge hjson _⟩
  below key rest hb ho hlacks := by
    obtain ⟨hjson, hmerged⟩ := follow?_merge hgiven hb ho
    rw [Value.follow?_append, Value.follow?_append, hmerged, hb, Option.bind_some, Option.bind_some,
      Value.follow?, Value.follow?, Entries.find?_merge hjson, hlacks]
  above key rest hb ho hu hreplaced := by
    obtain ⟨hjson, hmerged⟩ := follow?_merge hgiven hb ho
    rw [Value.follow?_append, Value.follow?_append, hmerged, ho, Option.bind_some, Option.bind_some,
      Value.follow?, Value.follow?, Entries.find?_merge hjson, hu]
    simp only [Value.mergeOver_of_not_both hreplaced]

/-! ### Copying what is laid over -/

/-- Nothing that takes another place in settings is nested too deep. A value is copied unless it
is an object that meets an object, and the objects that are merged around it count as well. -/
def CopiesShallow (within : Nat) (base given : Entries) : Prop :=
  ∀ p b o key u, (Value.object base).follow? p = some (.object b) →
    (Value.object given).follow? p = some (.object o) → Entries.find? o (.str key) = some u →
    ¬ BothObjects (Entries.find? b (.str key)) u →
      within + p.length + u.copyHeight ≤ Value.maxCopyHeight

namespace Value

theorem isSome_copy? {within : Nat} {v : Value} :
    (copy? within v).isSome = true ↔ within + v.copyHeight ≤ maxCopyHeight := by
  unfold copy?
  split <;> simp [*]

theorem snd_copied_of_both (within : Nat) (b o : Entries) :
    (copied within (some (.object b)) (.object o)).2 = (Entries.copied (within + 1) b o).2 := by
  rw [copied]

theorem copied_of_not_both {within : Nat} {lower? : Option Value} {upper : Value}
    (h : ¬ BothObjects lower? upper) :
    copied within lower? upper = (copy? within upper, (copy? within upper).isSome) := by
  cases upper with
  | scalar s => rfl
  | list items => rfl
  | object o =>
      rw [copied]
      exact fun b hb => h ⟨b, o, hb, rfl⟩

theorem snd_copied_of_not_both {within : Nat} {lower? : Option Value} {upper : Value}
    (h : ¬ BothObjects lower? upper) :
    (copied within lower? upper).2 = true ↔ within + upper.copyHeight ≤ maxCopyHeight := by
  rw [copied_of_not_both h]
  exact isSome_copy?

theorem copied_ne (within : Nat) (lower? : Option Value) (upper : Value) :
    copied within lower? upper ≠ (none, true) := by
  by_cases hboth : BothObjects lower? upper
  · obtain ⟨b, o, rfl, rfl⟩ := hboth
    nofun
  · rw [copied_of_not_both hboth]
    cases copy? within upper <;> nofun

end Value

/-- All entries are copied exactly if each of them is. -/
theorem Entries.snd_copied_iff (within : Nat) (base upper : Entries) :
    (Entries.copied within base upper).2 = true ↔
      ∀ e ∈ upper, (Value.copied within (base.find? e.1) e.2).2 = true := by
  induction upper with
  | nil => simp [Entries.copied]
  | cons e rest ih =>
      obtain ⟨key, value⟩ := e
      rw [Entries.copied, List.forall_mem_cons, ← ih]
      rcases hcopied : Value.copied within (base.find? key) value with ⟨_ | v, _ | _⟩
      · simp
      · exact absurd hcopied (Value.copied_ne _ _ _)
      · simp
      · simp

theorem Value.copyHeight_le_of_mem {entries : Entries} {e : Scalar × Value} (h : e ∈ entries) :
    e.2.copyHeight ≤ copyHeightOfEntries entries := by
  induction entries with
  | nil => cases h
  | cons first rest ih =>
      rw [copyHeightOfEntries]
      rcases List.mem_cons.1 h with rfl | h
      · exact Nat.le_max_left _ _
      · exact Nat.le_trans (ih h) (Nat.le_max_right _ _)

/-- A value that is not nested too deep is copied, whatever it is laid over. -/
theorem Value.snd_copied_of_copyHeight {v : Value} (h : v.IsJson) {within : Nat}
    (hheight : within + v.copyHeight ≤ maxCopyHeight) (lower? : Option Value) :
    (copied within lower? v).2 = true := by
  induction h generalizing within lower? with
  | scalar s => exact (snd_copied_of_not_both fun ⟨_, _, _, h⟩ => nomatch h).2 hheight
  | list items ih => exact (snd_copied_of_not_both fun ⟨_, _, _, h⟩ => nomatch h).2 hheight
  | @object entries strings distinct values ih =>
      by_cases hboth : BothObjects lower? (.object entries)
      · obtain ⟨b, o, rfl, -⟩ := hboth
        rw [snd_copied_of_both, Entries.snd_copied_iff]
        intro e he
        have hle := copyHeight_le_of_mem he
        rw [copyHeight] at hheight
        exact ih e he (by omega) _
      · exact (snd_copied_of_not_both hboth).2 hheight

/-- What was copied once is copied when it is laid over the result. -/
theorem Value.snd_copied_again {v : Value} (h : v.IsJson) {within : Nat} {lower? : Option Value}
    (hcopied : (copied within lower? v).2 = true) :
    (copied within (some (mergeOver lower? v)) v).2 = true := by
  induction h generalizing within lower? with
  | scalar s => exact hcopied
  | list items ih => exact hcopied
  | @object entries strings distinct values ih =>
      have hjson : entries.IsJson := ⟨strings, distinct, values⟩
      by_cases hboth : BothObjects lower? (.object entries)
      · obtain ⟨b, o, rfl, -⟩ := hboth
        rw [snd_copied_of_both, Entries.snd_copied_iff] at hcopied
        rw [mergeOver, snd_copied_of_both, Entries.snd_copied_iff]
        intro e he
        obtain ⟨t, ht⟩ := strings e he
        have hfind : Entries.find? entries (.str t) = some e.2 :=
          Entries.find?_of_mem distinct (ht ▸ he)
        have hfirst := hcopied e he
        rw [ht] at hfirst ⊢
        rw [Entries.find?_merge hjson, hfind]
        exact ih e he hfirst
      · -- what replaced another value meets itself now, one object further inside
        rw [mergeOver_of_not_both hboth]
        exact snd_copied_of_copyHeight (isJson_object.2 hjson)
          ((snd_copied_of_not_both hboth).1 hcopied) _

theorem copiesShallow_of_copied {within : Nat} {base given : Entries}
    (h : (Entries.copied within base given).2 = true) : CopiesShallow within base given := by
  intro p
  induction p generalizing within base given with
  | nil =>
      rintro b o key u hb ho hu hreplaced
      cases hb
      cases ho
      have hcopied := (Entries.snd_copied_iff _ _ _).1 h _ (Entries.mem_of_find?_str hu)
      exact (Value.snd_copied_of_not_both hreplaced).1 hcopied
  | cons first p ih =>
      intro b o key u hb ho hu hreplaced
      rw [Value.follow?] at hb ho
      obtain ⟨lower, hlower, hb⟩ := Option.bind_eq_some_iff.1 hb
      obtain ⟨upper, hupper, ho⟩ := Option.bind_eq_some_iff.1 ho
      obtain ⟨inner, rfl⟩ := Value.exists_of_follow? hb
      obtain ⟨given, rfl⟩ := Value.exists_of_follow? ho
      have hcopied := (Entries.snd_copied_iff _ _ _).1 h _ (Entries.mem_of_find?_str hupper)
      rw [hlower, Value.snd_copied_of_both] at hcopied
      have hinner := ih hcopied b o key u hb ho hu hreplaced
      rw [List.length_cons]
      omega

theorem CopiesShallow.inside {within : Nat} {base given b o : Entries} {key : CodeText}
    (h : CopiesShallow within base given) (hb : base.find? (.str key) = some (.object b))
    (ho : given.find? (.str key) = some (.object o)) : CopiesShallow (within + 1) b o := by
  intro p b' o' key' u hb' ho' hu hreplaced
  have houter := h (key :: p) b' o' key' u
    (by rw [Value.follow?, hb]; exact hb') (by rw [Value.follow?, ho]; exact ho') hu hreplaced
  rw [List.length_cons] at houter
  omega

theorem Value.copied_of_shallow {v : Value} (h : v.IsJson) {within : Nat} {lower? : Option Value}
    (hboth : ∀ b o, lower? = some (.object b) → v = .object o → CopiesShallow (within + 1) b o)
    (hreplaced : ¬ BothObjects lower? v → within + v.copyHeight ≤ maxCopyHeight) :
    (copied within lower? v).2 = true := by
  induction h generalizing within lower? with
  | scalar s =>
      have hnot : ¬ BothObjects lower? (.scalar s) := fun ⟨_, _, _, h⟩ => nomatch h
      exact (snd_copied_of_not_both hnot).2 (hreplaced hnot)
  | @list items _ ih =>
      have hnot : ¬ BothObjects lower? (.list items) := fun ⟨_, _, _, h⟩ => nomatch h
      exact (snd_copied_of_not_both hnot).2 (hreplaced hnot)
  | @object entries strings distinct values ih =>
      by_cases hobjects : BothObjects lower? (.object entries)
      · obtain ⟨b, o, rfl, -⟩ := hobjects
        have hshallow := hboth b entries rfl rfl
        rw [snd_copied_of_both, Entries.snd_copied_iff]
        intro e he
        obtain ⟨t, ht⟩ := strings e he
        have hfind : Entries.find? entries (.str t) = some e.2 :=
          Entries.find?_of_mem distinct (ht ▸ he)
        rw [ht]
        refine ih e he ?_ ?_
        · intro b' o' hb' ho'
          exact hshallow.inside hb' (ho' ▸ hfind)
        · exact hshallow [] b entries t e.2 rfl rfl hfind
      · exact (snd_copied_of_not_both hobjects).2 (hreplaced hobjects)

/-- Entries can be laid over others exactly if nothing that is copied is nested too deep. -/
theorem copied_iff_shallow {within : Nat} {base given : Entries} (hgiven : given.IsJson) :
    (Entries.copied within base given).2 = true ↔ CopiesShallow within base given := by
  refine ⟨copiesShallow_of_copied, fun h => (Entries.snd_copied_iff _ _ _).2 fun e he => ?_⟩
  obtain ⟨t, ht⟩ := hgiven.strings e he
  have hfind : given.find? (.str t) = some e.2 := Entries.find?_of_mem hgiven.distinct (ht ▸ he)
  rw [ht]
  refine Value.copied_of_shallow (hgiven.values e he) ?_ ?_
  · intro b o hb ho
    exact h.inside hb (ho ▸ hfind)
  · exact h [] base given t e.2 rfl rfl hfind

/-! ### Laying entries over settings -/

namespace Settings

theorem overlay_of_copied {base given : Entries} (h : (Entries.copied 0 base given).2 = true) :
    overlay (.object base) given = ⟨.object (Entries.merge base given), .ok true, []⟩ := by
  rw [overlay]
  rcases hcopied : Entries.copied 0 base given with ⟨front, complete⟩
  rw [hcopied] at h
  cases h
  rfl

theorem overlay_of_not_copied {base given : Entries}
    (h : ¬ (Entries.copied 0 base given).2 = true) :
    overlay (.object base) given =
      ⟨.object (Entries.merge base (Entries.copied 0 base given).1), .error .copy, []⟩ := by
  rw [overlay]
  rcases hcopied : Entries.copied 0 base given with ⟨front, complete⟩
  rw [hcopied] at h
  cases complete with
  | true => exact absurd rfl h
  | false => rfl

/-- Entries laid over settings are merged with them path by path. A second time this changes
nothing, and neither does laying nothing or the settings themselves over them. The settings are so
changed exactly if nothing that is copied is nested too deep; else only some of the entries are
laid over them, up to the value that could not be copied. -/
theorem overlay_laws {base given : Entries} (hbase : base.IsJson) (hgiven : given.IsJson) :
    IsMerge base given (Entries.merge base given) ∧
      Entries.merge (Entries.merge base given) given = Entries.merge base given ∧
      Entries.merge base [] = base ∧ Entries.merge base base = base ∧
      (CopiesShallow 0 base given →
        overlay (.object base) given = ⟨.object (Entries.merge base given), .ok true, []⟩ ∧
          overlay (.object (Entries.merge base given)) given =
            ⟨.object (Entries.merge base given), .ok true, []⟩) ∧
      (¬ CopiesShallow 0 base given →
        ∃ front : Entries, front.map Prod.fst <+: given.map Prod.fst ∧
          overlay (.object base) given =
            ⟨.object (Entries.merge base front), .error .copy, []⟩) := by
  have again := Entries.merge_merge hgiven base
  refine ⟨isMerge_merge hgiven base, again, rfl, Entries.merge_self hbase, ?_, ?_⟩
  · intro hshallow
    have hcopied := (copied_iff_shallow hgiven).2 hshallow
    have hagain : (Entries.copied 0 (Entries.merge base given) given).2 = true := by
      rw [Entries.snd_copied_iff] at hcopied ⊢
      intro e he
      obtain ⟨t, ht⟩ := hgiven.strings e he
      have hfind : given.find? (.str t) = some e.2 := Entries.find?_of_mem hgiven.distinct (ht ▸ he)
      have hfirst := hcopied e he
      rw [ht] at hfirst ⊢
      rw [Entries.find?_merge hgiven, hfind]
      exact Value.snd_copied_again (hgiven.values e he) hfirst
    refine ⟨overlay_of_copied hcopied, ?_⟩
    rw [overlay_of_copied hagain, again]
  · intro hdeep
    have hcopied := mt (copied_iff_shallow hgiven).1 hdeep
    exact ⟨_, Entries.keys_copied 0 base given, overlay_of_not_copied hcopied⟩

/-- Lists in each other. -/
def nestedList : Nat → Value
  | 0 => .list []
  | n + 1 => .list [nestedList n]

theorem copyHeight_nestedList (n : Nat) : (nestedList n).copyHeight = 2 * n + 3 := by
  induction n with
  | zero => rfl
  | succ n ih =>
      rw [nestedList, Value.copyHeight, Value.copyHeightOfItems, Value.copyHeightOfItems, ih]
      omega

theorem isJson_nestedList (n : Nat) : (nestedList n).IsJson := by
  induction n with
  | zero => exact .list (List.forall_mem_nil _)
  | succ n ih => exact .list (List.forall_mem_singleton.2 ih)

/-- Settings with a section of two keys. -/
def twoKeys : Entries :=
  [(.key "audit", .object [(.key "workers", .int 1), (.key "extensions", .list [])])]

/-- Settings that set one of these keys. -/
def oneKey : Entries :=
  [(.key "audit", .object [(.key "workers", .int 8)])]

theorem isJson_twoKeys : Entries.IsJson twoKeys where
  strings := by simp [twoKeys]
  distinct := by simp [twoKeys, Entries.Distinct]
  values := by
    refine List.forall_mem_singleton.2 (.object (by simp) (by simp [Entries.Distinct]) ?_)
    simp [Value.IsJson.scalar, Value.IsJson.list]

/-- One of two keys is set, also the second time. Lists that are nested too deep are refused when
the key before them was set. -/
theorem overlay_laws_nested :
    overlay (.object twoKeys) oneKey = ⟨.object (Entries.merge twoKeys oneKey), .ok true, []⟩ ∧
      overlay (.object (Entries.merge twoKeys oneKey)) oneKey =
        ⟨.object (Entries.merge twoKeys oneKey), .ok true, []⟩ ∧
      (Value.object (Entries.merge twoKeys oneKey)).follow?
        [CodeText.ofString "audit", CodeText.ofString "extensions"] = some (.list []) ∧
      ∃ front, overlay (.object twoKeys) (oneKey ++ [(.key "deep", nestedList 700)]) =
        ⟨.object (Entries.merge twoKeys front), .error .copy, []⟩ := by
  have single : Entries.IsJson oneKey := by
    refine ⟨by simp [oneKey], by simp [oneKey, Entries.Distinct], List.forall_mem_singleton.2 ?_⟩
    exact .object (by simp) (by simp [Entries.Distinct]) (by simp [Value.IsJson.scalar])
  have deep : Entries.IsJson (oneKey ++ [(.key "deep", nestedList 700)]) := by
    refine ⟨by simp [oneKey], by simp [oneKey, Entries.Distinct], ?_⟩
    exact List.forall_mem_append.2
      ⟨single.values, List.forall_mem_singleton.2 (isJson_nestedList 700)⟩
  obtain ⟨isMerge, -, -, -, set, -⟩ := overlay_laws isJson_twoKeys single
  obtain ⟨-, -, -, -, -, refused⟩ := overlay_laws isJson_twoKeys deep
  obtain ⟨first, second⟩ := set (copiesShallow_of_copied rfl)
  have kept := isMerge.below (p := [CodeText.ofString "audit"])
    (CodeText.ofString "extensions") [] rfl rfl rfl
  have tooDeep : ¬ CopiesShallow 0 twoKeys (oneKey ++ [(.key "deep", nestedList 700)]) := by
    intro h
    have hnew : ¬ BothObjects (Entries.find? twoKeys (.key "deep")) (nestedList 700) := by
      rintro ⟨_, _, hb, -⟩
      cases hb
    have hheight := h [] _ _ (CodeText.ofString "deep") (nestedList 700) rfl rfl rfl hnew
    rw [copyHeight_nestedList] at hheight
    exact absurd hheight (by decide)
  obtain ⟨front, -, hfront⟩ := refused tooDeep
  exact ⟨first, second, kept, front, hfront⟩

end Settings

end MarkupAudit
