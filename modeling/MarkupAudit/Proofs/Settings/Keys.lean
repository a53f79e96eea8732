import MarkupAudit.Proofs.Rule.Findings
import MarkupAudit.Settings.Store

/-!
# Keys of settings

In a settings value no object has the same key twice (`Value.WellKeyed`). Binding a key keeps this,
and so do merging, reading and converting: each of them makes objects by binding one key after
another. What a string is bound to changes only when this string is bound (`Entries.find?_put`).
-/

namespace MarkupAudit

/-! ### Binding a key -/

theorem CodeText.ofString_injective {s t : String} (h : ofString s = ofString t) : s = t := by
  have hlist : some s.toList = some t.toList := by
    rw [← text?_ofText s.toList, ← text?_ofText t.toList]
    exact congrArg text? h
  exact String.toList_inj.1 (Option.some.inj hlist)

/-- A string is the same key as itself only. -/
theorem Scalar.sameKey_str {a : Scalar} {t : CodeText} :
    a.sameKey (.str t) = true ↔ a = .str t := by
  cases a with
  | str s => simp [sameKey]
  | _ => simp [sameKey, whole?]

theorem Scalar.str_sameKey {a : Scalar} {t : CodeText} :
    Scalar.sameKey (.str t) a = true ↔ a = .str t := by
  cases a with
  | str s => rw [sameKey, beq_iff_eq, Scalar.str.injEq, eq_comm]
  | _ => simp [sameKey, whole?]

@[simp] theorem Scalar.sameKey_key {s t : String} :
    (Scalar.key s).sameKey (.key t) = decide (s = t) := by
  rw [Bool.eq_iff_iff, sameKey_str, decide_eq_true_iff]
  constructor
  · exact fun h => CodeText.ofString_injective (Scalar.str.inj h)
  · exact fun h => by rw [h]

namespace Entries

/-- No key occurs twice. -/
def Distinct (entries : Entries) : Prop :=
  entries.Pairwise fun a b => a.1.sameKey b.1 = false

/-- Binding a key leaves the keys as they are, or adds it at the end if it is new. -/
theorem map_put (entries : Entries) (key : Scalar) (value : Value) :
    (entries.put key value).map Prod.fst = entries.map Prod.fst ∨
      (∀ e ∈ entries, e.1.sameKey key = false) ∧
        (entries.put key value).map Prod.fst = entries.map Prod.fst ++ [key] := by
  induction entries with
  | nil => exact .inr ⟨List.forall_mem_nil _, rfl⟩
  | cons e rest ih =>
      rw [put]
      split
      · exact .inl rfl
      · rename_i hne
        rcases ih with same | ⟨new, added⟩
        · exact .inl (by rw [List.map_cons, same, List.map_cons])
        · refine .inr ⟨List.forall_mem_cons.2 ⟨Bool.eq_false_iff.2 hne, new⟩, ?_⟩
          rw [List.map_cons, added, List.map_cons, List.cons_append]

theorem distinct_iff {entries : Entries} :
    Distinct entries ↔ (entries.map Prod.fst).Pairwise fun a b => a.sameKey b = false := by
  rw [List.pairwise_map]
  rfl

theorem distinct_put {entries : Entries} (h : Distinct entries) (key : Scalar) (value : Value) :
    Distinct (entries.put key value) := by
  rw [distinct_iff] at h ⊢
  rcases map_put entries key value with same | ⟨new, added⟩
  · rw [same]
    exact h
  · rw [added, List.pairwise_append]
    refine ⟨h, List.pairwise_singleton _ _, ?_⟩
    intro a ha b hb
    obtain ⟨e, he, rfl⟩ := List.mem_map.1 ha
    rw [List.mem_singleton.1 hb]
    exact new e he

theorem mem_put {entries : Entries} {key : Scalar} {value : Value} {e : Scalar × Value}
    (h : e ∈ entries.put key value) : e ∈ entries ∨ e.2 = value := by
  induction entries with
  | nil => exact .inr (by rw [List.mem_singleton.1 h])
  | cons first rest ih =>
      rw [put] at h
      split at h
      · rcases List.mem_cons.1 h with rfl | h
        · exact .inr rfl
        · exact .inl (List.mem_cons_of_mem first h)
      · rcases List.mem_cons.1 h with rfl | h
        · exact .inl List.mem_cons_self
        · exact (ih h).imp_left (List.mem_cons_of_mem first)

/-- A string is bound to what was bound to it last. -/
theorem find?_put (entries : Entries) (key : Scalar) (value : Value) (t : CodeText) :
    (entries.put key value).find? (.str t) =
      if key.sameKey (.str t) then some value else entries.find? (.str t) := by
  unfold find?
  induction entries with
  | nil => by_cases hkey : key.sameKey (.str t) = true <;> simp [put, hkey]
  | cons e rest ih =>
      rw [put]
      by_cases hsame : e.1.sameKey key = true
      · -- the entry has the key in question exactly if the string is this key
        have hiff : e.1.sameKey (.str t) = true ↔ key.sameKey (.str t) = true := by
          constructor
          · intro h
            rw [Scalar.sameKey_str.1 h] at hsame
            exact Scalar.sameKey_str.2 (Scalar.str_sameKey.1 hsame)
          · intro h
            rw [Scalar.sameKey_str.1 h] at hsame
            exact hsame
        by_cases hkey : key.sameKey (.str t) = true
        · simp [hsame, hkey, hiff.2 hkey]
        · have hne : e.1.sameKey (.str t) = false := Bool.eq_false_iff.2 fun h => hkey (hiff.1 h)
          simp [hsame, hkey, hne]
      · rw [if_neg hsame, List.find?_cons, List.find?_cons]
        by_cases he : e.1.sameKey (.str t) = true
        · have hkey : ¬ key.sameKey (.str t) = true := by
            intro h
            rw [Scalar.sameKey_str.1 h] at hsame
            exact hsame he
          simp [he, hkey]
        · simp only [Bool.eq_false_iff.2 he]
          exact ih

/-- Binding a string to what it is bound to changes nothing. -/
theorem put_of_find? {entries : Entries} {t : CodeText} {value : Value}
    (h : entries.find? (.str t) = some value) : entries.put (.str t) value = entries := by
  unfold find? at h
  induction entries with
  | nil => cases h
  | cons e rest ih =>
      rw [List.find?_cons] at h
      rw [put]
      split at h
      · rename_i hkey
        rw [if_pos hkey, ← Option.some.inj h]
      · rename_i hkey
        rw [if_neg (Bool.eq_false_iff.1 hkey), ih h]

/-- Of two bindings of a string the second counts. -/
theorem put_put (entries : Entries) (t : CodeText) (v w : Value) :
    (entries.put (.str t) v).put (.str t) w = entries.put (.str t) w := by
  induction entries with
  | nil => rw [put, put, put, if_pos (Scalar.sameKey_str.2 rfl)]
  | cons e rest ih =>
      by_cases hkey : e.1.sameKey (.str t) = true
      · simp [put, hkey]
      · simp [put, hkey, ih]

theorem mem_of_find? {entries : Entries} {key : Scalar} {v : Value}
    (h : entries.find? key = some v) : ∃ e ∈ entries, e.2 = v := by
  obtain ⟨e, he, rfl⟩ := Option.map_eq_some_iff.1 h
  exact ⟨e, List.mem_of_find?_eq_some he, rfl⟩

theorem find?_of_mem {entries : Entries} (h : Distinct entries) {t : CodeText} {v : Value}
    (hv : (.str t, v) ∈ entries) : entries.find? (.str t) = some v := by
  unfold find?
  induction entries with
  | nil => cases hv
  | cons e rest ih =>
      obtain ⟨first, hrest⟩ := List.pairwise_cons.1 h
      rw [List.find?_cons]
      rcases List.mem_cons.1 hv with rfl | hv
      · rw [Scalar.sameKey_str.2 rfl]
        rfl
      · rw [first _ hv]
        exact ih hrest hv

end Entries

/-! ### Values without repeated keys -/

/-- No object in a value has the same key twice. -/
inductive Value.WellKeyed : Value → Prop
  | scalar (s : Scalar) : WellKeyed (.scalar s)
  | list {items : List Value} (items_wellKeyed : ∀ v ∈ items, WellKeyed v) : WellKeyed (.list items)
  | object {entries : Entries} (distinct : entries.Distinct)
      (values_wellKeyed : ∀ e ∈ entries, WellKeyed e.2) : WellKeyed (.object entries)

/-- The entries of an object in which no object has the same key twice. -/
def Entries.WellKeyed (entries : Entries) : Prop :=
  entries.Distinct ∧ ∀ e ∈ entries, e.2.WellKeyed

theorem Value.wellKeyed_object {entries : Entries} :
    (Value.object entries).WellKeyed ↔ entries.WellKeyed := by
  constructor
  · rintro (_ | _ | ⟨distinct, values⟩)
    exact ⟨distinct, values⟩
  · exact fun h => .object h.1 h.2

theorem Value.wellKeyed_list {items : List Value} :
    (Value.list items).WellKeyed ↔ ∀ v ∈ items, v.WellKeyed := by
  constructor
  · rintro (_ | items | _)
    exact items
  · exact .list

namespace Entries

theorem wellKeyed_nil : WellKeyed [] :=
  ⟨List.Pairwise.nil, List.forall_mem_nil _⟩

theorem WellKeyed.put {entries : Entries} (h : entries.WellKeyed) (key : Scalar) {value : Value}
    (hvalue : value.WellKeyed) : (entries.put key value).WellKeyed := by
  refine ⟨distinct_put h.1 key value, fun e he => ?_⟩
  rcases mem_put he with he | rfl
  · exact h.2 e he
  · exact hvalue

theorem WellKeyed.find? {entries : Entries} (h : entries.WellKeyed) {key : Scalar} {v : Value}
    (hv : entries.find? key = some v) : v.WellKeyed := by
  obtain ⟨e, he, rfl⟩ := mem_of_find? hv
  exact h.2 e he

end Entries

/-! ### Merging -/

mutual

theorem Value.WellKeyed.mergeOver {lower? : Option Value}
    (hlower : ∀ v, lower? = some v → v.WellKeyed) :
    (upper : Value) → upper.WellKeyed → (Value.mergeOver lower? upper).WellKeyed
  | .object entries, hupper => by
      rw [Value.wellKeyed_object] at hupper
      unfold Value.mergeOver
      split
      · rename_i base
        exact Value.wellKeyed_object.2
          (Entries.WellKeyed.merge (Value.wellKeyed_object.1 (hlower _ rfl)) entries hupper.2)
      · exact Value.wellKeyed_object.2 hupper
  | .scalar s, hupper => hupper
  | .list items, hupper => hupper

theorem Entries.WellKeyed.merge {base : Entries} (hbase : base.WellKeyed) :
    (upper : List (Scalar × Value)) → (∀ e ∈ upper, e.2.WellKeyed) →
      (Entries.merge base upper).WellKeyed
  | [], _ => hbase
  | (key, value) :: rest, hupper => by
      obtain ⟨hvalue, hrest⟩ := List.forall_mem_cons.1 hupper
      rw [Entries.merge]
      have hmerged : (Value.mergeOver (base.find? key) value).WellKeyed :=
        Value.WellKeyed.mergeOver (fun v hv => hbase.find? hv) value hvalue
      exact Entries.WellKeyed.merge (hbase.put key hmerged) rest hrest

end

/-- The entries that are copied have the first keys. -/
theorem Entries.keys_copied (within : Nat) (base : Entries) (upper : List (Scalar × Value)) :
    (Entries.copied within base upper).1.map Prod.fst <+: upper.map Prod.fst := by
  induction upper with
  | nil => simp [Entries.copied]
  | cons e rest ih =>
      obtain ⟨key, value⟩ := e
      rw [Entries.copied]
      split
      · exact (List.prefix_cons_inj key).2 ih
      · exact (List.prefix_cons_inj key).2 (List.nil_prefix)
      · exact List.nil_prefix

/-- Each entry that is copied is the copy of one of the entries. -/
theorem Entries.exists_of_mem_copied {within : Nat} {base : Entries} {upper : List (Scalar × Value)}
    {e : Scalar × Value} (h : e ∈ (Entries.copied within base upper).1) :
    ∃ v, (e.1, v) ∈ upper ∧ (Value.copied within (base.find? e.1) v).1 = some e.2 := by
  induction upper with
  | nil =>
      rw [Entries.copied] at h
      cases h
  | cons first rest ih =>
      obtain ⟨key, value⟩ := first
      rw [Entries.copied] at h
      split at h
      · rename_i v hcopy
        rcases List.mem_cons.1 h with rfl | h
        · exact ⟨value, List.mem_cons_self, by rw [hcopy]⟩
        · obtain ⟨v, hv, hcopied⟩ := ih h
          exact ⟨v, List.mem_cons_of_mem _ hv, hcopied⟩
      · rename_i v hcopy
        rw [List.mem_singleton.1 h]
        exact ⟨value, List.mem_cons_self, by rw [hcopy]⟩
      · cases h

theorem Value.eq_of_copy? {within : Nat} {v w : Value} (h : Value.copy? within v = some w) :
    w = v := by
  unfold Value.copy? at h
  split at h
  · exact (Option.some.inj h).symm
  · cases h

mutual

theorem Value.WellKeyed.copied (within : Nat) (lower? : Option Value) :
    (upper : Value) → upper.WellKeyed →
      ∀ v, (Value.copied within lower? upper).1 = some v → v.WellKeyed
  | .object entries, hupper => by
      intro v hv
      rw [Value.wellKeyed_object] at hupper
      unfold Value.copied at hv
      split at hv
      · rename_i base
        cases hv
        refine Value.wellKeyed_object.2
          ⟨?_, Entries.WellKeyed.copied (within + 1) base entries hupper.2⟩
        rw [Entries.distinct_iff]
        exact (Entries.distinct_iff.1 hupper.1).sublist
          (Entries.keys_copied (within + 1) base entries).sublist
      · rw [Value.eq_of_copy? hv]
        exact Value.wellKeyed_object.2 hupper
  | .scalar s, hupper => by
      intro v hv
      rw [Value.eq_of_copy? hv]
      exact hupper
  | .list items, hupper => by
      intro v hv
      rw [Value.eq_of_copy? hv]
      exact hupper

theorem Entries.WellKeyed.copied (within : Nat) (base : Entries) :
    (upper : List (Scalar × Value)) → (∀ e ∈ upper, e.2.WellKeyed) →
      ∀ e ∈ (Entries.copied within base upper).1, e.2.WellKeyed
  | [], _ => by
      rw [Entries.copied]
      exact List.forall_mem_nil _
  | (key, value) :: rest, hupper => by
      obtain ⟨hvalue, hrest⟩ := List.forall_mem_cons.1 hupper
      have hcopied := Value.WellKeyed.copied within (base.find? key) value hvalue
      rw [Entries.copied]
      split
      · rename_i v hcopy
        rw [hcopy] at hcopied
        exact List.forall_mem_cons.2
          ⟨hcopied v rfl, Entries.WellKeyed.copied within base rest hrest⟩
      · rename_i v hcopy
        rw [hcopy] at hcopied
        exact List.forall_mem_cons.2 ⟨hcopied v rfl, List.forall_mem_nil _⟩
      · exact List.forall_mem_nil _

end

/-! ### Reading -/

namespace Json

theorem number_eq_scalar {negative : Bool} {s rest : Text} {v : Value}
    (h : number negative s = .ok (v, rest)) : ∃ a, v = .scalar a := by
  unfold number at h
  grind

theorem plain_eq_scalar {s rest : Text} {v : Value} (h : plain s = .ok (v, rest)) :
    ∃ a, v = .scalar a := by
  unfold plain at h
  split at h
  all_goals first
    | exact ⟨_, (Prod.mk.inj (Except.ok.inj h)).1.symm⟩
    | skip
  split at h
  · exact number_eq_scalar h
  · exact number_eq_scalar h

/-- What is read has no repeated keys: an object is made by binding one key after another. -/
theorem wellKeyed_of_read (fuel : Nat) :
    (∀ depth s v rest, value fuel depth s = .ok (v, rest) → v.WellKeyed) ∧
      (∀ depth s vs rest, items fuel depth s = .ok (vs, rest) → ∀ v ∈ vs, v.WellKeyed) ∧
      ∀ depth es s es' rest, es.WellKeyed → entries fuel depth es s = .ok (es', rest) →
        es'.WellKeyed := by
  -- the readers of values, items and entries call each other with less fuel
  induction fuel with
  | zero =>
      refine ⟨?_, ?_, ?_⟩
      · intro depth s v rest h
        cases h
      · intro depth s vs rest h
        cases h
      · intro depth es s es' rest hes h
        cases h
  | succ fuel ih =>
      obtain ⟨ihValue, ihItems, ihEntries⟩ := ih
      refine ⟨?_, ?_, ?_⟩
      · intro depth s v rest h
        unfold value at h
        split at h
        · split at h
          · cases h
          · cases h
            exact .scalar _
        · split at h
          · cases h
          · split at h
            · cases h
              exact .list (List.forall_mem_nil _)
            · obtain ⟨⟨vs, after⟩, hitems, heq⟩ := map_eq_ok_iff.1 h
              cases heq
              exact .list (ihItems _ _ _ _ hitems)
        · split at h
          · cases h
          · split at h
            · cases h
              exact Value.wellKeyed_object.2 Entries.wellKeyed_nil
            · obtain ⟨⟨es, after⟩, hentries, heq⟩ := map_eq_ok_iff.1 h
              cases heq
              exact Value.wellKeyed_object.2 (ihEntries _ _ _ _ _ Entries.wellKeyed_nil hentries)
        · obtain ⟨a, rfl⟩ := plain_eq_scalar h
          exact .scalar a
      · intro depth s vs rest h
        unfold items at h
        split at h
        · cases h
        · rename_i v rest' hvalue
          have hv := ihValue _ _ _ _ hvalue
          split at h
          · obtain ⟨⟨more, after⟩, hitems, heq⟩ := map_eq_ok_iff.1 h
            cases heq
            exact List.forall_mem_cons.2 ⟨hv, ihItems _ _ _ _ hitems⟩
          · cases h
            exact List.forall_mem_cons.2 ⟨hv, List.forall_mem_nil _⟩
          · cases h
      · intro depth es s es' rest hes h
        unfold entries at h
        split at h
        · split at h
          · cases h
          · split at h
            · split at h
              · cases h
              · rename_i v rest' hvalue
                have hput : ∀ key, (es.put (.str key) v).WellKeyed :=
                  fun key => hes.put (.str key) (ihValue _ _ _ _ hvalue)
                split at h
                · exact ihEntries _ _ _ _ _ (hput _) h
                · cases h
                  exact hput _
                · cases h
            · cases h
        · cases h

theorem wellKeyed_of_parse {s : Text} {v : Value} (h : parse s = .ok v) : v.WellKeyed := by
  unfold parse at h
  split at h
  · cases h
  · rename_i v' rest hvalue
    split at h
    · cases h
      exact (wellKeyed_of_read _).1 _ _ _ _ hvalue
    · cases h

end Json

/-! ### Converting -/

namespace Convert

theorem wellKeyed_of_toList? {v w : Value} (hv : v.WellKeyed) (h : toList? v = some w) :
    w.WellKeyed := by
  unfold toList? at h
  split at h
  · cases h
    refine .list fun w hw => ?_
    obtain ⟨p, -, rfl⟩ := List.mem_map.1 hw
    exact .scalar _
  · cases h
    refine .list fun w hw => ?_
    obtain ⟨e, -, rfl⟩ := List.mem_map.1 hw
    exact .scalar _
  · cases h
    exact hv
  · cases h

theorem wellKeyed_of_entry {v : Value} {e : Scalar × Value} (hv : v.WellKeyed)
    (h : toEntry? v = some e) : e.2.WellKeyed := by
  unfold toEntry? at h
  split at h
  · rename_i key value hlist
    cases h
    exact Value.wellKeyed_list.1 (wellKeyed_of_toList? hv hlist) value (by simp)
  · cases h

theorem wellKeyed_of_mapM {items : List Value} {pairs : List (Scalar × Value)}
    (hitems : ∀ v ∈ items, v.WellKeyed) (h : items.mapM toEntry? = some pairs) :
    ∀ e ∈ pairs, e.2.WellKeyed := by
  induction items generalizing pairs with
  | nil =>
      cases h
      exact List.forall_mem_nil _
  | cons v items ih =>
      obtain ⟨hv, hitems⟩ := List.forall_mem_cons.1 hitems
      rw [List.mapM_cons] at h
      obtain ⟨e, he, hrest⟩ := Option.bind_eq_some_iff.1 h
      obtain ⟨rest, hmap, heq⟩ := Option.bind_eq_some_iff.1 hrest
      cases heq
      exact List.forall_mem_cons.2 ⟨wellKeyed_of_entry hv he, ih hitems hmap⟩

theorem wellKeyed_foldl_put {pairs : List (Scalar × Value)} (hpairs : ∀ e ∈ pairs, e.2.WellKeyed)
    {entries : Entries} (h : entries.WellKeyed) :
    (pairs.foldl (fun entries (key, value) => Entries.put entries key value) entries).WellKeyed := by
  induction pairs generalizing entries with
  | nil => exact h
  | cons e pairs ih =>
      obtain ⟨he, hpairs⟩ := List.forall_mem_cons.1 hpairs
      exact ih hpairs (h.put e.1 he)

theorem wellKeyed_of_toObject? {v w : Value} (hv : v.WellKeyed) (h : toObject? v = some w) :
    w.WellKeyed := by
  unfold toObject? at h
  split at h
  · cases h
    exact hv
  · split at h
    · rename_i items hlist
      obtain ⟨pairs, hpairs, rfl⟩ := Option.map_eq_some_iff.1 h
      have hitems := Value.wellKeyed_list.1 (wellKeyed_of_toList? hv hlist)
      exact Value.wellKeyed_object.2
        (wellKeyed_foldl_put (wellKeyed_of_mapM hitems hpairs) Entries.wellKeyed_nil)
    · cases h

theorem toObject?_eq_object {v w : Value} (h : toObject? v = some w) :
    ∃ entries, w = .object entries := by
  unfold toObject? at h
  split at h
  · exact ⟨_, (Option.some.inj h).symm⟩
  · split at h
    · obtain ⟨pairs, -, rfl⟩ := Option.map_eq_some_iff.1 h
      exact ⟨_, rfl⟩
    · cases h

theorem toInt?_eq_scalar {v w : Value} (h : toInt? v = .ok (some w)) : ∃ a, w = .scalar a := by
  unfold toInt? at h
  split at h
  · cases h
    exact ⟨_, rfl⟩
  · cases h
    exact ⟨_, rfl⟩
  · split at h
    · cases h
      exact ⟨_, rfl⟩
    · cases h
      exact ⟨_, rfl⟩
    · cases h
    · cases h
  · obtain ⟨n, -, rfl⟩ := Option.map_eq_some_iff.1 (Except.ok.inj h)
    exact ⟨_, rfl⟩
  · cases h

theorem toFloat?_eq_scalar {v w : Value} (h : toFloat? v = .ok (some w)) : ∃ a, w = .scalar a := by
  unfold toFloat? at h
  split at h
  · cases h
    exact ⟨_, rfl⟩
  · dsimp only at h
    split at h
    · cases h
    · cases h
      exact ⟨_, rfl⟩
  · cases h
    exact ⟨_, rfl⟩
  · obtain ⟨x, -, rfl⟩ := Option.map_eq_some_iff.1 (Except.ok.inj h)
    exact ⟨_, rfl⟩
  · cases h

theorem toStr?_eq_scalar {v w : Value} (h : toStr? v = .ok (some w)) : ∃ a, w = .scalar a := by
  unfold toStr? at h
  split at h
  · cases h
    exact ⟨_, rfl⟩
  · cases h
  · cases h

/-- A converted value has no repeated keys. -/
theorem wellKeyed_of_ofKind {kind : Value.Kind} {v w : Value} (hv : v.WellKeyed)
    (h : ofKind kind v = .ok (some w)) : w.WellKeyed := by
  cases kind with
  | null => cases h
  | bool =>
      cases h
      exact .scalar _
  | int =>
      obtain ⟨a, rfl⟩ := toInt?_eq_scalar h
      exact .scalar a
  | float =>
      obtain ⟨a, rfl⟩ := toFloat?_eq_scalar h
      exact .scalar a
  | str =>
      obtain ⟨a, rfl⟩ := toStr?_eq_scalar h
      exact .scalar a
  | list => exact wellKeyed_of_toList? hv (Except.ok.inj h)
  | object => exact wellKeyed_of_toObject? hv (Except.ok.inj h)

end Convert

end MarkupAudit
