import MarkupAudit.Proofs.Settings.RuleSection

/-!
# Addressing settings

A key path is cut into keys against the settings that it is used with, so a change could in
principle alter how paths are cut. It does not: a key that is new is a single part of a path,
without a dot, and where a path is cut is decided by keys of several parts alone
(`KeyPath.firstKey_put`).

So a value that was set is read back under the same path, and every other setting stays where it
was (`set_laws`). A change that cannot be made leaves no trace, although sections that are missing
on the way are made before the end of the way is known (`storeInPlace_eq`).
-/

namespace MarkupAudit

theorem Entries.get?_put (entries : Entries) (key other : String) (value : Value) :
    (entries.put (.key key) value).get? other =
      if key = other then some value else entries.get? other := by
  rw [get?, find?_put, Scalar.sameKey_key]
  simp only [decide_eq_true_eq]

/-! ### Parts of a path -/

namespace KeyPath

/-- A key of several parts holds a dot. -/
theorem dot_mem_glue {parts : List Text} {m : Nat} (two : 2 ≤ m) (h : m ≤ parts.length) :
    '.' ∈ (glue (parts.take m)).toList := by
  match parts, m, two with
  | part :: next :: parts, m + 2, _ => simp [glue, Text.join]
  | [_], m + 2, _ => simp at h
  | [], m + 2, _ => simp at h

/-- Where the first key of a path ends is decided by the keys of several parts. -/
theorem firstKey_congr {known known' : Value} {parts : List Text} {count : Nat}
    (h : ∀ m, 2 ≤ m → m ≤ count → (known.child? (glue (parts.take m))).isSome =
      (known'.child? (glue (parts.take m))).isSome) :
    firstKey known parts count = firstKey known' parts count := by
  induction count with
  | zero => rfl
  | succ count ih =>
      have rest := ih fun m two hm => h m two (by omega)
      cases count with
      | zero => simp [firstKey]
      | succ count =>
          rw [firstKey, h _ (by omega) (Nat.le_refl _), rest]
          rfl

theorem keys_congr {known known' : Value} (h : ∀ key, known.child? key = known'.child? key)
    (parts : List Text) : keys known parts = keys known' parts := by
  cases parts with
  | nil => rw [keys, keys]
  | cons part parts =>
      have hcount : firstKey known (part :: parts) (parts.length + 1) =
          firstKey known' (part :: parts) (parts.length + 1) :=
        firstKey_congr fun m _ _ => by rw [h]
      rw [keys, keys, hcount, h]

/-- The entries of the section that a key holds; none if it does not hold a section. -/
def sectionOf (entries : Entries) (key : String) : Entries :=
  match entries.get? key with
  | some (.object inner) => inner
  | _ => []

theorem sectionOf_of_get? {entries inner : Entries} {key : String}
    (h : entries.get? key = some (.object inner)) : sectionOf entries key = inner := by
  rw [sectionOf, h]

theorem sectionOf_of_none {entries : Entries} {key : String} (h : entries.get? key = none) :
    sectionOf entries key = [] := by
  rw [sectionOf, h]

/-- The parts behind the first key of a path are cut against the section that this key holds. -/
theorem keys_section (entries : Entries) (key : String) (parts : List Text) :
    keys (((Value.object entries).child? key).getD .null) parts =
      keys (.object (sectionOf entries key)) parts := by
  apply keys_congr
  intro other
  rw [Value.child?, sectionOf]
  cases entries.get? key with
  | none => rfl
  | some v => cases v <;> rfl

/-- A path starts with its first key. Behind it the parts are cut against the section of this key.
-/
theorem keys_cons (entries : Entries) (part : Text) (parts : List Text) :
    ∃ count key, count = firstKey (.object entries) (part :: parts) (parts.length + 1) ∧
      key = glue ((part :: parts).take count) ∧
      keys (.object entries) (part :: parts) =
        key :: keys (.object (sectionOf entries key)) ((part :: parts).drop count) := by
  refine ⟨_, _, rfl, rfl, ?_⟩
  rw [keys, keys_section]

/-- Each key is there or has no dot. -/
def Addressed : (entries : Entries) → (keys : List String) → Prop
  | _, [] => True
  | entries, key :: keys =>
      ((entries.get? key).isSome ∨ '.' ∉ key.toList) ∧ Addressed (sectionOf entries key) keys

/-- Binding a key that is there or has no dot does not change where the first key of a path ends. -/
theorem firstKey_put {entries : Entries} {key : String}
    (h : (entries.get? key).isSome ∨ '.' ∉ key.toList) (value : Value) (part : Text)
    (parts : List Text) :
    firstKey (.object (entries.put (.key key) value)) (part :: parts) (parts.length + 1) =
      firstKey (.object entries) (part :: parts) (parts.length + 1) := by
  apply firstKey_congr
  intro m two hm
  rw [Value.child?, Value.child?, Entries.get?_put]
  split
  · rename_i hkey
    rcases h with there | plain
    · rw [← hkey, there]
      rfl
    · rw [hkey] at plain
      have long : m ≤ (part :: parts).length := hm
      exact absurd (dot_mem_glue two long) plain
  · rfl

theorem firstKey_cases (known : Value) (parts : List Text) (count : Nat) :
    (known.child? (glue (parts.take (firstKey known parts count)))).isSome ∨
      firstKey known parts count = 1 := by
  induction count with
  | zero => exact .inr rfl
  | succ count ih =>
      rw [firstKey]
      split
      · rename_i there
        exact .inl there
      · exact ih

theorem addressed_keys {parts : List Text} (plain : ∀ part ∈ parts, '.' ∉ part)
    (entries : Entries) : Addressed entries (keys (.object entries) parts) := by
  induction hlength : parts.length using Nat.strongRecOn generalizing parts entries with
  | ind n ih =>
      cases parts with
      | nil => simp [keys, Addressed]
      | cons part parts =>
          obtain ⟨count, key, hcount, hkey, hkeys⟩ := keys_cons entries part parts
          have positive := firstKey_pos (.object entries) (part :: parts) (parts.length + 1)
          rw [← hcount] at positive
          rw [hkeys]
          constructor
          · rcases firstKey_cases (.object entries) (part :: parts) (parts.length + 1)
              with there | one
            · rw [← hcount, ← hkey] at there
              exact .inl there
            · right
              rw [hkey, hcount, one, List.take_one, List.head?_cons, Option.toList_some, glue,
                String.toList_ofList]
              exact plain part List.mem_cons_self
          · refine ih _ ?_ (fun p hp => plain p (List.mem_of_mem_drop hp)) _ rfl
            rw [← hlength, List.length_drop, List.length_cons]
            omega

end KeyPath

/-! ### Storing a value -/

namespace Settings

open KeyPath

theorem at?_cons (entries : Entries) (key : String) (keys : List String) :
    at? (.object entries) (key :: keys) = (entries.get? key).bind fun v => at? v keys := by
  rw [at?, Value.child?]
  cases entries.get? key <;> rfl

theorem at?_section {entries : Entries} {key : String} {keys : List String} (h : keys ≠ []) :
    at? (.object entries) (key :: keys) = at? (.object (sectionOf entries key)) keys := by
  obtain ⟨next, rest, rfl⟩ := List.exists_cons_of_ne_nil h
  rw [at?_cons, sectionOf]
  cases entries.get? key with
  | none => rfl
  | some v => cases v <;> rfl

/-- On the way along some keys there is a value where a section is needed. -/
def Blocked (settings : Value) (keys : List String) : Prop :=
  ∃ front rest v, keys = front ++ rest ∧ rest ≠ [] ∧ at? settings front = some v ∧
    ∀ inner, v ≠ .object inner

theorem not_blocked_singleton (entries : Entries) (leaf : String) :
    ¬ Blocked (.object entries) [leaf] := by
  rintro ⟨front, rest, v, hkeys, hrest, hv, hobject⟩
  cases front with
  | nil => exact hobject entries (Option.some.inj hv).symm
  | cons key front =>
      have hnil := (List.cons.inj hkeys).2
      exact hrest (List.append_eq_nil_iff.1 hnil.symm).2

theorem blocked_cons {entries : Entries} {key : String} {keys : List String} (h : keys ≠ []) :
    Blocked (.object entries) (key :: keys) ↔
      (∃ v, entries.get? key = some v ∧ ∀ inner, v ≠ .object inner) ∨
        Blocked (.object (sectionOf entries key)) keys := by
  constructor
  · rintro ⟨front, rest, v, hkeys, hrest, hv, hobject⟩
    match front, hkeys, hv with
    | [], _, hv => exact absurd (Option.some.inj hv).symm (hobject entries)
    | [first], hkeys, hv =>
        obtain ⟨rfl, -⟩ := List.cons.inj hkeys
        rw [at?_cons] at hv
        obtain ⟨u, hu, huv⟩ := Option.bind_eq_some_iff.1 hv
        cases huv
        exact .inl ⟨v, hu, hobject⟩
    | first :: next :: front, hkeys, hv =>
        obtain ⟨rfl, htail⟩ := List.cons.inj hkeys
        rw [at?_section (List.cons_ne_nil _ _)] at hv
        exact .inr ⟨next :: front, rest, v, htail, hrest, hv, hobject⟩
  · rintro (⟨v, hv, hobject⟩ | ⟨front, rest, v, rfl, hrest, hv, hobject⟩)
    · refine ⟨[key], keys, v, rfl, h, ?_, hobject⟩
      rw [at?_cons, hv]
      rfl
    · cases front with
      | nil => exact absurd (Option.some.inj hv).symm (hobject _)
      | cons next front =>
          refine ⟨key :: next :: front, rest, v, rfl, hrest, ?_, hobject⟩
          rw [at?_section (List.cons_ne_nil _ _), hv]

/-- Entries with a value under a sequence of keys; what is no section on the way becomes one. -/
def bindAt (entries : Entries) (value : Value) : (keys : List String) → Entries
  | [] => entries
  | [leaf] => entries.put (.key leaf) value
  | key :: keys => entries.put (.key key) (.object (bindAt (sectionOf entries key) value keys))

theorem bindAt_cons {entries : Entries} {value : Value} {key : String} {keys : List String}
    (h : keys ≠ []) : bindAt entries value (key :: keys) =
      entries.put (.key key) (.object (bindAt (sectionOf entries key) value keys)) := by
  obtain ⟨next, rest, rfl⟩ := List.exists_cons_of_ne_nil h
  rw [bindAt]
  exact List.cons_ne_nil _ _

theorem store_leaf (entries : Entries) (value : Value) (leaf : String) :
    store entries value [leaf] = (replacement (entries.get? leaf) value).map fun p =>
      some (entries.put (.key leaf) p.1, p.2) := by
  rw [store]
  cases replacement (entries.get? leaf) value <;> rfl

theorem store_section {entries : Entries} {value : Value} {key : String} {keys : List String}
    (h : keys ≠ []) (hopen : ¬ ∃ v, entries.get? key = some v ∧ ∀ inner, v ≠ .object inner) :
    store entries value (key :: keys) = (store (sectionOf entries key) value keys).map fun r =>
      r.map fun p => (entries.put (.key key) (.object p.1), p.2) := by
  obtain ⟨next, rest, rfl⟩ := List.exists_cons_of_ne_nil h
  rw [store, sectionOf]
  · cases hget : entries.get? key with
    | none => rfl
    | some v =>
        cases v with
        | object inner => rfl
        | scalar a => exact absurd ⟨.scalar a, hget, fun _ => nofun⟩ hopen
        | list items => exact absurd ⟨.list items, hget, fun _ => nofun⟩ hopen
  · exact List.cons_ne_nil _ _

theorem store_stopped {entries : Entries} {value : Value} {key : String} {keys : List String}
    (h : keys ≠ []) (hstop : ∃ v, entries.get? key = some v ∧ ∀ inner, v ≠ .object inner) :
    store entries value (key :: keys) = .ok none := by
  obtain ⟨next, rest, rfl⟩ := List.exists_cons_of_ne_nil h
  obtain ⟨v, hget, hobject⟩ := hstop
  rw [store]
  · rw [hget]
    cases v with
    | object inner => exact absurd rfl (hobject inner)
    | scalar a => rfl
    | list items => rfl
  · exact List.cons_ne_nil _ _

theorem store_of_blocked {entries : Entries} {value : Value} {keys : List String}
    (h : Blocked (.object entries) keys) : store entries value keys = .ok none := by
  induction keys generalizing entries with
  | nil =>
      obtain ⟨front, rest, v, hkeys, hrest, -⟩ := h
      exact absurd (List.append_eq_nil_iff.1 hkeys.symm).2 hrest
  | cons key keys ih =>
      by_cases hkeys : keys = []
      · rw [hkeys] at h
        exact absurd h (not_blocked_singleton entries key)
      · by_cases hstop : ∃ v, entries.get? key = some v ∧ ∀ inner, v ≠ .object inner
        · exact store_stopped hkeys hstop
        · rw [store_section hkeys hstop, ih (((blocked_cons hkeys).1 h).resolve_left hstop)]
          rfl

/-- Unless a value is in the way, what is stored is the replacement for the value that stands at
the end of the way. -/
theorem store_of_not_blocked {entries : Entries} {value : Value} {keys : List String}
    (hne : keys ≠ []) (h : ¬ Blocked (.object entries) keys) :
    store entries value keys = (replacement (at? (.object entries) keys) value).map fun p =>
      some (bindAt entries p.1 keys, p.2) := by
  induction keys generalizing entries with
  | nil => exact absurd rfl hne
  | cons key keys ih =>
      by_cases hkeys : keys = []
      · rw [hkeys, store_leaf, at?_cons]
        cases entries.get? key <;> rfl
      · obtain ⟨hopen, hrest⟩ := not_or.1 (mt (blocked_cons hkeys).2 h)
        rw [store_section hkeys hopen, ih hkeys hrest, at?_section hkeys]
        cases replacement (at? (.object (sectionOf entries key)) keys) value with
        | error f => rfl
        | ok p =>
            simp only [Except.map, Option.map_some]
            rw [bindAt_cons hkeys]

/-- What is bound is found. -/
theorem at?_bindAt {entries : Entries} {value : Value} {keys : List String} (hne : keys ≠ []) :
    at? (.object (bindAt entries value keys)) keys = some value := by
  induction keys generalizing entries with
  | nil => exact absurd rfl hne
  | cons key keys ih =>
      by_cases hkeys : keys = []
      · rw [hkeys, bindAt, at?_cons, Entries.get?_put, if_pos rfl]
        rfl
      · rw [bindAt_cons hkeys, at?_cons, Entries.get?_put, if_pos rfl]
        exact ih hkeys

theorem exists_bindAt_cons (entries : Entries) (value : Value) (key : String) (keys : List String) :
    ∃ v, bindAt entries value (key :: keys) = entries.put (.key key) v ∧
      (keys ≠ [] → v = .object (bindAt (sectionOf entries key) value keys)) := by
  by_cases hkeys : keys = []
  · exact ⟨value, by rw [hkeys, bindAt], fun h => absurd hkeys h⟩
  · exact ⟨_, bindAt_cons hkeys, fun _ => rfl⟩

/-- A path is cut as before when a value is bound at its end. -/
theorem keys_bindAt {entries : Entries} {value : Value} {keys : List String} {parts : List Text}
    (hkeys : KeyPath.keys (.object entries) parts = keys) (addressed : Addressed entries keys) :
    KeyPath.keys (.object (bindAt entries value keys)) parts = keys := by
  induction keys generalizing entries parts with
  | nil => exact hkeys
  | cons key keys ih =>
      cases parts with
      | nil =>
          rw [KeyPath.keys] at hkeys
          cases hkeys
      | cons part parts =>
          obtain ⟨count, first, hcount, hfirst, hcut⟩ := keys_cons entries part parts
          obtain ⟨rfl, hrest⟩ := List.cons.inj (hcut.symm.trans hkeys)
          obtain ⟨v, hbind, hv⟩ := exists_bindAt_cons entries value first keys
          obtain ⟨count', first', hcount', hfirst', hcut'⟩ :=
            keys_cons (entries.put (.key first) v) part parts
          rw [firstKey_put addressed.1, ← hcount] at hcount'
          rw [hcount', ← hfirst] at hfirst'
          rw [hbind, hcut', hcount', hfirst']
          congr 1
          by_cases hlast : keys = []
          · -- no part is left behind the first key
            rw [hlast] at hrest ⊢
            have hdrop : (part :: parts).drop count = [] := by
              cases hd : (part :: parts).drop count with
              | nil => rfl
              | cons next more =>
                  rw [hd] at hrest
                  exact absurd hrest keys_ne_nil
            rw [hdrop, KeyPath.keys]
          · rw [hv hlast, sectionOf_of_get? (by rw [Entries.get?_put, if_pos rfl])]
            exact ih hrest addressed.2

/-- A path that leads somewhere else is cut as before, and leads to the same value. -/
theorem frame_bindAt {entries : Entries} {value w : Value} {keys : List String} {other : List Text}
    (addressed : Addressed entries keys)
    (hw : at? (.object entries) (KeyPath.keys (.object entries) other) = some w)
    (hbelow : ¬ keys <+: KeyPath.keys (.object entries) other)
    (habove : ¬ KeyPath.keys (.object entries) other <+: keys) :
    KeyPath.keys (.object (bindAt entries value keys)) other =
        KeyPath.keys (.object entries) other ∧
      at? (.object (bindAt entries value keys)) (KeyPath.keys (.object entries) other) =
        some w := by
  induction keys generalizing entries other with
  | nil => exact absurd List.nil_prefix hbelow
  | cons key keys ih =>
      cases other with
      | nil =>
          rw [KeyPath.keys] at habove
          exact absurd List.nil_prefix habove
      | cons part parts =>
          obtain ⟨count, first, hcount, hfirst, hcut⟩ := keys_cons entries part parts
          obtain ⟨v, hbind, hv⟩ := exists_bindAt_cons entries value key keys
          obtain ⟨count', first', hcount', hfirst', hcut'⟩ :=
            keys_cons (entries.put (.key key) v) part parts
          rw [firstKey_put addressed.1, ← hcount] at hcount'
          rw [hcount', ← hfirst] at hfirst'
          rw [hcount', hfirst'] at hcut'
          rw [hcut] at hw hbelow habove ⊢
          rw [hbind, hcut']
          by_cases hsame : key = first
          · subst hsame
            rw [List.prefix_cons_inj] at hbelow habove
            have hkeys : keys ≠ [] := fun h => hbelow (h ▸ List.nil_prefix)
            have hrest : KeyPath.keys (.object (sectionOf entries key))
                ((part :: parts).drop count) ≠ [] := fun h => habove (h ▸ List.nil_prefix)
            have hsection : sectionOf (entries.put (.key key) v) key =
                bindAt (sectionOf entries key) value keys :=
              sectionOf_of_get? (by rw [Entries.get?_put, if_pos rfl, hv hkeys])
            rw [at?_section hrest] at hw
            obtain ⟨hcuts, hfound⟩ := ih addressed.2 hw hbelow habove
            rw [hsection, hcuts, at?_section hrest, hsection]
            exact ⟨rfl, hfound⟩
          · -- the value is bound under another key
            have hget : (entries.put (.key key) v).get? first = entries.get? first := by
              rw [Entries.get?_put, if_neg hsame]
            rw [at?_cons] at hw
            rw [at?_cons, sectionOf, hget, ← sectionOf]
            exact ⟨rfl, hw⟩

/-! ### Making sections on the way -/

/-- Stores a value step by step. A section that is missing is made when it is reached, before
anything is known about the keys behind it. The result is what the entries are then, whether or
not the value was stored. -/
def storeInPlace (value : Value) (entries : Entries) :
    (keys : List String) → Entries × Except Convert.Fault (Option (List Notice))
  | [] => (entries, .ok (some []))
  | [leaf] =>
      match replacement (entries.get? leaf) value with
      | .error f => (entries, .error f)
      | .ok (v, notices) => (entries.put (.key leaf) v, .ok (some notices))
  | key :: keys =>
      let made :=
        if (entries.get? key).isSome then entries else entries.put (.key key) (.object [])
      match made.get? key with
      | some (.object inner) =>
          let (es, outcome) := storeInPlace value inner keys
          (made.put (.key key) (.object es), outcome)
      | _ => (made, .ok none)

/-- What storing comes to: the entries afterwards, and whether a value was stored. -/
def ending (entries : Entries) :
    Except Convert.Fault (Option (Entries × List Notice)) →
      Entries × Except Convert.Fault (Option (List Notice))
  | .error f => (entries, .error f)
  | .ok none => (entries, .ok none)
  | .ok (some (es, notices)) => (es, .ok (some notices))

theorem at?_nil {keys : List String} (h : keys ≠ []) : at? (.object []) keys = none := by
  obtain ⟨key, rest, rfl⟩ := List.exists_cons_of_ne_nil h
  rfl

/-- In a section that was just made nothing is in the way. -/
theorem store_nil {value : Value} {keys : List String} (h : keys ≠ []) :
    store [] value keys = .ok (some (bindAt [] value keys, [])) := by
  have hopen : ¬ Blocked (.object []) keys := by
    rintro ⟨front, rest, v, -, -, hv, hobject⟩
    cases front with
    | nil => exact hobject [] (Option.some.inj hv).symm
    | cons key front =>
        rw [at?_nil (List.cons_ne_nil _ _)] at hv
        cases hv
  rw [store_of_not_blocked h hopen, at?_nil h]
  rfl

theorem storeInPlace_section {entries : Entries} {value : Value} {key : String} {keys : List String}
    (h : keys ≠ []) (hopen : ¬ ∃ v, entries.get? key = some v ∧ ∀ inner, v ≠ .object inner) :
    storeInPlace value entries (key :: keys) =
      (entries.put (.key key) (.object (storeInPlace value (sectionOf entries key) keys).1),
        (storeInPlace value (sectionOf entries key) keys).2) := by
  obtain ⟨next, rest, rfl⟩ := List.exists_cons_of_ne_nil h
  rw [storeInPlace, sectionOf]
  · cases hget : entries.get? key with
    | none => simp [Entries.get?_put, Entries.put_put]
    | some v =>
        cases v with
        | object inner => simp [hget]
        | scalar a => exact absurd ⟨.scalar a, hget, fun _ => nofun⟩ hopen
        | list items => exact absurd ⟨.list items, hget, fun _ => nofun⟩ hopen
  · exact List.cons_ne_nil _ _

theorem storeInPlace_stopped {entries : Entries} {value : Value} {key : String} {keys : List String}
    (h : keys ≠ []) (hstop : ∃ v, entries.get? key = some v ∧ ∀ inner, v ≠ .object inner) :
    storeInPlace value entries (key :: keys) = (entries, .ok none) := by
  obtain ⟨next, rest, rfl⟩ := List.exists_cons_of_ne_nil h
  obtain ⟨v, hget, hobject⟩ := hstop
  rw [storeInPlace]
  · cases v with
    | object inner => exact absurd rfl (hobject inner)
    | scalar a => simp [hget]
    | list items => simp [hget]
  · exact List.cons_ne_nil _ _

/-- A section in which a value cannot be stored is there already. -/
theorem put_section {entries : Entries} {value : Value} {key : String} {keys : List String}
    (h : keys ≠ []) (hopen : ¬ ∃ v, entries.get? key = some v ∧ ∀ inner, v ≠ .object inner)
    (hfails : ∀ r, store (sectionOf entries key) value keys ≠ .ok (some r)) :
    entries.put (.key key) (.object (sectionOf entries key)) = entries := by
  cases hget : entries.get? key with
  | none =>
      rw [sectionOf_of_none hget] at hfails
      exact absurd (store_nil h) (hfails _)
  | some v =>
      cases v with
      | object inner =>
          rw [sectionOf_of_get? hget]
          exact Entries.put_of_find? hget
      | scalar a => exact absurd ⟨.scalar a, hget, fun _ => nofun⟩ hopen
      | list items => exact absurd ⟨.list items, hget, fun _ => nofun⟩ hopen

/-- A value is stored step by step as it is stored at once. In particular, if it is not stored, the
entries are as before: no section is made before a value is found in the way. -/
theorem storeInPlace_eq (value : Value) (entries : Entries) (keys : List String) :
    storeInPlace value entries keys = ending entries (store entries value keys) := by
  induction keys generalizing entries with
  | nil => rfl
  | cons key keys ih =>
      by_cases hkeys : keys = []
      · rw [hkeys, storeInPlace, store]
        cases replacement (entries.get? key) value <;> rfl
      · by_cases hstop : ∃ v, entries.get? key = some v ∧ ∀ inner, v ≠ .object inner
        · rw [storeInPlace_stopped hkeys hstop, store_stopped hkeys hstop]
          rfl
        · rw [storeInPlace_section hkeys hstop, store_section hkeys hstop, ih]
          cases hstore : store (sectionOf entries key) value keys with
          | error f =>
              have hput := put_section hkeys hstop fun r hr => nomatch hstore.symm.trans hr
              simp only [ending, Except.map, hput]
          | ok r =>
              cases r with
              | none =>
                  have hput := put_section hkeys hstop fun r hr => nomatch hstore.symm.trans hr
                  simp only [ending, Except.map, Option.map_none, hput]
              | some p => rfl

/-! ### Changing a setting -/

theorem resolve_ne_nil (settings : Value) (path : Text) : KeyPath.resolve settings path ≠ [] := by
  obtain ⟨part, parts, hsplit⟩ := List.exists_cons_of_ne_nil (Text.splitOn_ne_nil '.' path)
  rw [KeyPath.resolve, hsplit]
  exact keys_ne_nil

theorem addressed_resolve (entries : Entries) (path : Text) :
    Addressed entries (KeyPath.resolve (.object entries) path) :=
  addressed_keys (fun _ => Text.not_mem_of_mem_splitOn) entries

theorem set_of_blocked {entries : Entries} {path : Text} {value : Value}
    (h : Blocked (.object entries) (KeyPath.resolve (.object entries) path)) :
    set (.object entries) path value = ⟨.object entries, .ok false, [.notASection]⟩ := by
  rw [set, store_of_blocked h]

theorem set_of_not_blocked {entries : Entries} {path : Text} {value : Value}
    (h : ¬ Blocked (.object entries) (KeyPath.resolve (.object entries) path)) :
    set (.object entries) path value =
      match replacement (at? (.object entries) (KeyPath.resolve (.object entries) path)) value with
      | .error f => ⟨.object entries, .error (.conversion f), []⟩
      | .ok (v, notices) =>
          ⟨.object (bindAt entries v (KeyPath.resolve (.object entries) path)), .ok true,
            notices⟩ := by
  rw [set, store_of_not_blocked (resolve_ne_nil _ _) h]
  cases replacement (at? (.object entries) (KeyPath.resolve (.object entries) path)) value <;> rfl

/-- What setting a value at a path does to settings: the value, or what it is converted to, is
read back under this path, and every path that led to a value elsewhere leads to it along the same
keys. -/
structure IsSet (settings : Value) (path : Text) (value : Value) (after : Value) : Prop where
  reads : ∃ stored notices,
    replacement (at? settings (KeyPath.resolve settings path)) value = .ok (stored, notices) ∧
      ∀ default, get after path default = if stored.isNull then default else stored
  keeps : ∀ other v, at? settings (KeyPath.resolve settings other) = some v →
    ¬ KeyPath.resolve settings path <+: KeyPath.resolve settings other →
    ¬ KeyPath.resolve settings other <+: KeyPath.resolve settings path →
      KeyPath.resolve after other = KeyPath.resolve settings other ∧
        at? after (KeyPath.resolve settings other) = some v

theorem get_of_at? {settings v default : Value} {path : Text}
    (h : at? settings (KeyPath.resolve settings path) = some v) :
    get settings path default = if v.isNull then default else v := by
  rw [get, get?, h, Option.filter_some]
  cases v.isNull <;> rfl

theorem isSet_bindAt {entries : Entries} {path : Text} {value v : Value} {notices : List Notice}
    (h : replacement (at? (.object entries) (KeyPath.resolve (.object entries) path)) value =
      .ok (v, notices)) :
    IsSet (.object entries) path value
      (.object (bindAt entries v (KeyPath.resolve (.object entries) path))) where
  reads := by
    refine ⟨v, notices, h, fun default => get_of_at? ?_⟩
    have hsame : KeyPath.resolve
        (.object (bindAt entries v (KeyPath.resolve (.object entries) path))) path =
        KeyPath.resolve (.object entries) path := keys_bindAt rfl (addressed_resolve entries path)
    rw [hsame]
    exact at?_bindAt (resolve_ne_nil _ _)
  keeps := fun _ _ => frame_bindAt (addressed_resolve entries path)

theorem settings_set (entries : Entries) (path : Text) (value : Value) :
    (set (.object entries) path value).settings =
      .object (storeInPlace value entries (KeyPath.resolve (.object entries) path)).1 := by
  rw [storeInPlace_eq, set]
  cases store entries value (KeyPath.resolve (.object entries) path) with
  | error f => rfl
  | ok r => cases r <;> rfl

/-- A value can be set at a path unless another value is in the way, or it cannot be given the kind that
it has to take: a number is too large for it, or the value is nested too deep. A value that was set is
read back, and all other settings stay. If no value was set, nothing has changed, although missing
sections are made on the way. Settings are trees here, in which no section stands under two keys. -/
theorem set_laws (entries : Entries) (path : Text) (value : Value) :
    let settings := Value.object entries
    let keys := KeyPath.resolve settings path
    let change := set settings path value
    (change.outcome = .ok true ↔
        ¬ Blocked settings keys ∧ ∃ r, replacement (at? settings keys) value = .ok r) ∧
      (change.outcome = .ok true → IsSet settings path value change.settings) ∧
      (change.outcome ≠ .ok true → change.settings = settings) ∧
      change.settings = .object (storeInPlace value entries keys).1 := by
  intro settings keys change
  have hplace : change.settings = .object (storeInPlace value entries keys).1 :=
    settings_set entries path value
  by_cases hblocked : Blocked settings keys
  · have hchange : change = ⟨settings, .ok false, [.notASection]⟩ := set_of_blocked hblocked
    rw [hchange] at hplace ⊢
    exact ⟨⟨nofun, fun h => absurd hblocked h.1⟩, nofun, fun _ => rfl, hplace⟩
  · cases hreplace : replacement (at? settings keys) value with
    | error f =>
        have hchange : change = ⟨settings, .error (.conversion f), []⟩ := by
          rw [show change = _ from set_of_not_blocked hblocked, hreplace]
        rw [hchange] at hplace ⊢
        exact ⟨⟨nofun, fun ⟨_, _, hr⟩ => nomatch hr⟩, nofun, fun _ => rfl, hplace⟩
    | ok p =>
        obtain ⟨v, notices⟩ := p
        have hchange : change = ⟨.object (bindAt entries v keys), .ok true, notices⟩ := by
          rw [show change = _ from set_of_not_blocked hblocked, hreplace]
        rw [hchange] at hplace ⊢
        refine ⟨⟨fun _ => ⟨hblocked, _, rfl⟩, fun _ => rfl⟩, ?_, fun h => absurd rfl h, hplace⟩
        exact fun _ => isSet_bindAt hreplace

/-- Settings with a key that holds a dot, beside a section in which the same parts could be looked
up. -/
def dottedSettings : Entries :=
  [(.key "a.b", .object [(.key "c", .int 1)]),
    (.key "a", .object [(.key "b", .object [(.key "c", .int 2)]), (.key "d", .int 3)])]

/-- The longer key wins. What is set under it is converted and read back; its neighbour stays; and
nothing can be set below a number. -/
theorem set_laws_dotted :
    get (set (.object dottedSettings) "a.b.c".toList (.str "5")).settings "a.b.c".toList .null =
        .int 5 ∧
      at? (set (.object dottedSettings) "a.b.c".toList (.str "5")).settings ["a", "d"] =
        some (.int 3) ∧
      (set (.object dottedSettings) "a.d.e".toList .null).settings = .object dottedSettings := by
  have path : KeyPath.resolve (.object dottedSettings) "a.b.c".toList = ["a.b", "c"] := by
    decide +kernel
  have other : KeyPath.resolve (.object dottedSettings) "a.d".toList = ["a", "d"] := by
    decide +kernel
  have below : KeyPath.resolve (.object dottedSettings) "a.d.e".toList = ["a", "d", "e"] := by
    decide +kernel
  have converted : replacement (at? (.object dottedSettings) ["a.b", "c"]) (.str "5") =
      .ok (.int 5, []) := rfl
  obtain ⟨set_iff, isSet, -, -⟩ := set_laws dottedSettings "a.b.c".toList (.str "5")
  obtain ⟨stopped_iff, -, unchanged, -⟩ := set_laws dottedSettings "a.d.e".toList .null
  rw [path] at set_iff
  rw [below] at stopped_iff
  have hopen : ¬ Blocked (.object dottedSettings) ["a.b", "c"] := by
    rw [blocked_cons (by decide), not_or]
    refine ⟨?_, not_blocked_singleton _ _⟩
    rintro ⟨v, hv, hobject⟩
    exact hobject _ (Option.some.inj hv).symm
  have hblocked : Blocked (.object dottedSettings) ["a", "d", "e"] :=
    ⟨["a", "d"], ["e"], .int 3, rfl, by decide, rfl, fun _ => nofun⟩
  obtain ⟨⟨stored, notices, hstored, hget⟩, keeps⟩ := isSet (set_iff.2 ⟨hopen, _, converted⟩)
  rw [path, converted] at hstored
  cases hstored
  refine ⟨hget .null, ?_, unchanged fun h => (stopped_iff.1 h).1 hblocked⟩
  have kept := keeps "a.d".toList (.int 3)
  rw [path, other] at kept
  exact (kept rfl (by decide) (by decide)).2

end Settings

end MarkupAudit
