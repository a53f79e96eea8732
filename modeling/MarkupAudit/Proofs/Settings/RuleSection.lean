import MarkupAudit.Proofs.Settings.Keys
import MarkupAudit.Proofs.Text.Splitting
import MarkupAudit.Settings.Packaged

/-!
# The section of the rules

Settings are changed by loading files and by setting values. Whatever is loaded and set, they stay an
object without repeated keys. The switches of the rules can be taken from them exactly if their
section holds an object or counts as empty, and then each block of the section gives the switches of
one rule (`ruleConfigs_run`). A section that holds anything else is refused. It comes about only if a
file holds it there, or if it is set with the whole section.
-/

namespace MarkupAudit

/-! ### Key paths -/

namespace KeyPath

theorem keys_ne_nil {known : Value} {part : Text} {parts : List Text} :
    keys known (part :: parts) ≠ [] := by
  rw [keys]
  exact List.cons_ne_nil _ _

/-- A path that stands for a single key is this key. -/
theorem eq_of_resolve {settings : Value} {path : Text} {leaf : String}
    (h : resolve settings path = [leaf]) : leaf.toList = path := by
  unfold resolve at h
  rw [← Text.join_splitOn '.' path]
  cases hparts : Text.splitOn '.' path with
  | nil =>
      rw [hparts, keys] at h
      cases h
  | cons part parts =>
      rw [hparts, keys] at h
      obtain ⟨hleaf, hrest⟩ := List.cons.inj h
      -- no part is left behind the first key, so the first key takes all of them
      have hdrop : (part :: parts).drop
          (firstKey settings (part :: parts) (parts.length + 1)) = [] := by
        cases hd : (part :: parts).drop (firstKey settings (part :: parts) (parts.length + 1)) with
        | nil => rfl
        | cons next more =>
            rw [hd] at hrest
            exact absurd hrest keys_ne_nil
      rw [← hleaf, List.take_of_length_le (List.drop_eq_nil_iff.1 hdrop), glue,
        String.toList_ofList]

theorem keys_singleton (known : Value) (part : Text) :
    keys known [part] = [String.ofList part] := by
  have hcount : firstKey known [part] (([] : List Text).length + 1) = 1 := by
    simp [firstKey]
  rw [keys, hcount, List.drop_one, List.tail_cons, keys]
  rfl

end KeyPath

/-! ### Storing a value -/

namespace Settings

/-- A value is stored as it is given, or converted to the kind of the value it replaces. -/
theorem replacement_cases {previous? : Option Value} {value v : Value} {notices : List Notice}
    (h : replacement previous? value = .ok (v, notices)) :
    v = value ∨ ∃ previous, previous? = some previous ∧ previous.isNull = false ∧
      Convert.ofKind previous.kind value = .ok (some v) := by
  unfold replacement at h
  split at h
  · cases h
    exact .inl rfl
  · rename_i previous
    split at h
    · cases h
      exact .inl rfl
    · rename_i hunfit
      split at h
      · cases h
      · rename_i converted hconverted
        cases h
        refine .inr ⟨previous, rfl, ?_, hconverted⟩
        exact Bool.eq_false_iff.2 fun hnull => hunfit (by rw [hnull, Bool.true_or])
      · cases h
        exact .inl rfl

theorem wellKeyed_of_replacement {previous? : Option Value} {value v : Value}
    {notices : List Notice} (hvalue : value.WellKeyed)
    (h : replacement previous? value = .ok (v, notices)) : v.WellKeyed := by
  rcases replacement_cases h with rfl | ⟨previous, -, -, hconverted⟩
  · exact hvalue
  · exact Convert.wellKeyed_of_ofKind hvalue hconverted

/-- Storing a value binds the first key: the last key to the value or its replacement, another key
to the section it is stored in. -/
theorem store_cases {entries es : Entries} {value : Value} {keys : List String}
    {notices : List Notice} (h : store entries value keys = .ok (some (es, notices))) :
    (keys = [] ∧ es = entries) ∨
      (∃ leaf v, keys = [leaf] ∧ replacement (entries.get? leaf) value = .ok (v, notices) ∧
        es = entries.put (.key leaf) v) ∨
      ∃ key rest, ∃ base inner : Entries, keys = key :: rest ∧ rest ≠ [] ∧
        (entries.get? key = some (.object base) ∨ entries.get? key = none ∧ base = []) ∧
        store base value rest = .ok (some (inner, notices)) ∧
        es = entries.put (.key key) (.object inner) := by
  have stored : ∀ {base rest key}, ((store base value rest).map fun r =>
      r.map fun p => (entries.put (.key key) (.object p.1), p.2)) = .ok (some (es, notices)) →
      ∃ inner, store base value rest = .ok (some (inner, notices)) ∧
        es = entries.put (.key key) (.object inner) := by
    intro base rest key hmap
    obtain ⟨r, hr, heq⟩ := map_eq_ok_iff.1 hmap
    obtain ⟨⟨inner, ns⟩, rfl, heq⟩ := Option.map_eq_some_iff.1 heq.symm
    cases heq
    exact ⟨inner, hr, rfl⟩
  unfold store at h
  split at h
  · cases h
    exact .inl ⟨rfl, rfl⟩
  · rename_i leaf
    split at h
    · cases h
    · rename_i v ns hreplace
      cases h
      exact .inr (.inl ⟨leaf, v, rfl, hreplace, rfl⟩)
  · rename_i key rest hrest
    have hne : rest ≠ [] := fun h => hrest h
    split at h
    · rename_i base hget
      obtain ⟨inner, hinner, heq⟩ := stored h
      exact .inr (.inr ⟨key, rest, base, inner, rfl, hne, .inl hget, hinner, heq⟩)
    · rename_i hget
      obtain ⟨inner, hinner, heq⟩ := stored h
      exact .inr (.inr ⟨key, rest, [], inner, rfl, hne, .inr ⟨hget, rfl⟩, hinner, heq⟩)
    · cases h

theorem wellKeyed_of_store {value : Value} (hvalue : value.WellKeyed) {keys : List String}
    {entries es : Entries} {notices : List Notice} (hentries : entries.WellKeyed)
    (h : store entries value keys = .ok (some (es, notices))) : es.WellKeyed := by
  induction keys generalizing entries es with
  | nil =>
      rcases store_cases h with ⟨-, rfl⟩ | ⟨leaf, v, hkeys, -⟩ | ⟨key, rest, base, inner, hkeys, -⟩
      · exact hentries
      · cases hkeys
      · cases hkeys
  | cons first keys ih =>
      rcases store_cases h with ⟨hkeys, -⟩ | ⟨leaf, v, -, hreplace, rfl⟩ |
        ⟨key, rest, base, inner, hkeys, -, hbase, hinner, rfl⟩
      · cases hkeys
      · exact hentries.put _ (wellKeyed_of_replacement hvalue hreplace)
      · cases hkeys
        have wellKeyed : base.WellKeyed := by
          rcases hbase with hget | ⟨-, rfl⟩
          · exact Value.wellKeyed_object.1 (hentries.find? hget)
          · exact Entries.wellKeyed_nil
        exact hentries.put _ (Value.wellKeyed_object.2 (ih wellKeyed hinner))

/-! ### Changing settings -/

/-- A call that changes settings. -/
inductive Command where
  | load (file : Option (List UInt8))
  | set (path : Text) (value : Value)

/-- What a call does. -/
def Command.perform (settings : Value) : Command → Change
  | .load file => Settings.load settings file
  | .set path value => Settings.set settings path value

/-- The settings after calls, those that stop with an error among them. -/
def run (settings : Value) (history : List Command) : Value :=
  history.foldl (fun s c => (c.perform s).settings) settings

/-- The value of a call has no repeated keys. -/
def Command.WellKeyed : Command → Prop
  | .load _ => True
  | .set _ value => value.WellKeyed

theorem settings_overlay (base given : Entries) :
    ∃ upper, (upper = given ∨ upper = (Entries.copied 0 base given).1) ∧
      (overlay (.object base) given).settings = .object (Entries.merge base upper) := by
  rw [overlay]
  cases hcopied : Entries.copied 0 base given with
  | mk front complete =>
      cases complete with
      | true => exact ⟨given, .inl rfl, rfl⟩
      | false => exact ⟨front, .inr rfl, rfl⟩

/-- A call leaves settings as they are, or merges the entries of a file over them, all of them or the
first ones, or stores a value. -/
theorem perform_cases (entries : Entries) (c : Command) :
    ∃ es, (c.perform (.object entries)).settings = .object es ∧
      (es = entries ∨
        (∃ bytes given upper, c = .load (some bytes) ∧ read bytes = .ok (some (.object given)) ∧
          (upper = given ∨ upper = (Entries.copied 0 entries given).1) ∧
          es = Entries.merge entries upper) ∨
        ∃ path value notices, c = .set path value ∧
          store entries value (KeyPath.resolve (.object entries) path) =
            .ok (some (es, notices))) := by
  cases c with
  | load file =>
      rw [Command.perform]
      unfold load
      split
      · exact ⟨entries, rfl, .inl rfl⟩
      · rename_i bytes
        split
        · exact ⟨entries, rfl, .inl rfl⟩
        · exact ⟨entries, rfl, .inl rfl⟩
        · rename_i given hread
          obtain ⟨upper, hupper, hsettings⟩ := settings_overlay entries given
          exact ⟨_, hsettings, .inr (.inl ⟨bytes, given, upper, rfl, hread, hupper, rfl⟩)⟩
        · exact ⟨entries, rfl, .inl rfl⟩
  | set path value =>
      rw [Command.perform]
      unfold set
      dsimp only
      split
      · exact ⟨entries, rfl, .inl rfl⟩
      · exact ⟨entries, rfl, .inl rfl⟩
      · rename_i es notices hstore
        exact ⟨es, rfl, .inr (.inr ⟨path, value, notices, rfl, hstore⟩)⟩

theorem wellKeyed_of_read {bytes : List UInt8} {v : Value} (h : read bytes = .ok (some v)) :
    v.WellKeyed := by
  unfold read at h
  split at h
  · cases h
  · split at h
    · cases h
    · cases h
    · cases h
    · rename_i w hparse
      cases h
      exact Json.wellKeyed_of_parse hparse

/-- A call keeps settings an object without repeated keys. -/
theorem wellKeyed_perform {entries : Entries} (h : entries.WellKeyed) {c : Command}
    (hc : c.WellKeyed) :
    ∃ es : Entries, (c.perform (.object entries)).settings = .object es ∧ es.WellKeyed := by
  obtain ⟨es, hes, rfl | ⟨bytes, given, upper, rfl, hread, hupper, rfl⟩ |
    ⟨path, value, notices, rfl, hstore⟩⟩ := perform_cases entries c
  · exact ⟨es, hes, h⟩
  · have hgiven := (Value.wellKeyed_object.1 (wellKeyed_of_read hread)).2
    refine ⟨_, hes, h.merge upper ?_⟩
    rcases hupper with rfl | rfl
    · exact hgiven
    · exact Entries.WellKeyed.copied 0 entries given hgiven
  · exact ⟨es, hes, wellKeyed_of_store hc h hstore⟩

theorem wellKeyed_run {history : List Command} (hall : ∀ c ∈ history, c.WellKeyed)
    {entries : Entries} (h : entries.WellKeyed) :
    ∃ es : Entries, run (.object entries) history = .object es ∧ es.WellKeyed := by
  induction history generalizing entries with
  | nil => exact ⟨entries, rfl, h⟩
  | cons c history ih =>
      obtain ⟨hc, hrest⟩ := List.forall_mem_cons.1 hall
      obtain ⟨es, hes, wellKeyed⟩ := wellKeyed_perform h hc
      obtain ⟨es', hrun, hes'⟩ := ih hrest wellKeyed
      refine ⟨es', ?_, hes'⟩
      rw [run, List.foldl_cons, hes]
      exact hrun

/-! ### Taking the switches from the section -/

/-- The section of the rules; null if there is none. -/
def rulesOf (settings : Value) : Value :=
  (settings.child? "rules").getD .null

/-- A value that is an object unless it counts as empty. -/
def Listable (v : Value) : Prop :=
  v.isTruthy = true → ∃ blocks, v = .object blocks

/-- The blocks of a section; a value that is no object has none. -/
def blocksOf : Value → Entries
  | .object blocks => blocks
  | _ => []

/-- The switches that a block stands for: those it holds if it is valid, else the defaults. -/
def switchesOf (block : Value) : RuleConfig :=
  match RuleConfig.ofValue block with
  | .ok config => config
  | .error _ => {}

theorem eq_nil_of_not_truthy {entries : Entries} (h : ¬ (Value.object entries).isTruthy = true) :
    entries = [] := by
  rw [Value.isTruthy, Bool.not_eq_true, Bool.not_eq_false'] at h
  exact List.isEmpty_iff.1 h

/-- A block that counts as empty is taken for an empty object, which makes no difference: it stands
for the defaults either way. -/
theorem fst_ruleConfig (id : Scalar) (block : Value) :
    (ruleConfig id block).1 = switchesOf block := by
  have taken : switchesOf (if block.isTruthy then block else .object []) = switchesOf block := by
    split
    · rfl
    · rename_i hempty
      cases block with
      | scalar s => rfl
      | list items => rfl
      | object entries => rw [eq_nil_of_not_truthy hempty]
  rw [← taken, ruleConfig, switchesOf]
  cases RuleConfig.ofValue (if block.isTruthy then block else .object []) <;> rfl

theorem rulesOf_object (entries : Entries) :
    rulesOf (.object entries) = (entries.get? "rules").getD .null :=
  rfl

theorem ruleConfigs_of_listable {entries : Entries} (h : Listable (rulesOf (.object entries))) :
    ∃ notices, ruleConfigs (.object entries) =
      .ok ((blocksOf (rulesOf (.object entries))).map fun e => (e.1, switchesOf e.2), notices) := by
  rw [rulesOf_object] at h ⊢
  unfold ruleConfigs
  dsimp only
  generalize (Entries.get? entries "rules").getD .null = rules at h ⊢
  have blocks : (if rules.isTruthy then rules else .object []) = .object (blocksOf rules) := by
    split
    · rename_i htrue
      obtain ⟨blocks, rfl⟩ := h htrue
      rfl
    · rename_i hempty
      cases rules with
      | scalar s => rfl
      | list items => rfl
      | object blocks =>
          rw [eq_nil_of_not_truthy hempty]
          rfl
  rw [blocks]
  refine ⟨_, congrArg Except.ok (Prod.ext ?_ rfl)⟩
  rw [List.map_map]
  exact List.map_congr_left fun e _ => congrArg (e.1, ·) (fst_ruleConfig e.1 e.2)

theorem ruleConfigs_of_not_listable {entries : Entries}
    (h : ¬ Listable (rulesOf (.object entries))) :
    ruleConfigs (.object entries) =
      .error (.notAnObject (rulesOf (.object entries)).kind .list) := by
  rw [rulesOf_object] at h ⊢
  unfold ruleConfigs
  dsimp only
  generalize (Entries.get? entries "rules").getD .null = rules at h ⊢
  obtain ⟨htrue, hobject⟩ := Classical.not_imp.1 h
  rw [if_pos htrue]
  cases rules with
  | scalar s => rfl
  | list items => rfl
  | object blocks => exact absurd ⟨blocks, rfl⟩ hobject

/-! ### Keeping the section -/

/-- A value that is an object or null. -/
def IsSection (v : Value) : Prop :=
  v = .null ∨ ∃ blocks, v = .object blocks

theorem IsSection.listable {v : Value} (h : IsSection v) : Listable v := by
  rcases h with rfl | h
  · intro htrue
    cases htrue
  · exact fun _ => h

/-- What a call puts in the place of the whole section, if anything, is an object or null. -/
def Command.GivesSection : Command → Prop
  | .load file => ∀ bytes given, file = some bytes → read bytes = .ok (some given) →
      IsSection (rulesOf given)
  | .set path value => path = "rules".toList → IsSection value

theorem distinct_blocksOf {entries : Entries} (h : entries.WellKeyed) :
    (blocksOf (rulesOf (.object entries))).Distinct := by
  rw [rulesOf_object]
  cases hrules : entries.get? "rules" with
  | none => exact List.Pairwise.nil
  | some v =>
      have hv : v.WellKeyed := h.find? hrules
      cases v with
      | scalar s => exact List.Pairwise.nil
      | list items => exact List.Pairwise.nil
      | object blocks => exact (Value.wellKeyed_object.1 hv).1

theorem rulesOf_put (entries : Entries) (key : Scalar) (value : Value) :
    rulesOf (.object (entries.put key value)) =
      if key.sameKey (.key "rules") then value else rulesOf (.object entries) := by
  rw [rulesOf_object, rulesOf_object, Entries.get?, Entries.find?_put]
  split <;> rfl

theorem IsSection.mergeOver {v : Value} (h : IsSection v) (lower? : Option Value) :
    IsSection (Value.mergeOver lower? v) := by
  rcases h with rfl | ⟨blocks, rfl⟩
  · exact .inl rfl
  · unfold Value.mergeOver
    split <;> exact .inr ⟨_, rfl⟩

theorem IsSection.copied {v w : Value} (h : IsSection v) {within : Nat} {lower? : Option Value}
    (hw : (Value.copied within lower? v).1 = some w) : IsSection w := by
  rcases h with rfl | ⟨blocks, rfl⟩
  · rw [Value.eq_of_copy? hw]
    exact .inl rfl
  · unfold Value.copied at hw
    split at hw
    · cases hw
      exact .inr ⟨_, rfl⟩
    · rw [Value.eq_of_copy? hw]
      exact .inr ⟨_, rfl⟩

theorem isSection_merge {upper : Entries} (hupper : ∀ v, (.key "rules", v) ∈ upper → IsSection v)
    {base : Entries} (hbase : IsSection (rulesOf (.object base))) :
    IsSection (rulesOf (.object (Entries.merge base upper))) := by
  induction upper generalizing base with
  | nil => exact hbase
  | cons e upper ih =>
      obtain ⟨key, value⟩ := e
      rw [Entries.merge]
      refine ih (fun v hv => hupper v (List.mem_cons_of_mem _ hv)) ?_
      rw [rulesOf_put]
      split
      · rename_i hkey
        rw [Scalar.sameKey_str.1 hkey] at hupper ⊢
        exact (hupper value List.mem_cons_self).mergeOver _
      · exact hbase

theorem isSection_of_mem {given : Entries} (distinct : given.Distinct)
    (h : IsSection (rulesOf (.object given))) {v : Value} (hv : (.key "rules", v) ∈ given) :
    IsSection v := by
  rw [rulesOf_object, Entries.get?, Entries.find?_of_mem distinct hv] at h
  exact h

theorem IsSection.replacement {previous? : Option Value} {value v : Value} {notices : List Notice}
    (hprevious : IsSection (previous?.getD .null)) (hvalue : IsSection value)
    (h : Settings.replacement previous? value = .ok (v, notices)) : IsSection v := by
  rcases replacement_cases h with rfl | ⟨previous, rfl, hnull, hconverted⟩
  · exact hvalue
  · -- what is converted replaces a value that is not null, so an object
    rcases hprevious with hprevious | ⟨blocks, hprevious⟩
    · rw [Option.getD_some] at hprevious
      rw [hprevious] at hnull
      cases hnull
    · rw [Option.getD_some] at hprevious
      rw [hprevious] at hconverted
      exact .inr (Convert.toObject?_eq_object (Except.ok.inj hconverted))

theorem isSection_of_store {entries es : Entries} {path : Text} {value : Value}
    {notices : List Notice} (h : IsSection (rulesOf (.object entries)))
    (hvalue : path = "rules".toList → IsSection value)
    (hstore : store entries value (KeyPath.resolve (.object entries) path) =
      .ok (some (es, notices))) : IsSection (rulesOf (.object es)) := by
  rcases store_cases hstore with ⟨-, rfl⟩ | ⟨leaf, v, hleaf, hreplace, rfl⟩ |
    ⟨key, rest, base, inner, -, -, -, -, rfl⟩
  · exact h
  · rw [rulesOf_put]
    split
    · rename_i hkey
      have hrules : leaf = "rules" :=
        CodeText.ofString_injective (Scalar.str.inj (Scalar.sameKey_str.1 hkey))
      have hpath := KeyPath.eq_of_resolve hleaf
      rw [hrules] at hreplace hpath
      exact IsSection.replacement h (hvalue hpath.symm) hreplace
    · exact h
  · rw [rulesOf_put]
    split
    · exact .inr ⟨inner, rfl⟩
    · exact h

theorem isSection_perform {entries : Entries} (h : IsSection (rulesOf (.object entries)))
    {c : Command} (hc : c.GivesSection) :
    IsSection (rulesOf (c.perform (.object entries)).settings) := by
  obtain ⟨es, hes, rfl | ⟨bytes, given, upper, rfl, hread, hupper, rfl⟩ |
    ⟨path, value, notices, rfl, hstore⟩⟩ := perform_cases entries c
  · rw [hes]
    exact h
  · have distinct := (Value.wellKeyed_object.1 (wellKeyed_of_read hread)).1
    have hgiven : ∀ v, (.key "rules", v) ∈ given → IsSection v :=
      fun v => isSection_of_mem distinct (hc bytes _ rfl hread)
    rw [hes]
    refine isSection_merge ?_ h
    rcases hupper with rfl | rfl
    · exact hgiven
    · intro v hv
      obtain ⟨w, hw, hcopied⟩ := Entries.exists_of_mem_copied hv
      exact (hgiven w hw).copied hcopied
  · rw [hes]
    exact isSection_of_store h hc hstore

theorem isSection_run {history : List Command} (hall : ∀ c ∈ history, c.GivesSection)
    {entries : Entries} (h : IsSection (rulesOf (.object entries))) :
    IsSection (rulesOf (run (.object entries) history)) := by
  induction history generalizing entries with
  | nil => exact h
  | cons c history ih =>
      obtain ⟨hc, hrest⟩ := List.forall_mem_cons.1 hall
      obtain ⟨es, hes, -⟩ := perform_cases entries c
      have hsection := isSection_perform h hc
      rw [hes] at hsection
      rw [run, List.foldl_cons, hes]
      exact ih hrest hsection

/-! ### From the packaged settings on -/

theorem wellKeyed_packaged : packaged.WellKeyed := by
  have rule : ∀ counter, (packagedRule counter).WellKeyed := by
    intro counter
    refine .object (by simp [Entries.Distinct]) ?_
    simp [Value.WellKeyed.scalar]
  refine .object (by simp [Entries.Distinct]) ?_
  simp only [List.forall_mem_cons]
  refine ⟨?_, ?_, ?_, List.forall_mem_nil _⟩
  · exact .object (by simp [Entries.Distinct]) (by simp [Value.WellKeyed.scalar])
  · refine .object (by simp [Entries.Distinct]) ?_
    simp [Value.WellKeyed.scalar, Value.wellKeyed_list]
  · exact .object (by simp [Entries.Distinct]) (by simp [rule])

/-- Whatever is loaded and set, settings stay an object without repeated keys. The switches of the
rules are taken from a section that is an object or counts as empty: one for each of its keys, in its
order, each from its own block. A section that is anything else is refused. There is no such section
as long as no call puts anything but an object or null in the place of the whole section. -/
theorem ruleConfigs_run (history : List Command) (wellKeyed : ∀ c ∈ history, c.WellKeyed) :
    ∃ entries : Entries, run packaged history = .object entries ∧ entries.WellKeyed ∧
      (Listable (rulesOf (.object entries)) →
        ∃ notices, ruleConfigs (.object entries) =
          .ok ((blocksOf (rulesOf (.object entries))).map fun e => (e.1, switchesOf e.2),
            notices)) ∧
      (blocksOf (rulesOf (.object entries))).Distinct ∧
      (¬ Listable (rulesOf (.object entries)) → ruleConfigs (.object entries) =
        .error (.notAnObject (rulesOf (.object entries)).kind .list)) ∧
      ((∀ c ∈ history, c.GivesSection) → Listable (rulesOf (.object entries))) := by
  obtain ⟨entries, hrun, hentries⟩ := wellKeyed_run wellKeyed
    (Value.wellKeyed_object.1 wellKeyed_packaged)
  refine ⟨entries, hrun, hentries, ruleConfigs_of_listable, ?_, ruleConfigs_of_not_listable, ?_⟩
  · exact distinct_blocksOf hentries
  · intro gives
    rw [← hrun]
    exact (isSection_run gives (.inr ⟨_, rfl⟩)).listable

/-- An invalid block and a valid one. -/
def twoBlocks : Value :=
  .object [(.key "A", .int 5), (.key "B", .object [(.key "enabled", .bool false)])]

/-- A number in the place of the section is refused. An invalid block stands for the defaults. -/
theorem ruleConfigs_run_replaced :
    ruleConfigs (run packaged [.set "rules".toList (.int 5)]) =
        .error (.notAnObject .int .list) ∧
      ∃ notices, ruleConfigs (run packaged [.set "rules".toList twoBlocks]) =
        .ok ([(.key "A", { }), (.key "B", ⟨false, none⟩)], notices) := by
  have resolved : KeyPath.resolve packaged "rules".toList = ["rules"] := KeyPath.keys_singleton _ _
  constructor
  · have wellKeyed : ∀ c ∈ [Command.set "rules".toList (.int 5)], c.WellKeyed := by
      intro c hc
      rw [List.mem_singleton.1 hc]
      exact .scalar _
    obtain ⟨entries, hrun, -, -, -, refused, -⟩ := ruleConfigs_run _ wellKeyed
    have hrules : rulesOf (run packaged [.set "rules".toList (.int 5)]) = .int 5 := by
      rw [run, List.foldl_cons, List.foldl_nil, Command.perform]
      unfold Settings.set
      rw [resolved]
      rfl
    rw [hrun] at hrules ⊢
    rw [hrules] at refused
    exact refused fun h => nomatch h rfl
  · have wellKeyed : ∀ c ∈ [Command.set "rules".toList twoBlocks], c.WellKeyed := by
      intro c hc
      rw [List.mem_singleton.1 hc]
      refine .object (by simp [Entries.Distinct]) ?_
      simp [Value.WellKeyed.scalar, Value.wellKeyed_object, Entries.WellKeyed, Entries.Distinct]
    obtain ⟨entries, hrun, -, answered, -, -, listable⟩ := ruleConfigs_run _ wellKeyed
    have gives : ∀ c ∈ [Command.set "rules".toList twoBlocks], c.GivesSection := by
      intro c hc
      rw [List.mem_singleton.1 hc]
      exact fun _ => .inr ⟨_, rfl⟩
    obtain ⟨notices, hanswer⟩ := answered (listable gives)
    refine ⟨notices, ?_⟩
    rw [hrun, hanswer, ← hrun, run, List.foldl_cons, List.foldl_nil, Command.perform]
    unfold Settings.set
    rw [resolved]
    rfl

end Settings

end MarkupAudit
