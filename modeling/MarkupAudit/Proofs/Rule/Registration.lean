import Mathlib.Data.List.Nodup
import MarkupAudit.Rule.Registry

/-!
# The registry over time

A registry is used by calls, each of which may fail. Whatever the calls, rules are only ever added at
the end: an identifier that is bound stays bound to the same rule (`Extends`). Each call that asks for
rules registers the shipped ones first, and goes on only if none of their identifiers belongs to
another rule (`load_cases`). So a registry counts as loaded only with the shipped rules, and one that
holds another rule under one of their identifiers answers no question any more (`run_appendOnly`).
-/

namespace MarkupAudit

theorem nodup_ids_shipped : (shippedRules.map (·.rule.id)).Nodup := by
  decide

namespace Registry

/-! ### Calls -/

/-- What a registry is used for. -/
inductive Call where
  | load
  | register (new : Registration)
  | all
  | get (id : String)
  | ids
  | build (configs : List (String × RuleConfig)) (only : List String)

/-- Whether a call is about the rules that are registered. -/
def Call.asks : Call → Bool
  | .register _ => false
  | _ => true

/-- A question without its answer: the registry then reached, and the fault if there was one. -/
def inquire {α : Type} (r : Registry) (question : Registry → Except RegistryError α) :
    Registry × Option RegistryError :=
  match r.ask question with
  | (r, .ok _) => (r, none)
  | (r, .error e) => (r, some e)

/-- Makes a call. Gives the registry then reached, and the fault if there was one. -/
def perform (r : Registry) : Call → Registry × Option RegistryError
  | .load => r.load
  | .register new =>
      match r.register new with
      | .ok r => (r, none)
      | .error e => (r, some e)
  | .all => r.inquire fun r => .ok r.entries
  | .get id => r.inquire fun r => r.get id
  | .ids => r.inquire fun r => .ok r.ids
  | .build configs only => r.inquire fun r => r.build configs only

/-- The registry after some calls. -/
def run (r : Registry) (calls : List Call) : Registry :=
  calls.foldl (fun r c => (r.perform c).1) r

/-! ### Bound identifiers -/

/-- The identifier of a rule is bound to this rule. -/
def Binds (r : Registry) (s : Registration) : Prop :=
  ∃ e, r.find? s.rule.id = some e ∧ e.origin = s.origin

/-- The identifier of a rule is bound to another rule. -/
def Occupied (r : Registry) (s : Registration) : Prop :=
  ∃ e, r.find? s.rule.id = some e ∧ e.origin ≠ s.origin

/-- A later state of a registry, into which only some of the rules `offered` have come: they were added
at the end under free identifiers, and what was loaded stays so. -/
structure Extends (offered : List Registration) (r r' : Registry) : Prop where
  entries : r.entries <+: r'.entries
  loaded : r.loaded = true → r'.loaded = true
  distinct : r.ids.Nodup → r'.ids.Nodup
  added : ∀ e ∈ r'.entries, e ∈ r.entries ∨ e ∈ offered

theorem Extends.refl (offered : List Registration) (r : Registry) : r.Extends offered r :=
  ⟨List.prefix_rfl, id, id, fun _ => .inl⟩

section Extends

variable {r r' r'' : Registry} {offered more : List Registration} {s e : Registration} {id : String}

theorem Extends.trans (h : Extends offered r r') (h' : Extends more r' r'') :
    Extends (offered ++ more) r r'' := by
  refine ⟨h.entries.trans h'.entries, fun hr => h'.loaded (h.loaded hr),
    fun hr => h'.distinct (h.distinct hr), fun e he => ?_⟩
  rcases h'.added e he with he | he
  · exact (h.added e he).imp_right (List.mem_append_left more)
  · exact .inr (List.mem_append_right offered he)

theorem Extends.ids (h : Extends offered r r') : r.ids <+: r'.ids :=
  h.entries.map _

/-- What is found under an identifier is found there later. -/
theorem Extends.find? (h : Extends offered r r') (he : r.find? id = some e) :
    r'.find? id = some e := by
  obtain ⟨new, hnew⟩ := h.entries
  unfold Registry.find? at *
  rw [← hnew, List.find?_append, he]
  rfl

theorem Extends.binds (h : Extends offered r r') (hs : r.Binds s) : r'.Binds s := by
  obtain ⟨e, he, hsame⟩ := hs
  exact ⟨e, h.find? he, hsame⟩

theorem Extends.occupied (h : Extends offered r r') (hs : r.Occupied s) : r'.Occupied s := by
  obtain ⟨e, he, hother⟩ := hs
  exact ⟨e, h.find? he, hother⟩

theorem Binds.not_occupied (h : r.Binds s) : ¬ r.Occupied s := by
  rintro ⟨e, he, hother⟩
  obtain ⟨e', he', hsame⟩ := h
  rw [he] at he'
  cases he'
  exact hother hsame

theorem id_of_find? (h : r.find? id = some e) : e.rule.id = id := by
  have h := List.find?_some h
  exact beq_iff_eq.1 h

/-- With distinct identifiers every rule is found under its own. -/
theorem find?_of_mem (distinct : r.ids.Nodup) (he : e ∈ r.entries) : r.find? e.rule.id = some e := by
  cases hfind : r.find? e.rule.id with
  | none =>
      have hnone := List.find?_eq_none.1 hfind e he
      simp at hnone
  | some e' =>
      have hmem : e' ∈ r.entries := List.mem_of_find?_eq_some hfind
      rw [List.inj_on_of_nodup_map distinct hmem he (id_of_find? hfind)]

end Extends

/-! ### Registering -/

section Register

variable {r r' : Registry} {new : Registration} {ls : List Registration}

/-- What registering a rule does: nothing if its identifier is bound to it, an addition at the end if
its identifier is free, and a fault if it is bound to another rule. -/
theorem register_cases (r : Registry) (new : Registration) :
    r.Binds new ∧ r.register new = .ok r ∨
      r.find? new.rule.id = none ∧
        r.register new = .ok { r with entries := r.entries ++ [new] } ∨
      r.Occupied new ∧ r.register new = .error (.duplicate new.rule.id) := by
  unfold register
  cases hfind : r.find? new.rule.id with
  | none => exact .inr (.inl ⟨rfl, rfl⟩)
  | some old =>
      by_cases hsame : old.origin = new.origin
      · exact .inl ⟨⟨old, hfind, hsame⟩, by simp only [if_pos hsame]⟩
      · exact .inr (.inr ⟨⟨old, hfind, hsame⟩, by simp only [if_neg hsame]⟩)

theorem register_of_occupied (h : r.Occupied new) :
    r.register new = .error (.duplicate new.rule.id) := by
  obtain ⟨old, hfind, hother⟩ := h
  unfold register
  simp only [hfind, if_neg hother]

/-- A rule whose identifier is free is added at the end. -/
theorem extends_append (hfree : r.find? new.rule.id = none) :
    Extends [new] r { r with entries := r.entries ++ [new] } := by
  refine ⟨List.prefix_append _ _, id, fun distinct => ?_, fun e he => ?_⟩
  · have absent : new.rule.id ∉ r.ids := by
      intro hmem
      obtain ⟨e, he, hid⟩ := List.mem_map.1 hmem
      have hnot := List.find?_eq_none.1 hfree e he
      simp [hid] at hnot
    unfold ids at *
    rw [List.map_append, List.nodup_append]
    refine ⟨distinct, List.nodup_singleton _, ?_⟩
    rintro a ha b hb rfl
    rw [List.mem_singleton.1 hb] at ha
    exact absent ha
  · exact List.mem_append.1 he

/-- Registering keeps what is there and binds the identifier to the rule. -/
theorem extends_of_register (h : r.register new = .ok r') : Extends [new] r r' ∧ r'.Binds new := by
  rcases register_cases r new with ⟨hbinds, hok⟩ | ⟨hfree, hok⟩ | ⟨-, herror⟩
  · cases h.symm.trans hok
    exact ⟨.refl _ r, hbinds⟩
  · cases h.symm.trans hok
    refine ⟨extends_append hfree, new, ?_, rfl⟩
    unfold Registry.find? at hfree ⊢
    rw [List.find?_append, hfree]
    simp
  · cases h.symm.trans herror

theorem loaded_of_register (h : r.register new = .ok r') : r'.loaded = r.loaded := by
  rcases register_cases r new with ⟨-, hok⟩ | ⟨-, hok⟩ | ⟨-, herror⟩
  · cases h.symm.trans hok
    rfl
  · cases h.symm.trans hok
    rfl
  · cases h.symm.trans herror

theorem extends_registerAll (r : Registry) (ls : List Registration) :
    Extends ls r (r.registerAll ls).1 ∧ (r.registerAll ls).1.loaded = r.loaded := by
  induction ls generalizing r with
  | nil => exact ⟨.refl _ r, rfl⟩
  | cons new ls ih =>
      rw [registerAll]
      cases hnew : r.register new with
      | error e => exact ⟨.refl _ r, rfl⟩
      | ok r' =>
          obtain ⟨hextends, hloaded⟩ := ih r'
          exact ⟨(extends_of_register hnew).1.trans hextends, hloaded.trans (loaded_of_register hnew)⟩

/-- Rules registered in turn are all bound to their identifiers in the end, or the identifier of one
of them is bound to another rule and this is the fault. -/
theorem registerAll_cases (r : Registry) (ls : List Registration) :
    (r.registerAll ls).2 = none ∧ (∀ s ∈ ls, (r.registerAll ls).1.Binds s) ∨
      ∃ s ∈ ls, (r.registerAll ls).1.Occupied s ∧
        (r.registerAll ls).2 = some (.duplicate s.rule.id) := by
  induction ls generalizing r with
  | nil => exact .inl ⟨rfl, List.forall_mem_nil _⟩
  | cons new ls ih =>
      rw [registerAll]
      cases hnew : r.register new with
      | error e =>
          rcases register_cases r new with ⟨-, hok⟩ | ⟨-, hok⟩ | ⟨hoccupied, herror⟩
          · cases hnew.symm.trans hok
          · cases hnew.symm.trans hok
          · cases hnew.symm.trans herror
            exact .inr ⟨new, List.mem_cons_self, hoccupied, rfl⟩
      | ok r' =>
          have hbinds := (extends_registerAll r' ls).1.binds (extends_of_register hnew).2
          rcases ih r' with ⟨hnone, hall⟩ | ⟨s, hs, hoccupied, hfault⟩
          · exact .inl ⟨hnone, List.forall_mem_cons.2 ⟨hbinds, hall⟩⟩
          · exact .inr ⟨s, List.mem_cons_of_mem new hs, hoccupied, hfault⟩

end Register

/-! ### Loading -/

/-- What loading does: nothing if the registry is loaded; else it ends with the shipped rules bound to
their identifiers and the registry loaded, or with one of their identifiers bound to another rule, which
is the fault, and the registry not loaded. -/
theorem load_cases (r : Registry) :
    r.loaded = true ∧ r.load = (r, none) ∨
      r.load.2 = none ∧ r.load.1.loaded = true ∧ (∀ s ∈ shippedRules, r.load.1.Binds s) ∨
      ∃ s ∈ shippedRules, r.load.1.Occupied s ∧ r.load.1.loaded = false ∧
        r.load.2 = some (.duplicate s.rule.id) := by
  unfold load
  by_cases hloaded : r.loaded = true
  · exact .inl ⟨hloaded, if_pos hloaded⟩
  · rw [if_neg hloaded]
    have hsame := (extends_registerAll r shippedRules).2
    refine .inr ?_
    rcases registerAll_cases r shippedRules with ⟨hnone, hall⟩ | ⟨s, hs, hoccupied, hfault⟩
    · cases hload : r.registerAll shippedRules with
      | mk r' fault? =>
          rw [hload] at hnone hall
          cases hnone
          exact .inl ⟨rfl, rfl, hall⟩
    · cases hload : r.registerAll shippedRules with
      | mk r' fault? =>
          rw [hload] at hoccupied hfault hsame
          cases hfault
          exact .inr ⟨s, hs, hoccupied, hsame.trans (Bool.eq_false_iff.2 hloaded), rfl⟩

theorem extends_load (r : Registry) : Extends shippedRules r r.load.1 := by
  unfold load
  split
  · exact .refl _ r
  · obtain ⟨h, -⟩ := extends_registerAll r shippedRules
    cases hload : r.registerAll shippedRules with
    | mk r' fault? =>
        rw [hload] at h
        cases fault? with
        | none => exact ⟨h.entries, fun _ => rfl, h.distinct, h.added⟩
        | some e => exact h

/-- A call that asks for rules leaves the registry as loading does, and fails if loading fails. -/
theorem perform_of_asks (r : Registry) {c : Call} (h : c.asks = true) :
    (r.perform c).1 = r.load.1 ∧ ∀ e, r.load.2 = some e → (r.perform c).2 = some e := by
  have question : ∀ {α : Type} (q : Registry → Except RegistryError α),
      (r.inquire q).1 = r.load.1 ∧ ∀ e, r.load.2 = some e → (r.inquire q).2 = some e := by
    intro α q
    unfold inquire ask
    cases hload : r.load with
    | mk r' fault? =>
        cases fault? with
        | none =>
            cases hq : q r' with
            | error e => simp [hq]
            | ok answer => simp [hq]
        | some e => simp
  cases c with
  | load => exact ⟨rfl, fun e he => he⟩
  | register new => cases h
  | all => exact question _
  | get id => exact question _
  | ids => exact question _
  | build configs only => exact question _

/-! ### Runs -/

/-- The rules that a call may add: the shipped ones, or the one to be registered. -/
def Call.offered : Call → List Registration
  | .register new => [new]
  | _ => shippedRules

theorem Call.offered_of_asks {c : Call} (h : c.asks = true) : c.offered = shippedRules := by
  cases c with
  | register new => cases h
  | _ => rfl

theorem Call.exists_of_not_asks {c : Call} (h : c.asks = false) : ∃ new, c = .register new := by
  cases c with
  | register new => exact ⟨new, rfl⟩
  | _ => cases h

/-- A registration leaves the registry that registering gives, or the registry as it is. -/
theorem perform_register (r : Registry) (new : Registration) :
    (∃ r', r.register new = .ok r' ∧ r.perform (.register new) = (r', none)) ∨
      ∃ e, r.register new = .error e ∧ r.perform (.register new) = (r, some e) := by
  cases hnew : r.register new with
  | ok r' => exact .inl ⟨r', rfl, by simp only [perform, hnew]⟩
  | error e => exact .inr ⟨e, rfl, by simp only [perform, hnew]⟩

theorem extends_perform (r : Registry) (c : Call) : Extends c.offered r (r.perform c).1 := by
  cases hasks : c.asks with
  | true =>
      rw [(perform_of_asks r hasks).1, Call.offered_of_asks hasks]
      exact extends_load r
  | false =>
      obtain ⟨new, rfl⟩ := Call.exists_of_not_asks hasks
      rcases perform_register r new with ⟨r', hok, hperform⟩ | ⟨e, -, hperform⟩
      · rw [hperform]
        exact (extends_of_register hok).1
      · rw [hperform]
        exact .refl _ r

/-- The identifiers are distinct, and the shipped rules are bound to theirs in a loaded registry. -/
structure Sound (r : Registry) : Prop where
  distinct : r.ids.Nodup
  shipped : r.loaded = true → ∀ s ∈ shippedRules, r.Binds s

theorem sound_perform {r : Registry} (h : r.Sound) (c : Call) : (r.perform c).1.Sound := by
  have hextends := extends_perform r c
  refine ⟨hextends.distinct h.distinct, fun hloaded s hs => ?_⟩
  by_cases before : r.loaded = true
  · exact hextends.binds (h.shipped before s hs)
  · -- only loading sets the flag, and only after the shipped rules are bound
    cases hasks : c.asks with
    | true =>
        rw [(perform_of_asks r hasks).1] at hloaded ⊢
        rcases load_cases r with ⟨already, -⟩ | ⟨-, -, hall⟩ | ⟨t, -, -, hfalse, -⟩
        · exact absurd already before
        · exact hall s hs
        · rw [hfalse] at hloaded
          cases hloaded
    | false =>
        obtain ⟨new, rfl⟩ := Call.exists_of_not_asks hasks
        rcases perform_register r new with ⟨r', hok, hperform⟩ | ⟨e, -, hperform⟩
        · rw [hperform, loaded_of_register hok] at hloaded
          exact absurd hloaded before
        · rw [hperform] at hloaded
          exact absurd hloaded before

theorem extends_run (r : Registry) (calls : List Call) :
    Extends (calls.flatMap Call.offered) r (r.run calls) := by
  induction calls generalizing r with
  | nil => exact .refl _ r
  | cons c calls ih =>
      rw [List.flatMap_cons]
      exact (extends_perform r c).trans (ih (r.perform c).1)

theorem sound_run {r : Registry} (h : r.Sound) (calls : List Call) : (r.run calls).Sound := by
  induction calls generalizing r with
  | nil => exact h
  | cons c calls ih => exact ih (sound_perform h c)

theorem sound_empty : ({} : Registry).Sound :=
  ⟨List.nodup_nil, fun h => by cases h⟩

/-- In a registry that was empty, a rule that was offered under its own name only is the one that is
bound. -/
theorem find?_of_binds {r : Registry} {offered : List Registration} {s : Registration}
    (added : ∀ e ∈ r.entries, e ∈ offered) (genuine : ∀ e ∈ offered, e.origin = s.origin → e = s)
    (h : r.Binds s) : r.find? s.rule.id = some s := by
  obtain ⟨e, he, hsame⟩ := h
  rw [genuine e (added e (List.mem_of_find?_eq_some he)) hsame] at he
  exact he

/-- Loading does not give the identifier of a shipped rule to another rule. -/
theorem occupied_of_load {r : Registry} (distinct : r.ids.Nodup) {s : Registration}
    (hs : s ∈ shippedRules) (h : r.load.1.Occupied s) : r.Occupied s := by
  obtain ⟨e, he, hother⟩ := h
  have hid := id_of_find? he
  rcases (extends_load r).added e (List.mem_of_find?_eq_some he) with hmem | hmem
  · exact ⟨e, hid ▸ find?_of_mem distinct hmem, hother⟩
  · rw [List.inj_on_of_nodup_map nodup_ids_shipped hmem hs hid] at hother
    exact absurd rfl hother

/-- Loading succeeds if no identifier of a shipped rule is bound to another rule. -/
theorem load_of_not_occupied {r : Registry} (h : r.Sound)
    (free : ∀ s ∈ shippedRules, ¬ r.Occupied s) : r.load.2 = none ∧ r.load.1.loaded = true := by
  rcases load_cases r with ⟨hloaded, hload⟩ | ⟨hnone, hloaded, -⟩ | ⟨s, hs, hoccupied, -⟩
  · rw [hload]
    exact ⟨rfl, hloaded⟩
  · exact ⟨hnone, hloaded⟩
  · exact absurd (occupied_of_load h.distinct hs hoccupied) (free s hs)

/-- While an identifier of a shipped rule is bound to another rule, no question is answered. -/
theorem perform_of_occupied {r : Registry} (h : r.Sound) {s : Registration} (hs : s ∈ shippedRules)
    (hoccupied : r.Occupied s) {c : Call} (hasks : c.asks = true) :
    ∃ t ∈ shippedRules, r.Occupied t ∧ (r.perform c).2 = some (.duplicate t.rule.id) := by
  have hfault := (perform_of_asks r hasks).2
  rcases load_cases r with ⟨hloaded, -⟩ | ⟨-, -, hall⟩ | ⟨t, ht, htaken, -, hload⟩
  · exact absurd hoccupied (h.shipped hloaded s hs).not_occupied
  · exact absurd ((extends_load r).occupied hoccupied) (hall s hs).not_occupied
  · exact ⟨t, ht, occupied_of_load h.distinct ht htaken, hfault _ hload⟩

/-- What holds of a registry `r` and of a later state `r'` of it. Every rule is found under its own
identifier, and what is found there is found there later; identifiers are added at the end. A rule
whose identifier is bound to another one is refused, and nothing changes. A loaded registry has the
shipped rules bound to their identifiers, and it stays loaded. If an identifier of a shipped rule is
bound to another rule, every later call that asks for rules fails, and names such an identifier; if
none is, loading succeeds. -/
structure AppendOnly (r r' : Registry) : Prop where
  own : ∀ e ∈ r.entries, r.find? e.rule.id = some e
  kept : ∀ id e, r.find? id = some e → r'.find? id = some e
  grows : r.ids <+: r'.ids
  refused : ∀ new, r.Occupied new →
    r.perform (.register new) = (r, some (.duplicate new.rule.id))
  loaded : r.loaded = true → r'.loaded = true ∧ ∀ s ∈ shippedRules, r.Binds s
  blocked : ∀ s ∈ shippedRules, r.Occupied s → ∀ c : Call, c.asks = true →
    ∃ t ∈ shippedRules, r'.Occupied t ∧ (r'.perform c).2 = some (.duplicate t.rule.id)
  loads : (∀ s ∈ shippedRules, ¬ r.Occupied s) →
    (r.perform .load).2 = none ∧ (r.perform .load).1.loaded = true

/-- Over any calls, failed ones included, a registry only grows and never rebinds an identifier. If
nothing else was offered in the place of the shipped rules, these are what a loaded registry holds. -/
theorem run_appendOnly (calls more : List Call) :
    AppendOnly (run {} calls) (run (run {} calls) more) ∧
      ((∀ e ∈ calls.flatMap Call.offered, ∀ s ∈ shippedRules, e.origin = s.origin → e = s) →
        (run {} calls).loaded = true →
          ∀ s ∈ shippedRules, (run {} calls).find? s.rule.id = some s) := by
  have sound : (run {} calls).Sound := sound_run sound_empty calls
  have later : (run (run {} calls) more).Sound := sound_run sound more
  have hextends := extends_run (run {} calls) more
  constructor
  · refine ⟨?_, ?_, hextends.ids, ?_, ?_, ?_, ?_⟩
    · exact fun e he => find?_of_mem sound.distinct he
    · exact fun id e he => hextends.find? he
    · intro new hoccupied
      simp only [perform, register_of_occupied hoccupied]
    · exact fun hloaded => ⟨hextends.loaded hloaded, sound.shipped hloaded⟩
    · intro s hs hoccupied c hasks
      exact perform_of_occupied later hs (hextends.occupied hoccupied) hasks
    · exact load_of_not_occupied sound
  · intro genuine hloaded s hs
    have added : ∀ e ∈ (run {} calls).entries, e ∈ calls.flatMap Call.offered := by
      intro e he
      exact ((extends_run {} calls).added e he).resolve_left List.not_mem_nil
    exact find?_of_binds added (fun e he => genuine e he s hs) (sound.shipped hloaded s hs)

/-- A rule that has taken the identifier of a shipped one. -/
def usurper : Registration :=
  ⟨.custom "usurper", { FrameTitle.rule with message := "" }⟩

/-- The shipped rules before the one whose identifier is taken stay registered, and nothing is
answered from then on. -/
theorem run_appendOnly_usurper :
    (run {} [.register usurper, .ids]).ids = [FrameTitle.id, LinkText.id] ∧
      ∀ more : List Call, ∃ t ∈ shippedRules,
        ((run (run {} [.register usurper, .ids]) more).perform .all).2 =
          some (.duplicate t.rule.id) := by
  refine ⟨by decide, fun more => ?_⟩
  have occupied : (run {} [.register usurper, .ids]).Occupied ⟨.frameTitle, FrameTitle.rule⟩ :=
    ⟨usurper, rfl, by decide⟩
  have shipped : (⟨.frameTitle, FrameTitle.rule⟩ : Registration) ∈ shippedRules :=
    List.mem_cons_of_mem _ List.mem_cons_self
  obtain ⟨t, ht, -, hfault⟩ :=
    (run_appendOnly [.register usurper, .ids] more).1.blocked _ shipped occupied .all rfl
  exact ⟨t, ht, hfault⟩

end Registry

end MarkupAudit
