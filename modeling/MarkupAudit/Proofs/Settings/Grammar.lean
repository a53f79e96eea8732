import MarkupAudit.Proofs.Settings.Merging
import MarkupAudit.Proofs.Settings.Scalars

/-!
# The grammar of settings files

What a value looks like in a file, said without a reader: a scalar, a list or an object
(`Writes`), with blanks around it (`Holds`). Two bounds go with the grammar: how many digits a
whole number has, and how many lists and objects are open at once.

Reading agrees with the grammar. What has been read stands in the text, within the bounds of the
reader (`holds_of_parse`). A text that holds a value is read as this value, and beyond the bounds
it is refused for its size, never as something that is no value (`parse_yields`). Only a text with
a long run of digits or with many brackets is refused for its size (`oversize_of_parse`).
-/

namespace MarkupAudit

namespace Json

/-! ### Values -/

/-- Binds keys one after the other: a key that is repeated takes its last value. -/
def bindAll (es : Entries) (members : List (CodeText × Value)) : Entries :=
  members.foldl (fun es m => es.put (.str m.1) m.2) es

mutual

/-- A value. Whole numbers have at most `limit` digits, and at most `n` lists and objects are open
at once. -/
inductive Writes (limit : Nat) : (n : Nat) → Text → Value → Prop
  | plain {n : Nat} {t : Text} {v : Value} (h : Plain limit t v) : Writes limit n t v
  | string {n : Nat} {t : Text} {s : CodeText} (h : Spells t s) :
      Writes limit n ('"' :: (t ++ ['"'])) (.scalar (.str s))
  | emptyList {n : Nat} {b : Text} (h : Blanks b) :
      Writes limit (n + 1) ('[' :: (b ++ [']'])) (.list [])
  | list {n : Nat} {t : Text} {vs : List Value} (h : WritesItems limit n t vs) :
      Writes limit (n + 1) ('[' :: (t ++ [']'])) (.list vs)
  | emptyObject {n : Nat} {b : Text} (h : Blanks b) :
      Writes limit (n + 1) ('\x7b' :: (b ++ ['\x7d'])) (.object [])
  | object {n : Nat} {t : Text} {ms : List (CodeText × Value)} (h : WritesMembers limit n t ms) :
      Writes limit (n + 1) ('\x7b' :: (t ++ ['\x7d'])) (.object (bindAll [] ms))

/-- A value with blanks around it. -/
inductive Holds (limit : Nat) : (n : Nat) → Text → Value → Prop
  | mk {n : Nat} {b t b' : Text} {v : Value} (hb : Blanks b) (h : Writes limit n t v)
      (hb' : Blanks b') : Holds limit n (b ++ (t ++ b')) v

/-- Values with commas between them. -/
inductive WritesItems (limit : Nat) : (n : Nat) → Text → List Value → Prop
  | last {n : Nat} {t : Text} {v : Value} (h : Holds limit n t v) : WritesItems limit n t [v]
  | cons {n : Nat} {t more : Text} {v : Value} {vs : List Value} (h : Holds limit n t v)
      (hmore : WritesItems limit n more vs) : WritesItems limit n (t ++ ',' :: more) (v :: vs)

/-- Keys and values with colons and commas between them. -/
inductive WritesMembers (limit : Nat) : (n : Nat) → Text → List (CodeText × Value) → Prop
  | last {n : Nat} {b k b' t : Text} {key : CodeText} {v : Value} (hb : Blanks b)
      (hkey : Spells k key) (hb' : Blanks b') (h : Holds limit n t v) :
      WritesMembers limit n (b ++ '"' :: (k ++ '"' :: (b' ++ ':' :: t))) [(key, v)]
  | cons {n : Nat} {b k b' t more : Text} {key : CodeText} {v : Value}
      {ms : List (CodeText × Value)} (hb : Blanks b) (hkey : Spells k key) (hb' : Blanks b')
      (h : Holds limit n t v) (hmore : WritesMembers limit n more ms) :
      WritesMembers limit n (b ++ '"' :: (k ++ '"' :: (b' ++ ':' :: (t ++ ',' :: more))))
        ((key, v) :: ms)

end

/-! ### What is written is read -/

section Complete

variable {limit n depth fuel : Nat} {t b rest : Text} {v : Value} {vs : List Value}

theorem skip_append (hb : Blanks b) (stops : Text.StopsAt isSpace rest) :
    skip (b ++ rest) = rest := by
  rw [skip, List.dropWhile_append_of_pos hb, stops.dropWhile_eq_self]

theorem skip_blanks (hb : Blanks b) {c : Char} (hc : isSpace c = false) (rest : Text) :
    skip (b ++ c :: rest) = c :: rest :=
  skip_append hb (Text.stopsAt_cons.2 hc)

theorem bounded_append (hb : Blanks b) (h : Bounded rest) : Bounded (b ++ rest) := by
  cases b with
  | nil => exact h
  | cons c b =>
      refine Text.stopsAt_cons.2 ?_
      simp [isBound, hb c List.mem_cons_self]

theorem bounded_cons {c : Char} (hc : isBound c = true) (rest : Text) : Bounded (c :: rest) :=
  Text.stopsAt_cons.2 (by rw [hc]; rfl)

/-- The first character of a value is no blank, and does not close a list. -/
theorem Plain.head (h : Plain limit t v) :
    ∃ c more, t = c :: more ∧ isSpace c = false ∧ c ≠ ']' ∧ c ≠ '"' ∧ c ≠ '[' ∧ c ≠ '\x7b' := by
  have digit : ∀ {c : Char}, Text.isAsciiDigit c = true →
      isSpace c = false ∧ c ≠ ']' ∧ c ≠ '"' ∧ c ≠ '[' ∧ c ≠ '\x7b' := by
    intro c hc
    refine ⟨?_, ?_, ?_, ?_, ?_⟩
    · rw [Bool.eq_false_iff, ne_eq, isSpace_iff]
      rintro (rfl | rfl | rfl | rfl) <;> cases hc
    all_goals rintro rfl; cases hc
  cases h with
  | word h =>
      simp only [words, List.mem_cons, Prod.mk.injEq, List.not_mem_nil, or_false] at h
      rcases h with ⟨rfl, rfl⟩ | ⟨rfl, rfl⟩ | ⟨rfl, rfl⟩ | ⟨rfl, rfl⟩ | ⟨rfl, rfl⟩ | ⟨rfl, rfl⟩
      all_goals exact ⟨_, _, rfl, by decide, by decide, by decide, by decide, by decide⟩
  | unsigned h =>
      obtain ⟨c, more, rfl, hc⟩ := h.head
      exact ⟨c, more, rfl, digit hc⟩
  | signed h => exact ⟨'-', _, rfl, by decide, by decide, by decide, by decide, by decide⟩

theorem Writes.head (h : Writes limit n t v) :
    ∃ c more, t = c :: more ∧ isSpace c = false ∧ c ≠ ']' := by
  cases h with
  | plain h =>
      obtain ⟨c, more, ht, hspace, hclose, -⟩ := h.head
      exact ⟨c, more, ht, hspace, hclose⟩
  | string h => exact ⟨_, _, rfl, by decide, by decide⟩
  | emptyList h => exact ⟨_, _, rfl, by decide, by decide⟩
  | list h => exact ⟨_, _, rfl, by decide, by decide⟩
  | emptyObject h => exact ⟨_, _, rfl, by decide, by decide⟩
  | object h => exact ⟨_, _, rfl, by decide, by decide⟩

theorem Writes.stops (h : Writes limit n t v) (rest : Text) : Text.StopsAt isSpace (t ++ rest) := by
  obtain ⟨c, more, rfl, hspace, -⟩ := h.head
  exact Text.stopsAt_cons.2 hspace

theorem value_of_plain (h : Plain limit t v) (fuel depth : Nat) (rest : Text) :
    value (fuel + 1) depth (t ++ rest) = plain (t ++ rest) := by
  obtain ⟨c, more, rfl, -, -, hquote, hlist, hobject⟩ := h.head
  rw [List.cons_append]
  unfold value
  split
  · rename_i heq
    cases heq
    contradiction
  · rename_i heq
    cases heq
    contradiction
  · rename_i heq
    cases heq
    contradiction
  · rfl

/-- A list or an object is refused if too many are open, else its parts are read. -/
theorem yields_of_open {α : Type} {r : Except Fault α} {a : α} {innermost : Container}
    (h : depth < maxDepth →
      Yields (limit ≤ NumeralTooLong.limit ∧ depth + 1 + n ≤ maxDepth) r a) :
    Yields (limit ≤ NumeralTooLong.limit ∧ depth + (n + 1) ≤ maxDepth)
      (if maxDepth ≤ depth then .error (.nesting innermost) else r) a := by
  by_cases hdepth : maxDepth ≤ depth
  · rw [if_pos hdepth]
    exact .inr ⟨fun hfits => by omega, _, rfl, nofun⟩
  · rw [if_neg hdepth]
    exact (h (by omega)).mono fun hfits => ⟨hfits.1, by omega⟩

theorem value_list {s : Text} (hne : ∀ after, skip s ≠ ']' :: after) (fuel depth : Nat) :
    value (fuel + 1) depth ('[' :: s) =
      if maxDepth ≤ depth then .error (.nesting .list)
      else (items fuel (depth + 1) (skip s)).map fun r => (.list r.1, r.2) := by
  rw [value]
  split
  · rfl
  · split
    · rename_i after hskip
      exact absurd hskip (hne after)
    · rfl

theorem value_object {s : Text} (hne : ∀ after, skip s ≠ '\x7d' :: after) (fuel depth : Nat) :
    value (fuel + 1) depth ('\x7b' :: s) =
      if maxDepth ≤ depth then .error (.nesting .object)
      else (entries fuel (depth + 1) [] (skip s)).map fun r => (.object r.1, r.2) := by
  rw [value]
  split
  · rfl
  · split
    · rename_i after hskip
      exact absurd hskip (hne after)
    · rfl

theorem skip_element {b' : Text} (hb : Blanks b) (h : Writes limit n t v) (rest : Text) :
    skip (b ++ (t ++ b') ++ rest) = t ++ (b' ++ rest) := by
  rw [List.append_assoc, List.append_assoc, skip_append hb (h.stops _)]

theorem WritesItems.skip_ne (h : WritesItems limit n t vs) (rest : Text) :
    ∀ after, skip (t ++ rest) ≠ ']' :: after := by
  have element : ∀ {t v} rest after, Holds limit n t v →
      skip (t ++ rest) ≠ ']' :: after := by
    rintro t v rest after ⟨hb, h, hb'⟩
    obtain ⟨c, more, rfl, -, hne⟩ := h.head
    rw [skip_element hb h, List.cons_append]
    exact fun heq => hne (List.cons.inj heq).1
  intro after
  cases h with
  | last h => exact element rest after h
  | cons h hmore =>
      rw [List.append_assoc]
      exact element _ after h

theorem WritesMembers.skip_ne {ms : List (CodeText × Value)} (h : WritesMembers limit n t ms)
    (rest : Text) : ∀ after, skip (t ++ rest) ≠ '\x7d' :: after := by
  intro after
  cases h with
  | last hb hkey hmid h =>
      rw [List.append_assoc, List.cons_append, skip_blanks hb rfl]
      nofun
  | cons hb hkey hmid h hmore =>
      rw [List.append_assoc, List.cons_append, skip_blanks hb rfl]
      nofun

/-- Behind a key and a colon the value decides how the entries of an object go on. -/
theorem entries_key {k b' : Text} {key : CodeText} (hkey : Spells k key) (hb : Blanks b')
    (fuel depth : Nat) (es : Entries) (s : Text) :
    entries (fuel + 1) depth es ('"' :: (k ++ '"' :: (b' ++ ':' :: s))) =
      match value fuel depth (skip s) with
      | .error fault => .error fault
      | .ok (v, rest) =>
          match skip rest with
          | ',' :: more => entries fuel depth (es.put (.str key) v) (skip more)
          | '\x7d' :: after => .ok (es.put (.str key) v, after)
          | _ => .error .invalid := by
  have hread : string? ((k ++ '"' :: (b' ++ ':' :: s)).length + 1)
      (k ++ '"' :: (b' ++ ':' :: s)) = some (key, b' ++ ':' :: s) :=
    string?_append hkey (by rw [List.length_append]; omega) _
  have hcolon := skip_blanks hb (c := ':') rfl s
  rw [entries, hread]
  dsimp only
  rw [hcolon]
  rfl

mutual

theorem Writes.yields : ∀ {n : Nat} {t : Text} {v : Value}, Writes limit n t v →
    ∀ (fuel depth : Nat) (rest : Text), t.length < fuel → Bounded rest →
      Yields (limit ≤ NumeralTooLong.limit ∧ depth + n ≤ maxDepth) (value fuel depth (t ++ rest))
        (v, rest)
  | _, _, _, .plain h, fuel + 1, depth, rest, hfuel, hrest => by
      rw [value_of_plain h]
      exact (plain_append h hrest).mono And.left
  | _, _, _, .string (t := t) h, fuel + 1, depth, rest, hfuel, hrest => by
      have hread : string? ((t ++ '"' :: rest).length + 1) (t ++ '"' :: rest) = some (_, rest) :=
        string?_append h (by rw [List.length_append]; omega) rest
      rw [List.cons_append, List.append_assoc, List.singleton_append, value, hread]
      exact .inl rfl
  | _, _, _, .emptyList h, fuel + 1, depth, rest, hfuel, hrest => by
      have hclose := skip_blanks h (c := ']') rfl rest
      rw [List.cons_append, List.append_assoc, List.singleton_append, value, hclose]
      exact yields_of_open fun _ => .inl rfl
  | _, _, _, .list (t := t) h, fuel + 1, depth, rest, hfuel, hrest => by
      simp only [List.length_cons, List.length_append, List.length_nil] at hfuel
      have hitems := h.yields fuel (depth + 1) rest (by omega)
      rw [List.cons_append, List.append_assoc, List.singleton_append, value_list (h.skip_ne _)]
      exact yields_of_open fun _ => hitems.map _
  | _, _, _, .emptyObject h, fuel + 1, depth, rest, hfuel, hrest => by
      have hclose := skip_blanks h (c := '\x7d') rfl rest
      rw [List.cons_append, List.append_assoc, List.singleton_append, value, hclose]
      exact yields_of_open fun _ => .inl rfl
  | _, _, _, .object h, fuel + 1, depth, rest, hfuel, hrest => by
      simp only [List.length_cons, List.length_append, List.length_nil] at hfuel
      have hentries := h.yields fuel (depth + 1) [] rest (by omega)
      rw [List.cons_append, List.append_assoc, List.singleton_append, value_object (h.skip_ne _)]
      exact yields_of_open fun _ => hentries.map _

theorem WritesItems.yields : ∀ {n : Nat} {t : Text} {vs : List Value}, WritesItems limit n t vs →
    ∀ (fuel depth : Nat) (rest : Text), t.length + 1 < fuel →
      Yields (limit ≤ NumeralTooLong.limit ∧ depth + n ≤ maxDepth)
        (items fuel depth (skip (t ++ ']' :: rest))) (vs, rest)
  | _, _, _, .last (.mk hb h hb'), fuel + 1, depth, rest, hfuel => by
      simp only [List.length_append] at hfuel
      have hvalue := h.yields fuel depth _ (by omega)
        (bounded_append hb' (bounded_cons (c := ']') rfl rest))
      rw [skip_element hb h, items]
      rcases hvalue with hok | ⟨hbeyond, fault, herror, hne⟩
      · rw [hok]
        simp only [skip_blanks hb' (c := ']') rfl rest]
        exact .inl rfl
      · rw [herror]
        exact .inr ⟨hbeyond, fault, rfl, hne⟩
  | _, _, _, @WritesItems.cons _ _ _ more _ _ (.mk hb h hb') hmore, fuel + 1, depth, rest,
      hfuel => by
      simp only [List.length_append, List.length_cons] at hfuel
      have hvalue := h.yields fuel depth _ (by omega)
        (bounded_append hb' (bounded_cons (c := ',') rfl (more ++ ']' :: rest)))
      have hitems := hmore.yields fuel depth rest (by omega)
      rw [List.append_assoc, List.cons_append, skip_element hb h, items]
      rcases hvalue with hok | ⟨hbeyond, fault, herror, hne⟩
      · rw [hok]
        simp only [skip_blanks hb' (c := ',') rfl _]
        exact hitems.map _
      · rw [herror]
        exact .inr ⟨hbeyond, fault, rfl, hne⟩

theorem WritesMembers.yields : ∀ {n : Nat} {t : Text} {ms : List (CodeText × Value)},
    WritesMembers limit n t ms →
    ∀ (fuel depth : Nat) (es : Entries) (rest : Text), t.length + 1 < fuel →
      Yields (limit ≤ NumeralTooLong.limit ∧ depth + n ≤ maxDepth)
        (entries fuel depth es (skip (t ++ '\x7d' :: rest))) (bindAll es ms, rest)
  | _, _, _, .last hb hkey hmid (.mk hb' h hb''), fuel + 1, depth, es, rest, hfuel => by
      simp only [List.length_append, List.length_cons] at hfuel
      have hvalue := h.yields fuel depth _ (by omega)
        (bounded_append hb'' (bounded_cons (c := '\x7d') rfl rest))
      simp only [List.append_assoc, List.cons_append]
      rw [skip_blanks hb rfl, entries_key hkey hmid, skip_append hb' (h.stops _)]
      rcases hvalue with hok | ⟨hbeyond, fault, herror, hne⟩
      · rw [hok]
        simp only [skip_blanks hb'' (c := '\x7d') rfl rest]
        exact .inl rfl
      · rw [herror]
        exact .inr ⟨hbeyond, fault, rfl, hne⟩
  | _, _, _, @WritesMembers.cons _ _ _ _ _ _ more key v _ hb hkey hmid (.mk hb' h hb'') hmore,
      fuel + 1, depth, es, rest, hfuel => by
      simp only [List.length_append, List.length_cons] at hfuel
      have hvalue := h.yields fuel depth _ (by omega)
        (bounded_append hb'' (bounded_cons (c := ',') rfl (more ++ '\x7d' :: rest)))
      have hentries := hmore.yields fuel depth (es.put (.str key) v) rest (by omega)
      simp only [List.append_assoc, List.cons_append]
      rw [skip_blanks hb rfl, entries_key hkey hmid, skip_append hb' (h.stops _)]
      rcases hvalue with hok | ⟨hbeyond, fault, herror, hne⟩
      · rw [hok]
        simp only [skip_blanks hb'' (c := ',') rfl _]
        exact hentries
      · rw [herror]
        exact .inr ⟨hbeyond, fault, rfl, hne⟩

end

end Complete

/-! ### What is read is written -/

section Sound

variable {limit n depth fuel : Nat} {s t b rest : Text} {v : Value} {vs : List Value}

theorem skip_cases (s : Text) : ∃ b, Blanks b ∧ s = b ++ skip s :=
  ⟨s.takeWhile isSpace, List.all_eq_true.1 List.all_takeWhile,
    List.takeWhile_append_dropWhile.symm⟩

theorem Blanks.append {b' : Text} (hb : Blanks b) (hb' : Blanks b') : Blanks (b ++ b') :=
  List.forall_mem_append.2 ⟨hb, hb'⟩

theorem blanks_nil : Blanks [] :=
  List.forall_mem_nil _

theorem Holds.blanks (hb : Blanks b) (h : Holds limit n t v) :
    Holds limit n (b ++ t) v := by
  obtain ⟨hb', h, hb''⟩ := h
  rw [← List.append_assoc]
  exact .mk (hb.append hb') h hb''

theorem WritesItems.blanks (hb : Blanks b) (h : WritesItems limit n t vs) :
    WritesItems limit n (b ++ t) vs := by
  cases h with
  | last h => exact .last (h.blanks hb)
  | cons h hmore =>
      rw [← List.append_assoc]
      exact .cons (h.blanks hb) hmore

theorem WritesMembers.blanks {ms : List (CodeText × Value)} (hb : Blanks b)
    (h : WritesMembers limit n t ms) : WritesMembers limit n (b ++ t) ms := by
  cases h with
  | last hb' hkey hmid h =>
      rw [← List.append_assoc]
      exact .last (hb.append hb') hkey hmid h
  | cons hb' hkey hmid h hmore =>
      rw [← List.append_assoc]
      exact .cons (hb.append hb') hkey hmid h hmore

/-- What reading a value comes to, by the readers of its parts. -/
inductive ValueStep (fuel depth : Nat) : Text → Except Fault (Value × Text) → Prop
  | invalid {s : Text} : ValueStep fuel depth s (.error .invalid)
  | plain {s : Text} : ValueStep fuel depth s (plain s)
  | string {t rest : Text} {str : CodeText} (h : Spells t str) :
      ValueStep fuel depth ('"' :: (t ++ '"' :: rest)) (.ok (.scalar (.str str), rest))
  | tooDeep {c : Char} {s : Text} {innermost : Container} (hc : c = '[' ∨ c = '\x7b')
      (hdepth : maxDepth ≤ depth) : ValueStep fuel depth (c :: s) (.error (.nesting innermost))
  | emptyList {b rest : Text} (hdepth : depth < maxDepth) (hb : Blanks b) :
      ValueStep fuel depth ('[' :: (b ++ ']' :: rest)) (.ok (.list [], rest))
  | list {b s : Text} (hdepth : depth < maxDepth) (hb : Blanks b) :
      ValueStep fuel depth ('[' :: (b ++ s))
        ((items fuel (depth + 1) s).map fun r => (.list r.1, r.2))
  | emptyObject {b rest : Text} (hdepth : depth < maxDepth) (hb : Blanks b) :
      ValueStep fuel depth ('\x7b' :: (b ++ '\x7d' :: rest)) (.ok (.object [], rest))
  | object {b s : Text} (hdepth : depth < maxDepth) (hb : Blanks b) :
      ValueStep fuel depth ('\x7b' :: (b ++ s))
        ((entries fuel (depth + 1) [] s).map fun r => (.object r.1, r.2))

/-- What reading the items of a list comes to, by what reading the first of them comes to. -/
inductive ItemsStep (fuel depth : Nat) (s : Text) : Except Fault (List Value × Text) → Prop
  | invalid : ItemsStep fuel depth s (.error .invalid)
  | fault {fault : Fault} (h : value fuel depth s = .error fault) :
      ItemsStep fuel depth s (.error fault)
  | last {v : Value} {b rest : Text} (h : value fuel depth s = .ok (v, b ++ ']' :: rest))
      (hb : Blanks b) : ItemsStep fuel depth s (.ok ([v], rest))
  | more {v : Value} {b b' more : Text}
      (h : value fuel depth s = .ok (v, b ++ ',' :: (b' ++ more))) (hb : Blanks b)
      (hb' : Blanks b') :
      ItemsStep fuel depth s ((items fuel depth more).map fun r => (v :: r.1, r.2))

/-- What reading the entries of an object comes to, by what reading the first value comes to. -/
inductive EntriesStep (fuel depth : Nat) (es : Entries) :
    Text → Except Fault (Entries × Text) → Prop
  | invalid {s : Text} : EntriesStep fuel depth es s (.error .invalid)
  | fault {k b b' s : Text} {fault : Fault} (h : value fuel depth s = .error fault) :
      EntriesStep fuel depth es ('"' :: (k ++ '"' :: (b ++ ':' :: (b' ++ s)))) (.error fault)
  | last {k b b' b'' s rest : Text} {key : CodeText} {v : Value} (hkey : Spells k key)
      (hb : Blanks b) (hb' : Blanks b')
      (h : value fuel depth s = .ok (v, b'' ++ '\x7d' :: rest)) (hb'' : Blanks b'') :
      EntriesStep fuel depth es ('"' :: (k ++ '"' :: (b ++ ':' :: (b' ++ s))))
        (.ok (es.put (.str key) v, rest))
  | more {k b b' b'' b₃ s more : Text} {key : CodeText} {v : Value} (hkey : Spells k key)
      (hb : Blanks b) (hb' : Blanks b')
      (h : value fuel depth s = .ok (v, b'' ++ ',' :: (b₃ ++ more))) (hb'' : Blanks b'')
      (hb₃ : Blanks b₃) :
      EntriesStep fuel depth es ('"' :: (k ++ '"' :: (b ++ ':' :: (b' ++ s))))
        (entries fuel depth (es.put (.str key) v) more)

theorem valueStep (fuel depth : Nat) (s : Text) :
    ValueStep fuel depth s (value (fuel + 1) depth s) := by
  unfold value
  split
  · split
    · exact .invalid
    · rename_i str rest hread
      obtain ⟨t, rfl, ht⟩ := string?_of_some hread
      exact .string ht
  · rename_i s
    split
    · rename_i hdepth
      exact .tooDeep (.inl rfl) hdepth
    · rename_i hdepth
      obtain ⟨b, hb, hs⟩ := skip_cases s
      generalize skip s = s' at hs
      subst hs
      split
      · exact .emptyList (Nat.lt_of_not_le hdepth) hb
      · exact .list (Nat.lt_of_not_le hdepth) hb
  · rename_i s
    split
    · rename_i hdepth
      exact .tooDeep (.inr rfl) hdepth
    · rename_i hdepth
      obtain ⟨b, hb, hs⟩ := skip_cases s
      generalize skip s = s' at hs
      subst hs
      split
      · exact .emptyObject (Nat.lt_of_not_le hdepth) hb
      · exact .object (Nat.lt_of_not_le hdepth) hb
  · exact .plain

theorem itemsStep (fuel depth : Nat) (s : Text) :
    ItemsStep fuel depth s (items (fuel + 1) depth s) := by
  unfold items
  split
  · rename_i fault hvalue
    exact .fault hvalue
  · rename_i v rest hvalue
    obtain ⟨b, hb, hrest⟩ := skip_cases rest
    split
    · rename_i more hskip
      obtain ⟨b', hb', hmore⟩ := skip_cases more
      rw [hrest, hskip, hmore] at hvalue
      exact .more hvalue hb hb'
    · rename_i after hskip
      rw [hrest, hskip] at hvalue
      exact .last hvalue hb
    · exact .invalid

theorem entriesStep (fuel depth : Nat) (es : Entries) (s : Text) :
    EntriesStep fuel depth es s (entries (fuel + 1) depth es s) := by
  unfold entries
  split
  · split
    · exact .invalid
    · rename_i key behind hread
      obtain ⟨k, rfl, hkey⟩ := string?_of_some hread
      obtain ⟨b, hb, hbehind⟩ := skip_cases behind
      split
      · rename_i s hcolon
        obtain ⟨b', hb', hs⟩ := skip_cases s
        rw [hcolon] at hbehind
        generalize skip s = s' at hs
        subst hs
        subst hbehind
        split
        · rename_i fault hvalue
          exact .fault hvalue
        · rename_i v rest hvalue
          obtain ⟨b'', hb'', hrest⟩ := skip_cases rest
          simp only
          split
          · rename_i more hskip
            obtain ⟨b₃, hb₃, hmore⟩ := skip_cases more
            rw [hrest, hskip, hmore] at hvalue
            exact .more hkey hb hb' hvalue hb'' hb₃
          · rename_i after hskip
            rw [hrest, hskip] at hvalue
            exact .last hkey hb hb' hvalue hb''
          · exact .invalid
      · exact .invalid
  · exact .invalid

/-- What the readers have read stands written at the start of the text, the items of a list and the
entries of an object up to the closing bracket. -/
structure Reads (fuel : Nat) : Prop where
  value : ∀ {depth s v rest}, value fuel depth s = .ok (v, rest) →
    ∃ t, s = t ++ rest ∧ Writes NumeralTooLong.limit (maxDepth - depth) t v
  items : ∀ {depth s vs rest}, items fuel depth s = .ok (vs, rest) →
    ∃ t, s = t ++ ']' :: rest ∧ WritesItems NumeralTooLong.limit (maxDepth - depth) t vs
  entries : ∀ {depth es s es' rest}, entries fuel depth es s = .ok (es', rest) →
    ∃ t ms, s = t ++ '\x7d' :: rest ∧
      WritesMembers NumeralTooLong.limit (maxDepth - depth) t ms ∧ es' = bindAll es ms

theorem Reads.value_succ (ih : Reads fuel) (h : Json.value (fuel + 1) depth s = .ok (v, rest)) :
    ∃ t, s = t ++ rest ∧ Writes NumeralTooLong.limit (maxDepth - depth) t v := by
  have hopen : depth < maxDepth → maxDepth - depth = maxDepth - (depth + 1) + 1 := by omega
  have step := valueStep fuel depth s
  generalize Json.value (fuel + 1) depth s = r at h step
  cases step with
  | invalid => cases h
  | plain =>
      obtain ⟨t, hs, ht⟩ := plain_of_ok h
      exact ⟨t, hs, .plain ht⟩
  | @string t rest str ht =>
      cases h
      exact ⟨'"' :: (t ++ ['"']), by simp, .string ht⟩
  | tooDeep hc hdepth => cases h
  | @emptyList b rest hdepth hb =>
      cases h
      rw [hopen hdepth]
      exact ⟨'[' :: (b ++ [']']), by simp, .emptyList hb⟩
  | @list b s hdepth hb =>
      obtain ⟨⟨vs, after⟩, hitems, heq⟩ := map_eq_ok_iff.1 h
      cases heq
      obtain ⟨t, rfl, ht⟩ := ih.items hitems
      rw [hopen hdepth]
      exact ⟨'[' :: (b ++ t ++ [']']), by simp, .list (ht.blanks hb)⟩
  | @emptyObject b rest hdepth hb =>
      cases h
      rw [hopen hdepth]
      exact ⟨'\x7b' :: (b ++ ['\x7d']), by simp, .emptyObject hb⟩
  | @object b s hdepth hb =>
      obtain ⟨⟨es, after⟩, hentries, heq⟩ := map_eq_ok_iff.1 h
      cases heq
      obtain ⟨t, ms, rfl, ht, rfl⟩ := ih.entries hentries
      rw [hopen hdepth]
      exact ⟨'\x7b' :: (b ++ t ++ ['\x7d']), by simp, .object (ht.blanks hb)⟩

theorem Reads.items_succ (ih : Reads fuel) (h : Json.items (fuel + 1) depth s = .ok (vs, rest)) :
    ∃ t, s = t ++ ']' :: rest ∧ WritesItems NumeralTooLong.limit (maxDepth - depth) t vs := by
  have step := itemsStep fuel depth s
  generalize Json.items (fuel + 1) depth s = r at h step
  cases step with
  | invalid => cases h
  | fault hvalue => cases h
  | @last v b rest hvalue hb =>
      cases h
      obtain ⟨t, rfl, ht⟩ := ih.value hvalue
      exact ⟨t ++ b, by simp, .last (.mk blanks_nil ht hb)⟩
  | @more v b b' more hvalue hb hb' =>
      obtain ⟨⟨vs, after⟩, hitems, heq⟩ := map_eq_ok_iff.1 h
      cases heq
      obtain ⟨t, rfl, ht⟩ := ih.value hvalue
      obtain ⟨t', rfl, ht'⟩ := ih.items hitems
      exact ⟨t ++ b ++ ',' :: (b' ++ t'), by simp,
        .cons (.mk blanks_nil ht hb) (ht'.blanks hb')⟩

theorem Reads.entries_succ (ih : Reads fuel) {es es' : Entries}
    (h : Json.entries (fuel + 1) depth es s = .ok (es', rest)) :
    ∃ t ms, s = t ++ '\x7d' :: rest ∧
      WritesMembers NumeralTooLong.limit (maxDepth - depth) t ms ∧ es' = bindAll es ms := by
  have step := entriesStep fuel depth es s
  generalize Json.entries (fuel + 1) depth es s = r at h step
  cases step with
  | invalid => cases h
  | fault hvalue => cases h
  | last hkey hb hb' hvalue hb'' =>
      cases h
      obtain ⟨t, rfl, ht⟩ := ih.value hvalue
      exact ⟨_, _, by simp, .last blanks_nil hkey hb (.mk hb' ht hb''), rfl⟩
  | more hkey hb hb' hvalue hb'' hb₃ =>
      obtain ⟨t, rfl, ht⟩ := ih.value hvalue
      obtain ⟨t', ms, rfl, ht', rfl⟩ := ih.entries h
      exact ⟨_, _, by simp, .cons blanks_nil hkey hb (.mk hb' ht hb'') (ht'.blanks hb₃), rfl⟩

theorem reads (fuel : Nat) : Reads fuel := by
  induction fuel with
  | zero => exact ⟨nofun, nofun, nofun⟩
  | succ fuel ih => exact ⟨ih.value_succ, ih.items_succ, ih.entries_succ⟩

end Sound

/-! ### Why a text is refused -/

section Refused

variable {depth fuel : Nat} {s part : Text} {fault : Fault}

/-- How many lists and objects are opened in a text. -/
def opened (s : Text) : Nat :=
  s.countP fun c => c == '[' || c == '\x7b'

/-- What is the matter with a text that is refused inside of `depth` lists and objects, unless it
is no value. -/
def Oversize (depth : Nat) (s : Text) : Fault → Prop
  | .invalid => True
  | .numeral _ => LongRun s
  | .nesting _ => maxDepth < depth + opened s

theorem Oversize.widen (h : Oversize depth part fault) (hpart : part <:+: s) :
    Oversize depth s fault := by
  cases fault with
  | invalid => trivial
  | numeral f => exact LongRun.widen h hpart
  | nesting c =>
      have hcount : opened part ≤ opened s := hpart.sublist.countP_le
      rw [Oversize] at h ⊢
      omega

/-- The bracket of a list or an object counts for what stands behind it. -/
theorem Oversize.behind {c : Char} (hc : c = '[' ∨ c = '\x7b') (h : Oversize (depth + 1) part fault)
    (hpart : part <:+: s) : Oversize depth (c :: s) fault := by
  cases fault with
  | invalid => trivial
  | numeral f => exact LongRun.widen h (hpart.trans (List.suffix_cons c s).isInfix)
  | nesting innermost =>
      have hcount : opened part ≤ opened s := hpart.sublist.countP_le
      have hopen : opened (c :: s) = opened s + 1 := List.countP_cons_of_pos (by simpa using hc)
      rw [Oversize] at h ⊢
      omega

/-- A reader that refuses a text as too large does so for a reason. -/
structure Refuses (fuel : Nat) : Prop where
  value : ∀ {depth s fault}, value fuel depth s = .error fault → Oversize depth s fault
  items : ∀ {depth s fault}, items fuel depth s = .error fault → Oversize depth s fault
  entries : ∀ {depth es s fault}, entries fuel depth es s = .error fault → Oversize depth s fault

theorem map_eq_error {α β : Type} {r : Except Fault α} {f : α → β} (h : r.map f = .error fault) :
    r = .error fault := by
  cases r with
  | error f => exact congrArg _ (Except.error.inj h)
  | ok a => cases h

theorem Refuses.value_succ (ih : Refuses fuel) (h : Json.value (fuel + 1) depth s = .error fault) :
    Oversize depth s fault := by
  have step := valueStep fuel depth s
  generalize Json.value (fuel + 1) depth s = r at h step
  cases step with
  | invalid =>
      cases h
      trivial
  | plain =>
      rcases plain_of_error h with rfl | ⟨⟨f, rfl⟩, hrun⟩
      · trivial
      · exact hrun
  | string ht => cases h
  | @tooDeep c s innermost hc hdepth =>
      cases h
      have hopen : opened (c :: s) = opened s + 1 := List.countP_cons_of_pos (by simpa using hc)
      rw [Oversize]
      omega
  | emptyList hdepth hb => cases h
  | @list b s hdepth hb =>
      exact (ih.items (map_eq_error h)).behind (.inl rfl) (List.suffix_append b s).isInfix
  | emptyObject hdepth hb => cases h
  | @object b s hdepth hb =>
      exact (ih.entries (map_eq_error h)).behind (.inr rfl) (List.suffix_append b s).isInfix

theorem Refuses.items_succ (ih : Refuses fuel) (h : Json.items (fuel + 1) depth s = .error fault) :
    Oversize depth s fault := by
  have step := itemsStep fuel depth s
  generalize Json.items (fuel + 1) depth s = r at h step
  cases step with
  | invalid =>
      cases h
      trivial
  | fault hvalue =>
      cases h
      exact ih.value hvalue
  | last hvalue hb => cases h
  | @more v b b' more hvalue hb hb' =>
      obtain ⟨t, rfl, -⟩ := (reads fuel).value hvalue
      refine (ih.items (map_eq_error h)).widen (List.IsSuffix.isInfix ⟨t ++ b ++ ',' :: b', ?_⟩)
      simp

theorem Refuses.entries_succ (ih : Refuses fuel) {es : Entries}
    (h : Json.entries (fuel + 1) depth es s = .error fault) : Oversize depth s fault := by
  have step := entriesStep fuel depth es s
  generalize Json.entries (fuel + 1) depth es s = r at h step
  cases step with
  | invalid =>
      cases h
      trivial
  | @fault k b b' s fault hvalue =>
      cases h
      refine (ih.value hvalue).widen
        (List.IsSuffix.isInfix ⟨'"' :: (k ++ '"' :: (b ++ ':' :: b')), ?_⟩)
      simp
  | last hkey hb hb' hvalue hb'' => cases h
  | @more k b b' b'' b₃ s more key v hkey hb hb' hvalue hb'' hb₃ =>
      obtain ⟨t, rfl, -⟩ := (reads fuel).value hvalue
      refine (ih.entries h).widen (List.IsSuffix.isInfix
        ⟨'"' :: (k ++ '"' :: (b ++ ':' :: (b' ++ (t ++ (b'' ++ ',' :: b₃))))), ?_⟩)
      simp

theorem refuses (fuel : Nat) : Refuses fuel := by
  induction fuel with
  | zero =>
      refine ⟨?_, ?_, ?_⟩
      · rintro depth s fault ⟨⟩
        trivial
      · rintro depth s fault ⟨⟩
        trivial
      · rintro depth es s fault ⟨⟩
        trivial
  | succ fuel ih => exact ⟨ih.value_succ, ih.items_succ, ih.entries_succ⟩

end Refused

/-! ### Whole texts -/

section Parsing

variable {limit n : Nat} {s t : Text} {v : Value}

/-- A text that holds a value is read as this value, unless it goes beyond a bound. -/
theorem parse_yields (h : Holds limit n s v) :
    Yields (limit ≤ NumeralTooLong.limit ∧ n ≤ maxDepth) (parse s) v := by
  obtain ⟨hb, h, hb'⟩ := h
  rename_i b t b'
  have hskip : skip (b ++ (t ++ b')) = t ++ b' := skip_append hb (h.stops b')
  have hclosed : Bounded b' := by
    rw [← List.append_nil b']
    exact bounded_append hb' Text.stopsAt_nil
  have hempty : skip b' = [] := by
    rw [← List.append_nil b']
    exact skip_append hb' Text.stopsAt_nil
  have hvalue := h.yields ((b ++ (t ++ b')).length + 2) 0 b'
    (by simp only [List.length_append]; omega) hclosed
  unfold parse
  rw [hskip]
  rcases hvalue with hok | ⟨hbeyond, fault, herror, hne⟩
  · rw [hok]
    simp only [hempty]
    exact .inl rfl
  · rw [herror]
    exact .inr ⟨by simpa using hbeyond, fault, rfl, hne⟩

theorem holds_of_parse (h : parse s = .ok v) : Holds NumeralTooLong.limit maxDepth s v := by
  unfold parse at h
  split at h
  · cases h
  · rename_i v' rest hvalue
    split at h
    · rename_i hempty
      cases h
      obtain ⟨b, hb, hs⟩ := skip_cases s
      obtain ⟨b', hb', hrest⟩ := skip_cases rest
      obtain ⟨t, ht, hwrites⟩ := (reads _).value hvalue
      rw [List.isEmpty_iff.1 hempty, List.append_nil] at hrest
      rw [hs, ht, hrest]
      exact .mk hb hwrites hb'
    · cases h

theorem oversize_of_parse {fault : Fault} (h : parse s = .error fault) : Oversize 0 s fault := by
  unfold parse at h
  split at h
  · rename_i fault' hvalue
    cases h
    obtain ⟨b, -, hs⟩ := skip_cases s
    exact ((refuses _).value hvalue).widen (List.IsSuffix.isInfix ⟨b, hs.symm⟩)
  · split at h
    · cases h
    · cases h
      trivial

end Parsing

/-! ### The values of settings files -/

section IsJson

variable {limit n : Nat} {t : Text} {v : Value}

theorem Plain.isJson (h : Plain limit t v) : v.IsJson := by
  cases h with
  | word h =>
      simp only [words, List.mem_cons, Prod.mk.injEq, List.not_mem_nil, or_false] at h
      rcases h with ⟨-, rfl⟩ | ⟨-, rfl⟩ | ⟨-, rfl⟩ | ⟨-, rfl⟩ | ⟨-, rfl⟩ | ⟨-, rfl⟩
      all_goals exact .scalar _
  | unsigned h => cases h <;> exact .scalar _
  | signed h => cases h <;> exact .scalar _

theorem isJson_bindAll {es : Entries} (h : es.IsJson) {ms : List (CodeText × Value)}
    (hms : ∀ m ∈ ms, m.2.IsJson) : (bindAll es ms).IsJson := by
  induction ms generalizing es with
  | nil => exact h
  | cons m ms ih =>
      obtain ⟨hm, hms⟩ := List.forall_mem_cons.1 hms
      exact ih (h.put m.1 hm) hms

mutual

theorem Writes.isJson : ∀ {n : Nat} {t : Text} {v : Value}, Writes limit n t v → v.IsJson
  | _, _, _, .plain h => h.isJson
  | _, _, _, .string _ => .scalar _
  | _, _, _, .emptyList _ => .list (List.forall_mem_nil _)
  | _, _, _, .list h => .list h.isJson
  | _, _, _, .emptyObject _ => Value.isJson_object.2 Entries.isJson_nil
  | _, _, _, .object h => Value.isJson_object.2 (isJson_bindAll Entries.isJson_nil h.isJson)

theorem Holds.isJson : ∀ {n : Nat} {t : Text} {v : Value}, Holds limit n t v → v.IsJson
  | _, _, _, .mk _ h _ => h.isJson

theorem WritesItems.isJson : ∀ {n : Nat} {t : Text} {vs : List Value}, WritesItems limit n t vs →
    ∀ v ∈ vs, v.IsJson
  | _, _, _, .last h => List.forall_mem_singleton.2 h.isJson
  | _, _, _, .cons h hmore => List.forall_mem_cons.2 ⟨h.isJson, hmore.isJson⟩

theorem WritesMembers.isJson : ∀ {n : Nat} {t : Text} {ms : List (CodeText × Value)},
    WritesMembers limit n t ms → ∀ m ∈ ms, m.2.IsJson
  | _, _, _, .last _ _ _ h => List.forall_mem_singleton.2 h.isJson
  | _, _, _, .cons _ _ _ h hmore => List.forall_mem_cons.2 ⟨h.isJson, hmore.isJson⟩

end

end IsJson

end Json

end MarkupAudit
