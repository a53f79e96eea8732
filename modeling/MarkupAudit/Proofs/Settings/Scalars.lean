import MarkupAudit.Proofs.Counter.Spelling
import MarkupAudit.Settings.Json

/-!
# Words, numbers and strings in settings files

What a scalar looks like in a file, said without a reader: words and numbers (`Plain`) and strings
(`Spells`). A whole number has a bound on its digits.

A number ends where a character stands that cannot go on with it (`Bounded`), so each reader takes
exactly what the grammar describes (`plain_of_ok`, `plain_append`, `string?_of_some`,
`string?_append`). A number is refused for its size only if it has more digits than the reader
takes (`plain_of_error`).
-/

namespace MarkupAudit

namespace Json

/-! ### Numbers -/

/-- Blanks and nothing else. -/
def Blanks (t : Text) : Prop :=
  ∀ c ∈ t, isSpace c = true

/-- At least one digit, and nothing else. -/
def Digits (t : Text) : Prop :=
  t ≠ [] ∧ ∀ c ∈ t, Text.isAsciiDigit c = true

/-- The whole part of a number: a zero alone, or digits that do not start with zero. -/
def Whole (t : Text) : Prop :=
  t = ['0'] ∨ Digits t ∧ t.head? ≠ some '0'

/-- The fraction of a number and its places, if it has one. -/
inductive Fraction : (t places : Text) → Prop
  | absent : Fraction [] []
  | present {ds : Text} (h : Digits ds) : Fraction ('.' :: ds) ds

/-- The sign of an exponent, and whether it is a minus. -/
inductive Sign : (t : Text) → (negative : Bool) → Prop
  | absent : Sign [] false
  | plus : Sign ['+'] false
  | minus : Sign ['-'] true

/-- The exponent of a number and the power of ten that it stands for, if it has one. -/
inductive Exponent : (t : Text) → (power? : Option Int) → Prop
  | absent : Exponent [] none
  | present {e : Char} {sign ds : Text} {negative : Bool} (he : e = 'e' ∨ e = 'E')
      (hsign : Sign sign negative) (h : Digits ds) :
      Exponent (e :: (sign ++ ds))
        (some (if negative then -Text.natOfDigits ds else Text.natOfDigits ds))

/-- A number without its sign. A whole number has at most `limit` digits. -/
inductive Number (limit : Nat) (negative : Bool) : Text → Value → Prop
  | int {w : Text} (hw : Whole w) (short : w.length ≤ limit) :
      Number limit negative w
        (.int (if negative then -Text.natOfDigits w else Text.natOfDigits w))
  | float {w f e places : Text} {power? : Option Int} (hw : Whole w) (hf : Fraction f places)
      (he : Exponent e power?) (marked : places ≠ [] ∨ power? ≠ none) :
      Number limit negative (w ++ (f ++ e))
        (.float (floatOf negative (Text.natOfDigits (w ++ places))
          (power?.getD 0 - places.length)))

/-- The words that are values. -/
def words : List (String × Value) :=
  [("null", .null), ("true", .bool true), ("false", .bool false), ("NaN", .float (0.0 / 0.0)),
    ("Infinity", .float (1.0 / 0.0)), ("-Infinity", .float (-1.0 / 0.0))]

/-- A word or a number. -/
inductive Plain (limit : Nat) : Text → Value → Prop
  | word {w : String} {v : Value} (h : (w, v) ∈ words) : Plain limit w.toList v
  | unsigned {t : Text} {v : Value} (h : Number limit false t v) : Plain limit t v
  | signed {t : Text} {v : Value} (h : Number limit true t v) : Plain limit ('-' :: t) v

/-- A character that may stand behind a value. -/
def isBound (c : Char) : Bool :=
  isSpace c || c == ',' || c == ']' || c == '\x7d'

theorem isSpace_iff {c : Char} : isSpace c = true ↔ c = ' ' ∨ c = '\t' ∨ c = '\n' ∨ c = '\r' := by
  simp [isSpace, or_assoc]

/-- A text at whose start a value is complete. -/
def Bounded (rest : Text) : Prop :=
  Text.StopsAt (fun c => !isBound c) rest

/-- A reader gives what is written, unless this goes beyond a bound: then it may refuse it, but
not as something that is no value. -/
def Yields {α : Type} (fits : Prop) (r : Except Fault α) (a : α) : Prop :=
  r = .ok a ∨ ¬ fits ∧ ∃ fault, r = .error fault ∧ fault ≠ .invalid

theorem Yields.mono {α : Type} {fits fits' : Prop} {r : Except Fault α} {a : α}
    (h : Yields fits r a) (hfits : fits' → fits) : Yields fits' r a := by
  rcases h with hok | ⟨hbeyond, hfault⟩
  · exact .inl hok
  · exact .inr ⟨mt hfits hbeyond, hfault⟩

theorem Yields.map {α β : Type} {fits : Prop} {r : Except Fault α} {a : α} (h : Yields fits r a)
    (f : α → β) : Yields fits (r.map f) (f a) := by
  rcases h with rfl | ⟨hbeyond, fault, rfl, hne⟩
  · exact .inl rfl
  · exact .inr ⟨hbeyond, fault, rfl, hne⟩

/-! ### What is read of a number -/

section Numbers

variable {s t w f e ds rest places : Text} {power? : Option Int}

theorem digits_append (h : ∀ c ∈ ds, Text.isAsciiDigit c = true)
    (stops : Text.StopsAt Text.isAsciiDigit rest) : digits (ds ++ rest) = (ds, rest) := by
  rw [digits, List.takeWhile_append_of_pos h, stops.takeWhile_eq_nil, List.append_nil,
    List.dropWhile_append_of_pos h, stops.dropWhile_eq_self]

theorem digits_fst_append_snd (s : Text) : (digits s).1 ++ (digits s).2 = s :=
  List.takeWhile_append_dropWhile

theorem forall_mem_digits (s : Text) : ∀ c ∈ (digits s).1, Text.isAsciiDigit c = true :=
  List.all_eq_true.1 List.all_takeWhile

theorem fraction_cases (s : Text) :
    ∃ f, s = f ++ (fraction s).2 ∧ Fraction f (fraction s).1 := by
  unfold fraction
  split
  · rename_i rest
    split
    · exact ⟨[], rfl, .absent⟩
    · rename_i hempty
      refine ⟨'.' :: (digits rest).1, ?_, .present ⟨?_, forall_mem_digits rest⟩⟩
      · rw [List.cons_append, digits_fst_append_snd]
      · exact fun h => hempty (List.isEmpty_iff.2 h)
  · exact ⟨[], rfl, .absent⟩

/-- Whether a minus stands at the start of a text, and what stands behind the sign. -/
def signPart (s : Text) : Bool × Text :=
  match s with
  | '-' :: more => (true, more)
  | '+' :: more => (false, more)
  | _ => (false, s)

theorem exponent_cons (e : Char) (s : Text) :
    exponent (e :: s) =
      if e = 'e' || e = 'E' then
        if (digits (signPart s).2).1.isEmpty then (none, e :: s)
        else
          (some (if (signPart s).1 then -(Text.natOfDigits (digits (signPart s).2).1 : Int)
            else (Text.natOfDigits (digits (signPart s).2).1 : Int)), (digits (signPart s).2).2)
      else (none, e :: s) :=
  rfl

theorem signPart_cases (s : Text) :
    ∃ sign, s = sign ++ (signPart s).2 ∧ Sign sign (signPart s).1 := by
  unfold signPart
  split
  · exact ⟨['-'], rfl, .minus⟩
  · exact ⟨['+'], rfl, .plus⟩
  · exact ⟨[], rfl, .absent⟩

theorem signPart_append {sign : Text} {negative : Bool} (h : Sign sign negative) (hds : Digits ds)
    (rest : Text) : signPart (sign ++ (ds ++ rest)) = (negative, ds ++ rest) := by
  cases h with
  | absent =>
      obtain ⟨c, more, rfl⟩ := List.exists_cons_of_ne_nil hds.1
      have hc := hds.2 c List.mem_cons_self
      rw [List.nil_append, List.cons_append, signPart]
      · rintro tail ⟨⟩
        cases hc
      · rintro tail ⟨⟩
        cases hc
  | plus => rfl
  | minus => rfl

theorem exponent_cases (s : Text) :
    ∃ e, s = e ++ (exponent s).2 ∧ Exponent e (exponent s).1 := by
  cases s with
  | nil => exact ⟨[], rfl, .absent⟩
  | cons e s =>
      rw [exponent_cons]
      split
      · rename_i he
        split
        · exact ⟨[], rfl, .absent⟩
        · rename_i hempty
          obtain ⟨sign, hs, hsign⟩ := signPart_cases s
          have hdigits : Digits (digits (signPart s).2).1 :=
            ⟨fun h => hempty (List.isEmpty_iff.2 h), forall_mem_digits _⟩
          refine ⟨e :: (sign ++ (digits (signPart s).2).1), ?_,
            .present (by simpa using he) hsign hdigits⟩
          rw [List.cons_append, List.append_assoc, digits_fst_append_snd, ← hs]
      · exact ⟨[], rfl, .absent⟩

theorem stops_of_bounded (h : Bounded rest) : Text.StopsAt Text.isAsciiDigit rest := by
  intro c t hrest
  have hc : isBound c = true := by simpa using h c t hrest
  simp only [isBound, Bool.or_eq_true, isSpace_iff, beq_iff_eq] at hc
  rcases hc with (((rfl | rfl | rfl | rfl) | rfl) | rfl) | rfl <;> rfl

theorem Bounded.ne (h : Bounded rest) {c : Char} (hc : isBound c = false) (more : Text) :
    rest ≠ c :: more := by
  rintro rfl
  simpa [hc] using h c more rfl

theorem fraction_append (h : Fraction f places) (stops : Text.StopsAt Text.isAsciiDigit rest)
    (hpoint : ∀ more, rest ≠ '.' :: more) : fraction (f ++ rest) = (places, rest) := by
  cases h with
  | absent =>
      unfold fraction
      split
      · rename_i more hmore
        exact absurd hmore (hpoint more)
      · rfl
  | present hds =>
      rw [List.cons_append, fraction, digits_append hds.2 stops, if_neg]
      simpa using hds.1

theorem exponent_append (h : Exponent e power?) (hrest : Bounded rest) :
    exponent (e ++ rest) = (power?, rest) := by
  cases h with
  | absent =>
      cases rest with
      | nil => rfl
      | cons c rest =>
          rw [List.nil_append, exponent_cons, if_neg]
          intro hc
          have hc : c = 'e' ∨ c = 'E' := by simpa using hc
          rcases hc with rfl | rfl
          · exact hrest.ne rfl rest rfl
          · exact hrest.ne rfl rest rfl
  | present he hsign hds =>
      rw [List.cons_append, List.append_assoc, exponent_cons, if_pos (by simpa using he),
        signPart_append hsign hds, digits_append hds.2 (stops_of_bounded hrest),
        if_neg (by simpa using hds.1)]

/-- The whole part at the start of a text, and the rest. -/
def wholePart (s : Text) : Text × Text :=
  match s with
  | '0' :: rest => (['0'], rest)
  | _ => digits s

theorem number_eq (negative : Bool) (s : Text) :
    number negative s =
      if (wholePart s).1.isEmpty then .error .invalid
      else
        let (places, rest) := fraction (wholePart s).2
        let (power?, rest) := exponent rest
        if places.isEmpty && power?.isNone then
          match Text.readNat (wholePart s).1 with
          | .error fault => .error (.numeral fault)
          | .ok n => .ok (.int (if negative then -n else n), rest)
        else
          .ok (.float (floatOf negative (Text.natOfDigits ((wholePart s).1 ++ places))
            (power?.getD 0 - places.length)), rest) :=
  rfl

theorem wholePart_cases (s : Text) :
    s = (wholePart s).1 ++ (wholePart s).2 ∧ ((wholePart s).1 ≠ [] → Whole (wholePart s).1) := by
  unfold wholePart
  split
  · exact ⟨rfl, fun _ => .inl rfl⟩
  · rename_i hzero
    refine ⟨(digits_fst_append_snd s).symm, fun hne => .inr ⟨⟨hne, forall_mem_digits s⟩, ?_⟩⟩
    intro hhead
    obtain ⟨ds, hds⟩ := List.head?_eq_some_iff.1 hhead
    refine hzero (ds ++ (digits s).2) ?_
    rw [← List.cons_append, ← hds, digits_fst_append_snd]

theorem wholePart_append (h : Whole w) (stops : Text.StopsAt Text.isAsciiDigit rest) :
    wholePart (w ++ rest) = (w, rest) := by
  rcases h with rfl | ⟨hw, hhead⟩
  · rfl
  · unfold wholePart
    split
    · rename_i more hzero
      obtain ⟨c, tail, rfl⟩ := List.exists_cons_of_ne_nil hw.1
      rw [List.cons_append, List.cons.injEq] at hzero
      exact absurd (congrArg some hzero.1) hhead
    · exact digits_append hw.2 stops

theorem Whole.digits (h : Whole w) : Digits w := by
  rcases h with rfl | h
  · exact ⟨List.cons_ne_nil _ _, List.forall_mem_singleton.2 rfl⟩
  · exact h.1

theorem Fraction.eq_nil (h : Fraction f []) : f = [] := by
  cases h with
  | absent => rfl
  | present h => exact absurd rfl h.1

theorem Exponent.eq_nil (h : Exponent e none) : e = [] := by
  cases h
  rfl

theorem Fraction.stops (h : Fraction f places) (stops : Text.StopsAt Text.isAsciiDigit rest) :
    Text.StopsAt Text.isAsciiDigit (f ++ rest) := by
  cases h with
  | absent => exact stops
  | present h => exact Text.stopsAt_cons.2 rfl

/-- A number goes on with an exponent only behind a mark. -/
theorem Exponent.head (h : Exponent e power?) :
    e = [] ∨ ∃ c more, e = c :: more ∧ (c = 'e' ∨ c = 'E') := by
  cases h with
  | absent => exact .inl rfl
  | present he hsign h => exact .inr ⟨_, _, rfl, he⟩

theorem Exponent.stops (h : Exponent e power?) (stops : Text.StopsAt Text.isAsciiDigit rest) :
    Text.StopsAt Text.isAsciiDigit (e ++ rest) := by
  rcases h.head with rfl | ⟨c, more, rfl, rfl | rfl⟩
  · exact stops
  · exact Text.stopsAt_cons.2 rfl
  · exact Text.stopsAt_cons.2 rfl

theorem Exponent.ne_point (h : Exponent e power?) (hrest : ∀ more, rest ≠ '.' :: more) :
    ∀ more, e ++ rest ≠ '.' :: more := by
  rcases h.head with rfl | ⟨c, more, rfl, rfl | rfl⟩
  · exact hrest
  · nofun
  · nofun

/-- What reading a number comes to: it is read from the start of a text, or refused because it has
too many digits. -/
inductive NumberStep (negative : Bool) : Text → Except Fault (Value × Text) → Prop
  | invalid {s : Text} : NumberStep negative s (.error .invalid)
  | number {t rest : Text} {v : Value} (h : Number NumeralTooLong.limit negative t v) :
      NumberStep negative (t ++ rest) (.ok (v, rest))
  | tooLong {t rest : Text} (h : Digits t) (hlong : NumeralTooLong.limit < t.length) :
      NumberStep negative (t ++ rest) (.error (.numeral ⟨t.length⟩))

theorem numberStep_int (negative : Bool) (hw : Whole w) (rest : Text) :
    NumberStep negative (w ++ rest)
      (match Text.readNat w with
      | .error fault => .error (.numeral fault)
      | .ok n => .ok (.int (if negative then -n else n), rest)) := by
  unfold Text.readNat
  by_cases hlength : w.length ≤ NumeralTooLong.limit
  · rw [if_pos hlength]
    exact .number (.int hw hlength)
  · rw [if_neg hlength]
    exact .tooLong hw.digits (Nat.lt_of_not_le hlength)

theorem numberStep (negative : Bool) (s : Text) : NumberStep negative s (number negative s) := by
  rw [number_eq]
  obtain ⟨hs, hwhole⟩ := wholePart_cases s
  generalize (wholePart s).1 = w at hs hwhole ⊢
  generalize (wholePart s).2 = s₁ at hs ⊢
  subst hs
  split
  · exact .invalid
  · rename_i hempty
    have hw := hwhole fun h => hempty (List.isEmpty_iff.2 h)
    obtain ⟨f, hs₁, hf⟩ := fraction_cases s₁
    generalize fraction s₁ = cut at hs₁ hf ⊢
    obtain ⟨places, s₂⟩ := cut
    simp only at hs₁ hf ⊢
    obtain ⟨e, hs₂, he⟩ := exponent_cases s₂
    generalize exponent s₂ = cut at hs₂ he ⊢
    obtain ⟨power?, s₃⟩ := cut
    simp only at hs₂ he ⊢
    subst hs₂ hs₁
    split
    · -- neither a fraction nor an exponent
      rename_i hint
      simp only [Bool.and_eq_true, List.isEmpty_iff, Option.isNone_iff_eq_none] at hint
      obtain ⟨rfl, rfl⟩ := hint
      rw [hf.eq_nil, he.eq_nil]
      exact numberStep_int negative hw s₃
    · rename_i hfloat
      have marked : places ≠ [] ∨ power? ≠ none := by
        by_contra hnone
        simp only [not_or, ne_eq, not_not] at hnone
        exact hfloat (by rw [hnone.1, hnone.2]; rfl)
      rw [← List.append_assoc f, ← List.append_assoc w]
      exact .number (.float hw hf he marked)

/-- A number is read up to where it ends, unless it has too many digits. -/
theorem number_append {limit : Nat} {negative : Bool} {v : Value}
    (h : Number limit negative t v) (hrest : Bounded rest) :
    Yields (limit ≤ NumeralTooLong.limit) (number negative (t ++ rest)) (v, rest) := by
  have stops := stops_of_bounded hrest
  have hpoint : ∀ more, rest ≠ '.' :: more := hrest.ne rfl
  rw [number_eq]
  cases h with
  | int hw short =>
      have hfraction : fraction rest = ([], rest) := fraction_append .absent stops hpoint
      have hexponent : exponent rest = (none, rest) := exponent_append .absent hrest
      simp only [wholePart_append hw stops, hfraction, hexponent]
      rw [if_neg (by simpa using hw.digits.1)]
      simp only [List.isEmpty_nil, Option.isNone_none, Bool.and_self, if_true]
      unfold Text.readNat
      by_cases hlength : t.length ≤ NumeralTooLong.limit
      · rw [if_pos hlength]
        exact .inl rfl
      · rw [if_neg hlength]
        exact .inr ⟨fun hlimit => hlength (Nat.le_trans short hlimit), _, rfl, nofun⟩
  | @float w f e places power? hw hf he marked =>
      have hunmarked : ¬ (places.isEmpty && power?.isNone) = true := by
        simp only [Bool.and_eq_true, List.isEmpty_iff, Option.isNone_iff_eq_none, not_and_or]
        exact marked
      have hfraction : fraction (f ++ (e ++ rest)) = (places, e ++ rest) :=
        fraction_append hf (he.stops stops) (he.ne_point hpoint)
      have hwhole : wholePart (w ++ (f ++ (e ++ rest))) = (w, f ++ (e ++ rest)) :=
        wholePart_append hw (hf.stops (he.stops stops))
      rw [List.append_assoc, List.append_assoc]
      simp only [hwhole, hfraction, exponent_append he hrest]
      rw [if_neg (by simpa using hw.digits.1), if_neg hunmarked]
      exact .inl rfl

end Numbers

/-! ### What is read of a word -/

section Words

variable {s t rest : Text} {v : Value}

/-- Reads a number with its sign. -/
def signed (s : Text) : Except Fault (Value × Text) :=
  match s with
  | '-' :: rest => number true rest
  | _ => number false s

/-- The first word at the start of a text decides, and without one there is a number. -/
theorem plain_eq (s : Text) :
    plain s =
      match words.findSome? fun (w, v) => (Text.after? w.toList s).map fun rest => (v, rest) with
      | some r => .ok r
      | none => signed s := by
  unfold plain words
  simp only [List.findSome?_cons, List.findSome?_nil]
  cases Text.after? "null".toList s with
  | some r => rfl
  | none =>
    cases Text.after? "true".toList s with
    | some r => rfl
    | none =>
      cases Text.after? "false".toList s with
      | some r => rfl
      | none =>
        cases Text.after? "NaN".toList s with
        | some r => rfl
        | none =>
          cases Text.after? "Infinity".toList s with
          | some r => rfl
          | none => cases Text.after? "-Infinity".toList s <;> rfl

theorem plain_of_no_word (h : ∀ x ∈ words, Text.after? x.1.toList s = none) :
    plain s = signed s := by
  have hnone : words.findSome? (fun (w, v) => (Text.after? w.toList s).map fun rest => (v, rest)) =
      none :=
    List.findSome?_eq_none_iff.2 fun x hx => Option.map_eq_none_iff.2 (h x hx)
  rw [plain_eq, hnone]

/-- More digits in a row than a whole number may have. -/
def LongRun (s : Text) : Prop :=
  ∃ run, run <:+: s ∧ Digits run ∧ NumeralTooLong.limit < run.length

theorem number_of_ok {negative : Bool} (h : number negative s = .ok (v, rest)) :
    ∃ t, s = t ++ rest ∧ Number NumeralTooLong.limit negative t v := by
  have step := numberStep negative s
  generalize number negative s = r at h step
  cases step with
  | invalid => cases h
  | @number t rest v hv =>
      cases h
      exact ⟨t, rfl, hv⟩
  | tooLong ht hlong => cases h

theorem number_of_error {negative : Bool} {fault : Fault} (h : number negative s = .error fault) :
    fault = .invalid ∨ (∃ f, fault = .numeral f) ∧ LongRun s := by
  have step := numberStep negative s
  generalize number negative s = r at h step
  cases step with
  | invalid =>
      cases h
      exact .inl rfl
  | number hv => cases h
  | @tooLong t rest ht hlong =>
      cases h
      exact .inr ⟨⟨_, rfl⟩, t, (List.prefix_append t rest).isInfix, ht, hlong⟩

theorem plain_of_ok (h : plain s = .ok (v, rest)) :
    ∃ t, s = t ++ rest ∧ Plain NumeralTooLong.limit t v := by
  rw [plain_eq] at h
  split at h
  · rename_i r hword
    cases h
    obtain ⟨⟨w, v'⟩, hmem, hafter⟩ := List.exists_of_findSome?_eq_some hword
    obtain ⟨rest', hrest, heq⟩ := Option.map_eq_some_iff.1 hafter
    cases heq
    exact ⟨w.toList, Text.after?_eq_some_iff.1 hrest, .word hmem⟩
  · unfold signed at h
    split at h
    · obtain ⟨t, rfl, ht⟩ := number_of_ok h
      exact ⟨'-' :: t, rfl, .signed ht⟩
    · obtain ⟨t, hs, ht⟩ := number_of_ok h
      exact ⟨t, hs, .unsigned ht⟩

theorem LongRun.widen {part : Text} (h : LongRun part) (hpart : part <:+: s) : LongRun s := by
  obtain ⟨run, hrun, hdigits, hlong⟩ := h
  exact ⟨run, hrun.trans hpart, hdigits, hlong⟩

theorem plain_of_error {fault : Fault} (h : plain s = .error fault) :
    fault = .invalid ∨ (∃ f, fault = .numeral f) ∧ LongRun s := by
  rw [plain_eq] at h
  split at h
  · cases h
  · unfold signed at h
    split at h
    · rcases number_of_error h with rfl | ⟨hfault, hrun⟩
      · exact .inl rfl
      · exact .inr ⟨hfault, hrun.widen (List.suffix_cons '-' _).isInfix⟩
    · exact number_of_error h

theorem Number.head {limit : Nat} {negative : Bool} (h : Number limit negative t v) :
    ∃ c more, t = c :: more ∧ Text.isAsciiDigit c = true := by
  have whole : ∀ {w : Text}, Whole w → ∃ c more, w = c :: more ∧ Text.isAsciiDigit c = true := by
    intro w hw
    obtain ⟨c, more, rfl⟩ := List.exists_cons_of_ne_nil hw.digits.1
    exact ⟨c, more, rfl, hw.digits.2 c List.mem_cons_self⟩
  cases h with
  | int hw short => exact whole hw
  | float hw hf he marked =>
      obtain ⟨c, more, rfl, hc⟩ := whole hw
      exact ⟨c, _, rfl, hc⟩

theorem plain_of_isAsciiDigit {c : Char} (hc : Text.isAsciiDigit c = true) (more : Text) :
    plain (c :: more) = number false (c :: more) ∧
      plain ('-' :: c :: more) = number true (c :: more) := by
  have hne : ∀ p : Char, Text.isAsciiDigit p = false → p ≠ c := by
    rintro p hp rfl
    rw [hc] at hp
    cases hp
  have hword : ∀ p : Char, Text.isAsciiDigit p = false → ∀ phrase s : Text,
      Text.after? (p :: phrase) (c :: s) = none := by
    intro p hp phrase s
    rw [Text.after?, if_neg (hne p hp)]
  constructor
  · rw [plain_of_no_word, signed]
    · rintro rest heq
      cases heq
      cases hc
    · simp only [words, List.forall_mem_cons, List.not_mem_nil, false_imp_iff, implies_true,
        and_true]
      exact ⟨hword 'n' rfl _ _, hword 't' rfl _ _, hword 'f' rfl _ _, hword 'N' rfl _ _,
        hword 'I' rfl _ _, hword '-' rfl _ _⟩
  · rw [plain_of_no_word, signed]
    simp only [words, List.forall_mem_cons, List.not_mem_nil, false_imp_iff, implies_true, and_true]
    exact ⟨rfl, rfl, rfl, rfl, rfl, hword 'I' rfl _ _⟩

theorem plain_append {limit : Nat} (h : Plain limit t v) (hrest : Bounded rest) :
    Yields (limit ≤ NumeralTooLong.limit) (plain (t ++ rest)) (v, rest) := by
  cases h with
  | word h =>
      refine .inl ?_
      simp only [words, List.mem_cons, Prod.mk.injEq, List.not_mem_nil, or_false] at h
      rcases h with ⟨rfl, rfl⟩ | ⟨rfl, rfl⟩ | ⟨rfl, rfl⟩ | ⟨rfl, rfl⟩ | ⟨rfl, rfl⟩ | ⟨rfl, rfl⟩
      · rfl
      · rfl
      · rfl
      · rfl
      · rfl
      · rfl
  | unsigned h =>
      obtain ⟨c, more, rfl, hc⟩ := h.head
      have hread := number_append h hrest
      rw [List.cons_append] at hread ⊢
      rw [(plain_of_isAsciiDigit hc _).1]
      exact hread
  | signed h =>
      obtain ⟨c, more, rfl, hc⟩ := h.head
      have hread := number_append h hrest
      rw [List.cons_append] at hread
      rw [List.cons_append, List.cons_append, (plain_of_isAsciiDigit hc _).2]
      exact hread

end Words

/-! ### Strings -/

/-- Four hexadecimal digits, and the number that they write. -/
inductive Hex4 : Text → Nat → Prop
  | mk {a b c d : Char} {i j k l : Nat} (ha : hexValue? a = some i) (hb : hexValue? b = some j)
      (hc : hexValue? c = some k) (hd : hexValue? d = some l) :
      Hex4 [a, b, c, d] (((i * 16 + j) * 16 + k) * 16 + l)

/-- The first half of a character that takes two units. -/
def IsHigh (u : Nat) : Prop :=
  0xD800 ≤ u ∧ u < 0xDC00

/-- The second half of a character that takes two units. -/
def IsLow (u : Nat) : Prop :=
  0xDC00 ≤ u ∧ u < 0xE000

/-- A unit is the first half of a character, and the second half follows. -/
def Halved (u : Nat) (t : Text) : Prop :=
  IsHigh u ∧ ∃ y low rest, t = '\\' :: 'u' :: (y ++ rest) ∧ Hex4 y low ∧ IsLow low

/-- What stands between the quotation marks of a string. -/
inductive Spells : Text → CodeText → Prop
  | nil : Spells [] []
  | char {c : Char} {t : Text} {s : CodeText} (hquote : c ≠ '"') (hescape : c ≠ '\\')
      (hcontrol : 0x20 ≤ c.toNat) (h : Spells t s) : Spells (c :: t) (CodePoint.ofChar c :: s)
  | escape {e d : Char} {t : Text} {s : CodeText} (he : escape? e = some d) (h : Spells t s) :
      Spells ('\\' :: e :: t) (CodePoint.ofChar d :: s)
  | unit {x t : Text} {p : CodePoint} {s : CodeText} (hx : Hex4 x p.val)
      (alone : ¬ Halved p.val t) (h : Spells t s) : Spells ('\\' :: 'u' :: (x ++ t)) (p :: s)
  | pair {x y t : Text} {high low : Nat} {p : CodePoint} {s : CodeText}
      (hx : Hex4 x high) (hy : Hex4 y low) (hhigh : IsHigh high) (hlow : IsLow low)
      (hp : p.val = 0x10000 + (high - 0xD800) * 0x400 + (low - 0xDC00)) (h : Spells t s) :
      Spells ('\\' :: 'u' :: (x ++ '\\' :: 'u' :: (y ++ t))) (p :: s)

section Strings

variable {s t x rest after : Text} {u : Nat} {p : CodePoint}

theorem hex4?_eq_some_iff : hex4? s = some (u, rest) ↔ ∃ x, s = x ++ rest ∧ Hex4 x u := by
  constructor
  · intro h
    unfold hex4? at h
    split at h
    · simp only [Option.bind_eq_bind, Option.bind_eq_some_iff, Option.pure_def, Option.some.injEq,
        Prod.mk.injEq] at h
      obtain ⟨i, ha, j, hb, k, hc, l, hd, rfl, rfl⟩ := h
      exact ⟨_, rfl, .mk ha hb hc hd⟩
    · cases h
  · rintro ⟨x, rfl, ⟨ha, hb, hc, hd⟩⟩
    simp [hex4?, ha, hb, hc, hd]

theorem ofNat?_eq_some_iff : CodePoint.ofNat? u = some p ↔ p.val = u := by
  unfold CodePoint.ofNat?
  split
  · rw [Option.some.injEq, Fin.ext_iff, eq_comm]
  · rename_i hu
    have hp := p.isLt
    constructor
    · nofun
    · omega

theorem codePoint?_of_halved {y : Text} {low : Nat} (hhigh : IsHigh u) (hy : Hex4 y low)
    (hlow : IsLow low) (after : Text) :
    codePoint? u ('\\' :: 'u' :: (y ++ after)) =
      (CodePoint.ofNat? (0x10000 + (u - 0xD800) * 0x400 + (low - 0xDC00))).map
        fun p => (p, after) := by
  have hread : hex4? (y ++ after) = some (low, after) := hex4?_eq_some_iff.2 ⟨y, rfl, hy⟩
  unfold codePoint?
  rw [if_pos (by simpa [IsHigh] using hhigh)]
  simp only [hread]
  rw [if_pos (by simpa [IsLow] using hlow)]

theorem codePoint?_of_not_halved (h : ¬ Halved u rest) :
    codePoint? u rest = (CodePoint.ofNat? u).map fun p => (p, rest) := by
  unfold codePoint?
  simp only
  split
  · rename_i hhigh
    have hhigh : IsHigh u := by simpa [IsHigh] using hhigh
    split
    · split
      · rename_i more low after hread
        obtain ⟨y, rfl, hy⟩ := hex4?_eq_some_iff.1 hread
        refine if_neg fun hlow => h ⟨hhigh, y, low, after, rfl, hy, ?_⟩
        simpa [IsLow] using hlow
      · rfl
    · rfl
  · rfl

theorem quote_not_mem_of_hex4 (h : Hex4 x u) : '"' ∉ x := by
  obtain ⟨ha, hb, hc, hd⟩ := h
  have hne : ∀ {c : Char} {i : Nat}, hexValue? c = some i → '"' ≠ c := by
    rintro c i hc rfl
    cases hc
  simp only [List.mem_cons, List.not_mem_nil, or_false, not_or]
  exact ⟨hne ha, hne hb, hne hc, hne hd⟩

/-- The second half of a character stands in the same string. -/
theorem halved_append_quote : Halved u (t ++ '"' :: rest) ↔ Halved u t := by
  constructor
  · rintro ⟨hhigh, y, low, after, hsplit, hy, hlow⟩
    refine ⟨hhigh, y, low, ?_⟩
    have hquote : '"' ∉ '\\' :: 'u' :: y := by
      simp only [List.mem_cons, not_or]
      exact ⟨by decide, by decide, quote_not_mem_of_hex4 hy⟩
    rw [← List.cons_append, ← List.cons_append] at hsplit
    obtain ⟨inside, rfl, -⟩ := Directive.exists_append_of_not_mem_left hsplit hquote
    exact ⟨inside, rfl, hy, hlow⟩
  · rintro ⟨hhigh, y, low, after, rfl, hy, hlow⟩
    refine ⟨hhigh, y, low, after ++ '"' :: rest, ?_, hy, hlow⟩
    simp

theorem spells_of_codePoint? {behind : Text} {str : CodeText} (hx : Hex4 x u)
    (hcode : codePoint? u behind = some (p, t ++ '"' :: rest)) (ht : Spells t str) :
    ∃ t', '\\' :: 'u' :: (x ++ behind) = t' ++ '"' :: rest ∧ Spells t' (p :: str) := by
  by_cases hhalved : Halved u behind
  · obtain ⟨hhigh, y, low, after, rfl, hy, hlow⟩ := hhalved
    rw [codePoint?_of_halved hhigh hy hlow] at hcode
    obtain ⟨p', hp, heq⟩ := Option.map_eq_some_iff.1 hcode
    cases heq
    refine ⟨'\\' :: 'u' :: (x ++ '\\' :: 'u' :: (y ++ t)), ?_,
      .pair hx hy hhigh hlow (ofNat?_eq_some_iff.1 hp) ht⟩
    simp
  · rw [codePoint?_of_not_halved hhalved] at hcode
    obtain ⟨p', hp, heq⟩ := Option.map_eq_some_iff.1 hcode
    cases heq
    have hu := ofNat?_eq_some_iff.1 hp
    rw [halved_append_quote, ← hu] at hhalved
    exact ⟨'\\' :: 'u' :: (x ++ t), by simp, .unit (hu ▸ hx) hhalved ht⟩

/-- What is read as a string is spelled out in front of the closing quotation mark. -/
theorem string?_of_some {fuel : Nat} {str : CodeText} (h : string? fuel s = some (str, rest)) :
    ∃ t, s = t ++ '"' :: rest ∧ Spells t str := by
  induction fuel generalizing s str with
  | zero => cases h
  | succ fuel ih =>
      cases s with
      | nil => cases h
      | cons c s =>
          unfold string? at h
          split at h
          · rename_i hquote
            cases h
            exact ⟨[], by rw [hquote]; rfl, .nil⟩
          · rename_i hquote
            split at h
            · rename_i hescape
              rw [hescape]
              split at h
              · rename_i more
                split at h
                · cases h
                · rename_i p after hunit
                  obtain ⟨⟨str', rest'⟩, hread, heq⟩ := Option.map_eq_some_iff.1 h
                  cases heq
                  obtain ⟨t, rfl, ht⟩ := ih hread
                  obtain ⟨⟨u, behind⟩, hhex, hcode⟩ := Option.bind_eq_some_iff.1 hunit
                  obtain ⟨x, rfl, hx⟩ := hex4?_eq_some_iff.1 hhex
                  exact spells_of_codePoint? hx hcode ht
              · rename_i e more _
                split at h
                · cases h
                · rename_i d hd
                  obtain ⟨⟨str', rest'⟩, hread, heq⟩ := Option.map_eq_some_iff.1 h
                  cases heq
                  obtain ⟨t, rfl, ht⟩ := ih hread
                  exact ⟨'\\' :: e :: t, rfl, .escape hd ht⟩
              · cases h
            · rename_i hescape
              split at h
              · cases h
              · rename_i hcontrol
                obtain ⟨⟨str', rest'⟩, hread, heq⟩ := Option.map_eq_some_iff.1 h
                cases heq
                obtain ⟨t, rfl, ht⟩ := ih hread
                exact ⟨c :: t, rfl, .char hquote hescape (Nat.le_of_not_lt hcontrol) ht⟩

theorem string?_unit {fuel : Nat} {behind : Text} {str : CodeText} (hx : Hex4 x u)
    (hcode : codePoint? u behind = some (p, after))
    (hread : string? fuel after = some (str, rest)) :
    string? (fuel + 1) ('\\' :: 'u' :: (x ++ behind)) = some (p :: str, rest) := by
  have hhex : hex4? (x ++ behind) = some (u, behind) := hex4?_eq_some_iff.2 ⟨x, rfl, hx⟩
  rw [string?, if_neg (by decide), if_pos rfl]
  simp only [hhex, Option.bind_some, hcode, hread]
  rfl

/-- A string is read up to its closing quotation mark. -/
theorem string?_append {fuel : Nat} {str : CodeText} (h : Spells t str) (hfuel : t.length < fuel)
    (rest : Text) : string? fuel (t ++ '"' :: rest) = some (str, rest) := by
  induction h generalizing fuel with
  | nil =>
      obtain ⟨fuel, rfl⟩ := Nat.exists_eq_succ_of_ne_zero (Nat.ne_of_gt hfuel)
      rfl
  | char hquote hescape hcontrol h ih =>
      obtain ⟨fuel, rfl⟩ := Nat.exists_eq_succ_of_ne_zero (Nat.ne_of_gt (Nat.zero_lt_of_lt hfuel))
      unfold string?
      rw [List.cons_append]
      simp only
      rw [if_neg hquote, if_neg hescape, if_neg (Nat.not_lt.2 hcontrol),
        ih (Nat.lt_of_succ_lt_succ hfuel)]
      rfl
  | @escape e d t s he h ih =>
      obtain ⟨fuel, rfl⟩ := Nat.exists_eq_succ_of_ne_zero (Nat.ne_of_gt (Nat.zero_lt_of_lt hfuel))
      rw [List.length_cons, List.length_cons] at hfuel
      rw [List.cons_append, List.cons_append, string?, if_neg (by decide), if_pos rfl]
      · simp only [he, ih (show t.length < fuel by omega)]
        rfl
      · rintro rfl
        cases he
  | @unit x t p s hx alone h ih =>
      obtain ⟨fuel, rfl⟩ := Nat.exists_eq_succ_of_ne_zero (Nat.ne_of_gt (Nat.zero_lt_of_lt hfuel))
      simp only [List.length_cons, List.length_append] at hfuel
      rw [← halved_append_quote] at alone
      rw [List.cons_append, List.cons_append, List.append_assoc]
      refine string?_unit hx ?_ (ih (by omega))
      rw [codePoint?_of_not_halved alone, ofNat?_eq_some_iff.2 rfl]
      rfl
  | @pair x y t high low p s hx hy hhigh hlow hp h ih =>
      obtain ⟨fuel, rfl⟩ := Nat.exists_eq_succ_of_ne_zero (Nat.ne_of_gt (Nat.zero_lt_of_lt hfuel))
      simp only [List.length_cons, List.length_append] at hfuel
      simp only [List.cons_append, List.append_assoc]
      refine string?_unit hx ?_ (ih (by omega))
      rw [codePoint?_of_halved hhigh hy hlow, ofNat?_eq_some_iff.2 hp]
      rfl

end Strings

end Json

end MarkupAudit
