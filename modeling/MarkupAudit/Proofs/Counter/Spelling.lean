import Mathlib.Algebra.GroupWithZero.Nat
import Mathlib.Data.List.Basic
import MarkupAudit.Counter.Directive

/-!
# How a directive is spelled

A directive is recognised in the raw text. This module says which texts are directives without
saying how they are found, and shows that the search finds exactly those. A directive that was
rendered is found wherever it stands: no directive begins before it and ends inside it or behind it.
-/

namespace MarkupAudit

namespace Text

/-- Only blanks. -/
def Blank (s : Text) : Prop :=
  ∀ c ∈ s, isBlank c = true

/-- No blanks. -/
def Solid (s : Text) : Prop :=
  ∀ c ∈ s, isBlank c = false

/-- The text does not go on with a character of a class. -/
def StopsAt (p : Char → Bool) (s : Text) : Prop :=
  ∀ c t, s = c :: t → p c = false

instance (s : Text) : Decidable (Blank s) :=
  List.decidableBAll (isBlank · = true) s

instance (s : Text) : Decidable (Solid s) :=
  List.decidableBAll (isBlank · = false) s

/-- A decimal digit of any script lies in one of the rows of ten digits. -/
theorem exists_row_of_isDigit {c : Char} (h : isDigit c = true) :
    ∃ first ∈ zeros, ∃ i < 10, c = Char.ofNat (first + i) := by
  unfold isDigit digitValue? at h
  rw [Option.isSome_map, List.find?_isSome] at h
  obtain ⟨first, hfirst, hrow⟩ := h
  simp only [Bool.and_eq_true, decide_eq_true_eq] at hrow
  refine ⟨first, hfirst, c.toNat - first, by omega, ?_⟩
  rw [Nat.add_sub_cancel' hrow.1, Char.ofNat_toNat]

/-- No row of ten digits holds a blank. -/
theorem isBlank_of_isDigit {c : Char} (h : isDigit c = true) : isBlank c = false := by
  obtain ⟨first, hfirst, i, hi, rfl⟩ := exists_row_of_isDigit h
  have apart : ∀ first ∈ zeros, ∀ i < 10, isBlank (Char.ofNat (first + i)) = false := by
    decide +kernel
  exact apart first hfirst i hi

theorem isDigit_of_isBlank {c : Char} (h : isBlank c = true) : isDigit c = false := by
  cases hdigit : isDigit c with
  | false => rfl
  | true => rw [isBlank_of_isDigit hdigit] at h; contradiction

theorem Blank.not_mem {b : Text} {c : Char} (blank : Blank b) (hc : isBlank c = false) : c ∉ b := by
  intro h
  rw [blank c h] at hc
  contradiction

section Runs

variable {p : Char → Bool} {run rest s : Text} {c : Char}

theorem stopsAt_nil : StopsAt p [] := by
  intro c t h
  cases h

theorem stopsAt_cons : StopsAt p (c :: s) ↔ p c = false := by
  constructor
  · intro h
    exact h c s rfl
  · intro h c' t heq
    cases heq
    exact h

theorem stopsAt_append (h : run ≠ []) : StopsAt p (run ++ rest) ↔ StopsAt p run := by
  cases run with
  | nil => contradiction
  | cons c run => rw [List.cons_append, stopsAt_cons, stopsAt_cons]

theorem stopsAt_dropWhile : StopsAt p (s.dropWhile p) := by
  induction s with
  | nil => exact stopsAt_nil
  | cons c s ih =>
      rw [List.dropWhile_cons]
      by_cases hc : p c = true
      · rw [if_pos hc]
        exact ih
      · rw [if_neg hc]
        exact stopsAt_cons.2 (Bool.eq_false_iff.2 hc)

theorem StopsAt.takeWhile_eq_nil (stops : StopsAt p s) : s.takeWhile p = [] := by
  cases s with
  | nil => rfl
  | cons c s => rw [List.takeWhile_cons, stopsAt_cons.1 stops]; rfl

theorem StopsAt.dropWhile_eq_self (stops : StopsAt p s) : s.dropWhile p = s := by
  cases s with
  | nil => rfl
  | cons c s => rw [List.dropWhile_cons, stopsAt_cons.1 stops]; rfl

/-- Leaving out a run of a class leaves what stands behind the longest such run. -/
theorem dropWhile_eq_iff :
    s.dropWhile p = rest ↔ ∃ run, (∀ c ∈ run, p c = true) ∧ s = run ++ rest ∧ StopsAt p rest := by
  constructor
  · rintro rfl
    exact ⟨s.takeWhile p, List.all_eq_true.1 List.all_takeWhile,
      List.takeWhile_append_dropWhile.symm, stopsAt_dropWhile⟩
  · rintro ⟨run, hrun, rfl, stops⟩
    rw [List.dropWhile_append_of_pos hrun, stops.dropWhile_eq_self]

end Runs

end Text

namespace Directive

open Text

/-- A directive that names a rule and has the given digits: the marker, the rule and the digits stand
between the delimiters, with blanks around them, and blanks there have to be before the rule and
before the digits. -/
inductive IsSpelling : (rule digits m : Text) → Prop
  | mk {b₀ b₁ b₂ b₃ rule digits : Text} (lead : Blank b₀) (gap₁ : Blank b₁) (gap₂ : Blank b₂)
      (trail : Blank b₃) (apart₁ : b₁ ≠ []) (apart₂ : b₂ ≠ []) (named : rule ≠ [])
      (solid : Solid rule) (numbered : digits ≠ []) (decimal : ∀ c ∈ digits, isDigit c = true) :
      IsSpelling rule digits
        (opening ++ (b₀ ++ (marker.toList ++ (b₁ ++ (rule ++ (b₂ ++ (digits ++ (b₃ ++ closing))))))))

theorem run1?_eq_some_iff {p : Char → Bool} {s run rest : Text} :
    run1? p s = some (run, rest) ↔
      run ≠ [] ∧ (∀ c ∈ run, p c = true) ∧ s = run ++ rest ∧ StopsAt p rest := by
  unfold run1?
  by_cases hrun : s.takeWhile p = []
  · simp only [hrun, List.isEmpty_nil, if_true]
    constructor
    · intro h
      cases h
    · rintro ⟨hne, hall, rfl, stops⟩
      rw [List.takeWhile_append_of_pos hall, stops.takeWhile_eq_nil, List.append_nil] at hrun
      contradiction
  · simp only [List.isEmpty_iff, if_neg hrun, Option.some.injEq, Prod.mk.injEq]
    constructor
    · rintro ⟨rfl, rfl⟩
      exact ⟨hrun, List.all_eq_true.1 List.all_takeWhile, List.takeWhile_append_dropWhile.symm,
        stopsAt_dropWhile⟩
    · rintro ⟨hne, hall, rfl, stops⟩
      rw [List.takeWhile_append_of_pos hall, stops.takeWhile_eq_nil, List.append_nil,
        List.dropWhile_append_of_pos hall, stops.dropWhile_eq_self]
      exact ⟨rfl, rfl⟩

theorem blank_stops_isSolid {b rest : Text} (blank : Blank b) (h : b ≠ []) :
    StopsAt (fun c => !isBlank c) (b ++ rest) := by
  rw [stopsAt_append h]
  intro c t hb
  have hc : isBlank c = true := blank c (by rw [hb]; exact List.mem_cons_self)
  simp only [hc, Bool.not_true]

theorem blank_stops_isDigit {b rest : Text} (blank : Blank b) (h : b ≠ []) :
    StopsAt isDigit (b ++ rest) := by
  rw [stopsAt_append h]
  intro c t hb
  exact isDigit_of_isBlank (blank c (by rw [hb]; exact List.mem_cons_self))

/-- The digits end at the blanks or, without blanks, at the closing delimiter. -/
theorem closing_stops_isDigit {b rest : Text} (blank : Blank b) :
    StopsAt isDigit (b ++ (closing ++ rest)) := by
  by_cases h : b = []
  · subst h
    exact stopsAt_cons.2 (by decide)
  · exact blank_stops_isDigit blank h

theorem solid_stops_isBlank {s rest : Text} (solid : Solid s) (h : s ≠ []) :
    StopsAt isBlank (s ++ rest) := by
  rw [stopsAt_append h]
  intro c t hs
  exact solid c (by rw [hs]; exact List.mem_cons_self)

theorem solid_of_isDigit {digits : Text} (decimal : ∀ c ∈ digits, isDigit c = true) :
    Solid digits := by
  intro c hc
  exact isBlank_of_isDigit (decimal c hc)

theorem solid_marker : Solid marker.toList := by decide

theorem solid_closing : Solid closing := by decide

/-- A directive is read at the head of a text exactly if the text goes on with its spelling. -/
theorem read?_eq_some_iff {s rule digits rest : Text} :
    read? s = some (rule, digits, rest) ↔ ∃ m, IsSpelling rule digits m ∧ s = m ++ rest := by
  constructor
  · intro h
    simp only [read?, bind, Option.bind_eq_some_iff, Prod.exists, pure, Option.some.injEq,
      Prod.mk.injEq, run1?_eq_some_iff, after?_eq_some_iff] at h
    obtain ⟨s₁, rfl, s₂, hmarker, b₁, s₃, ⟨apart₁, gap₁, rfl, -⟩, _, s₄, ⟨named, solid, rfl, -⟩,
      b₂, s₅, ⟨apart₂, gap₂, rfl, -⟩, _, s₆, ⟨numbered, decimal, rfl, -⟩, _, hclosing, rfl, rfl,
      rfl⟩ := h
    obtain ⟨b₀, lead, rfl, -⟩ := dropWhile_eq_iff.1 hmarker
    obtain ⟨b₃, trail, rfl, -⟩ := dropWhile_eq_iff.1 hclosing
    have solid' : Solid _ := fun c hc => by simpa using solid c hc
    refine ⟨_, .mk lead gap₁ gap₂ trail apart₁ apart₂ named solid' numbered decimal, ?_⟩
    simp only [List.append_assoc]
  · rintro ⟨m, hm, rfl⟩
    obtain ⟨lead, gap₁, gap₂, trail, apart₁, apart₂, named, solid, numbered, decimal⟩ := hm
    rename_i b₀ b₁ b₂ b₃
    simp only [read?, bind, Option.bind_eq_some_iff, Prod.exists, pure, Option.some.injEq,
      Prod.mk.injEq, run1?_eq_some_iff, after?_eq_some_iff, List.append_assoc]
    refine ⟨_, rfl, _, ?_, b₁, _, ⟨apart₁, gap₁, rfl, ?_⟩, rule, _, ⟨named, ?_, rfl, ?_⟩,
      b₂, _, ⟨apart₂, gap₂, rfl, ?_⟩, digits, b₃ ++ (closing ++ rest),
      ⟨numbered, decimal, rfl, ?_⟩, rest, ?_, rfl, rfl, rfl⟩
    · exact dropWhile_eq_iff.2 ⟨b₀, lead, rfl, solid_stops_isBlank solid_marker (by decide)⟩
    · exact solid_stops_isBlank solid named
    · intro c hc
      rw [solid c hc]
      rfl
    · exact blank_stops_isSolid gap₂ apart₂
    · exact solid_stops_isBlank (solid_of_isDigit decimal) numbered
    · exact closing_stops_isDigit trail
    · exact dropWhile_eq_iff.2 ⟨b₃, trail, rfl, solid_stops_isBlank solid_closing (by decide)⟩

/-- What is read at the head of a text is read whatever follows. -/
theorem read?_append {s rule digits rest : Text} (h : read? s = some (rule, digits, rest))
    (t : Text) : read? (s ++ t) = some (rule, digits, rest ++ t) := by
  obtain ⟨m, hm, rfl⟩ := read?_eq_some_iff.1 h
  exact read?_eq_some_iff.2 ⟨m, hm, List.append_assoc m rest t⟩

/-- The digits that a number is written with are those of the first row. -/
theorem exists_of_mem_ofNat {n : Nat} {c : Char} (h : c ∈ ofNat n) :
    ∃ i < 10, c = Char.ofNat (0x30 + i) := by
  have hc : c.isDigit = true := Nat.isDigit_of_mem_toDigits (by decide) (by decide) h
  have row : 0x30 ≤ c.toNat ∧ c.toNat ≤ 0x39 := by
    simpa [Char.isDigit, UInt32.le_iff_toNat_le] using hc
  refine ⟨c.toNat - 0x30, by omega, ?_⟩
  rw [Nat.add_sub_cancel' row.1, Char.ofNat_toNat]

theorem isDigit_of_mem_ofNat {n : Nat} {c : Char} (h : c ∈ ofNat n) : isDigit c = true := by
  obtain ⟨i, hi, rfl⟩ := exists_of_mem_ofNat h
  have all : ∀ i < 10, isDigit (Char.ofNat (0x30 + i)) = true := by decide
  exact all i hi

/-- A number that is written in digits is read back from them. -/
theorem natOfDigits_ofNat (n : Nat) : natOfDigits (ofNat n) = n := by
  have all : ∀ i < 10, (digitValue? (Char.ofNat (0x30 + i))).getD 0 =
      (Char.ofNat (0x30 + i)).toNat - '0'.toNat := by decide
  have value : ∀ c ∈ ofNat n, (digitValue? c).getD 0 = c.toNat - '0'.toNat := by
    intro c hc
    obtain ⟨i, hi, rfl⟩ := exists_of_mem_ofNat hc
    exact all i hi
  calc natOfDigits (ofNat n)
      = (ofNat n).foldl (fun m c => 10 * m + (c.toNat - '0'.toNat)) 0 := by
        exact List.foldl_ext _ _ 0 fun m c hc => by rw [value c hc]
    _ = n := Nat.ofDigitChars_ten_toDigits

theorem readNat_ofNat {n : Nat} (h : n < 10 ^ NumeralTooLong.limit) :
    readNat (ofNat n) = .ok n := by
  have short : (ofNat n).length ≤ NumeralTooLong.limit :=
    (Nat.length_toDigits_le_iff (by decide) (by decide)).2 h
  unfold readNat
  rw [if_pos short, natOfDigits_ofNat]

/-- The identifiers of rules that a directive can name. -/
def Nameable (rule : String) : Prop :=
  rule.toList ≠ [] ∧ Solid rule.toList

instance (rule : String) : Decidable (Nameable rule) :=
  inferInstanceAs (Decidable (_ ∧ _))

theorem isSpelling_render {rule : String} (h : Nameable rule) (n : Nat) :
    IsSpelling rule.toList (ofNat n) (render rule n) := by
  have one : Blank [' '] := by decide
  have spelling : IsSpelling rule.toList (ofNat n) _ :=
    .mk one one one one (List.cons_ne_nil _ _) (List.cons_ne_nil _ _) h.1 h.2 Nat.toDigits_ne_nil
      (fun c hc => isDigit_of_mem_ofNat hc)
  simpa only [render, List.append_assoc] using spelling

/-- How a rendered directive begins. -/
def renderedHead : Text := ['{', '#', ' ', 't']

theorem renderedHead_starts (rule : String) (n : Nat) : renderedHead <+: render rule n := by
  have h : renderedHead <+: opening ++ [' '] ++ marker.toList := by decide
  exact h.trans ⟨[' '] ++ rule.toList ++ [' '] ++ ofNat n ++ [' '] ++ closing,
    by simp only [render, List.append_assoc]⟩

section Straddling

variable {c : Char} {u v front back : Text}

/-- A character that does not occur in the first part of a text stands in the second. -/
theorem exists_append_of_not_mem_left (h : u ++ c :: v = front ++ back) (hc : c ∉ front) :
    ∃ w, u = front ++ w ∧ w ++ c :: v = back := by
  rcases List.append_eq_append_iff.1 h with ⟨w, rfl, hw⟩ | ⟨w, rfl, hw⟩
  · cases w with
    | nil => exact ⟨[], by simp, hw⟩
    | cons d w =>
        rw [List.cons_append] at hw
        injection hw with hd
        rw [← hd] at hc
        simp at hc
  · exact ⟨w, rfl, hw.symm⟩

/-- A character that does not occur in the second part of a text stands in the first. -/
theorem exists_append_of_not_mem_right (h : u ++ c :: v = front ++ back) (hc : c ∉ back) :
    ∃ w, front = u ++ c :: w ∧ v = w ++ back := by
  rcases List.append_eq_append_iff.1 h with ⟨w, rfl, hw⟩ | ⟨w, rfl, hw⟩
  · cases w with
    | nil =>
        rw [List.nil_append] at hw
        rw [← hw] at hc
        simp at hc
    | cons d w =>
        rw [List.cons_append] at hw
        injection hw with hd hv
        subst hd
        exact ⟨w, rfl, hv⟩
  · rw [hw] at hc
    simp at hc

/-- The text of a directive before the name of the rule has no brace but the first. -/
theorem brace_not_mem_front {b₀ b₁ : Text} (lead : Blank b₀) (gap₁ : Blank b₁) :
    '{' ∉ '#' :: (b₀ ++ (marker.toList ++ b₁)) := by
  have hb : isBlank '{' = false := by decide
  have hmarker : '{' ∉ marker.toList := by decide
  simp [lead.not_mem hb, gap₁.not_mem hb, hmarker]

/-- The text of a directive behind the name of the rule has no opening brace. -/
theorem brace_not_mem_back {b₂ b₃ digits : Text} (gap₂ : Blank b₂) (trail : Blank b₃)
    (decimal : ∀ c ∈ digits, isDigit c = true) :
    '{' ∉ b₂ ++ (digits ++ (b₃ ++ closing)) := by
  have hb : isBlank '{' = false := by decide
  have hdigits : '{' ∉ digits := by
    intro h
    exact absurd (decimal _ h) (by decide)
  have hclosing : '{' ∉ closing := by decide
  simp [gap₂.not_mem hb, trail.not_mem hb, hdigits, hclosing]

/-- Behind the name of the rule come blanks and a digit, so not the rest of a rendered head. -/
theorem renderedHead_not_straddled {r b₂ digits t tail : Text} (solid : Solid r) (gap₂ : Blank b₂)
    (apart₂ : b₂ ≠ []) (numbered : digits ≠ []) (decimal : ∀ c ∈ digits, isDigit c = true) :
    r ++ (b₂ ++ (digits ++ tail)) ≠ '#' :: ' ' :: 't' :: t := by
  intro h
  obtain ⟨b, b₂, rfl⟩ := List.exists_cons_of_ne_nil apart₂
  obtain ⟨d, digits, rfl⟩ := List.exists_cons_of_ne_nil numbered
  have hb : isBlank b = true := gap₂ b List.mem_cons_self
  have hd : isDigit d = true := decimal d List.mem_cons_self
  -- the sign is the last character of the name, the blank is the only one behind the name
  rcases r with _ | ⟨r₁, _ | ⟨r₂, r⟩⟩
  · simp only [List.nil_append, List.cons_append, List.cons.injEq] at h
    rw [h.1] at hb
    exact absurd hb (by decide)
  · simp only [List.nil_append, List.cons_append, List.cons.injEq] at h
    rcases b₂ with _ | ⟨b', b₂⟩
    · simp only [List.nil_append, List.cons.injEq] at h
      rw [h.2.2.1] at hd
      exact absurd hd (by decide)
    · simp only [List.cons_append, List.cons.injEq] at h
      have hb' : isBlank b' = true := gap₂ b' (by simp)
      rw [h.2.2.1] at hb'
      exact absurd hb' (by decide)
  · simp only [List.cons_append, List.cons.injEq] at h
    have hr : isBlank r₂ = false := solid r₂ (by simp)
    rw [h.2.1] at hr
    exact absurd hr (by decide)

/-- A directive that begins before a rendered one ends before it. -/
theorem IsSpelling.prefix_of_append_renderedHead {rule digits m rest pre t : Text}
    (hm : IsSpelling rule digits m) (hpre : pre ≠ [])
    (h : m ++ rest = pre ++ (renderedHead ++ t)) : m <+: pre := by
  rcases List.append_eq_append_iff.1 h with ⟨gap, rfl, -⟩ | ⟨inner, hinner, hrest⟩
  · exact List.prefix_append m gap
  · cases inner with
    | nil =>
        rw [List.append_nil] at hinner
        exact hinner ▸ List.prefix_refl m
    | cons c inner =>
        exfalso
        obtain ⟨lead, gap₁, gap₂, trail, -, apart₂, -, solid, numbered, decimal⟩ := hm
        obtain ⟨p, pre, rfl⟩ := List.exists_cons_of_ne_nil hpre
        simp only [renderedHead, List.cons_append, List.nil_append, List.cons.injEq] at hrest
        obtain ⟨rfl, hrest⟩ := hrest
        simp only [opening, List.cons_append, List.nil_append, List.cons.injEq] at hinner
        -- the brace of the rendered directive can only be a character of the name
        have hfront := brace_not_mem_front lead gap₁
        obtain ⟨w, -, hw⟩ := exists_append_of_not_mem_left
          (by simpa only [List.cons_append, List.append_assoc] using hinner.2.symm) hfront
        obtain ⟨r, rfl, rfl⟩ := exists_append_of_not_mem_right hw
          (brace_not_mem_back gap₂ trail decimal)
        have solid' : Solid r := fun c hc => solid c (by simp [hc])
        simp only [List.append_assoc] at hrest
        exact renderedHead_not_straddled solid' gap₂ apart₂ numbered decimal hrest.symm

end Straddling

end Directive

end MarkupAudit
