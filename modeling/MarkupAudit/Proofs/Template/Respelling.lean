import Mathlib.Data.List.Forall2
import MarkupAudit.Proofs.Template.Grammar

/-!
# Respelling

A text is respelled if some of its parts are replaced that mean nothing to any scanner, each of them
between two number signs. Whatever stands around such a part (a comment, a tag, a quoted value, a
code block or a string in it), the scanners go on behind it as if nothing had happened, so the
respelled text is read into the same pieces with respelled sources (`Reads.respelled`).
-/

namespace MarkupAudit

namespace Text

/-- The characters that mean something to a scanner. -/
def meaningful : List Char :=
  ['{', '}', '#', '%', '<', '>', '=', '\'', '"', '\\', '(', ')', '[', ']']

/-- A text without meaning to any scanner. -/
def Inert (s : Text) : Prop :=
  ∀ c ∈ s, c ∉ meaningful

instance (s : Text) : Decidable (Inert s) :=
  List.decidableBAll (· ∉ meaningful) s

end Text

open Text

/-- What is known about a text and another one in its place: before which offsets a part may be
replaced, and which offsets of the one are which offsets of the other. -/
structure Alignment where
  edited : Nat → Prop
  meets : Nat → Nat → Prop

/-- The text `t` at the offset `pos'` is the text `s` at the offset `pos` with inert parts replaced.
The number sign before each part that is replaced stands at an offset that is edited, and outside of
these parts the offsets in the two texts meet. -/
inductive Respelled (A : Alignment) : (pos pos' : Nat) → (s t : Text) → Prop
  | nil {pos pos' : Nat} (meets : A.meets pos pos') : Respelled A pos pos' [] []
  | cons {pos pos' : Nat} {c : Char} {s t : Text} (meets : A.meets pos pos')
      (rest : Respelled A (pos + 1) (pos' + 1) s t) : Respelled A pos pos' (c :: s) (c :: t)
  | body {pos pos' : Nat} {x y s t : Text} (meets : A.meets pos pos') (here : A.edited pos)
      (hx : Inert x) (hy : Inert y)
      (rest : Respelled A (pos + 1 + x.length) (pos' + 1 + y.length) ('#' :: s) ('#' :: t)) :
      Respelled A pos pos' ('#' :: (x ++ '#' :: s)) ('#' :: (y ++ '#' :: t))

namespace Respelled

variable {A : Alignment} {pos pos' : Nat} {s t : Text}

theorem meets (h : Respelled A pos pos' s t) : A.meets pos pos' := by
  cases h <;> assumption

theorem append_left (u : Text) (hu : ∀ i < u.length, A.meets (pos + i) (pos' + i))
    (h : Respelled A (pos + u.length) (pos' + u.length) s t) :
    Respelled A pos pos' (u ++ s) (u ++ t) := by
  induction u generalizing pos pos' with
  | nil => exact h
  | cons c u ih =>
      rw [List.length_cons] at hu h
      refine .cons (hu 0 (Nat.succ_pos _)) (ih ?_ ?_)
      · intro i hi
        rw [Nat.add_assoc, Nat.add_assoc, Nat.add_comm 1]
        exact hu (i + 1) (by omega)
      · rwa [Nat.add_assoc, Nat.add_assoc, Nat.add_comm 1]

theorem refl (s : Text) (hs : ∀ i ≤ s.length, A.meets (pos + i) (pos' + i)) :
    Respelled A pos pos' s s := by
  have hnil : Respelled A (pos + s.length) (pos' + s.length) [] [] := .nil (hs _ (Nat.le_refl _))
  simpa using append_left s (fun i hi => hs i (Nat.le_of_lt hi)) hnil

/-- Where no part is replaced, the text is the same. -/
theorem eq_of_forall_not (h : Respelled A pos pos' s t)
    (hfree : ∀ q, pos ≤ q → q < pos + s.length → ¬ A.edited q) : t = s := by
  induction h with
  | nil => rfl
  | @cons pos pos' c s t _ _ ih =>
      rw [ih]
      intro q hle hlt
      rw [List.length_cons] at hfree
      exact hfree q (by omega) (by omega)
  | @body pos pos' x y s t _ here hx hy _ _ =>
      exact absurd here (hfree pos (Nat.le_refl pos) (by rw [List.length_cons]; omega))

theorem of_cons {c : Char} (h : Respelled A pos pos' (c :: s) t) (hc : c ≠ '#') :
    ∃ t', t = c :: t' ∧ Respelled A (pos + 1) (pos' + 1) s t' := by
  cases h with
  | cons _ rest => exact ⟨_, rfl, rest⟩
  | body => contradiction

theorem of_append {u : Text} (h : Respelled A pos pos' (u ++ s) t) (hu : '#' ∉ u) :
    ∃ t', t = u ++ t' ∧ Respelled A pos pos' u u ∧
      Respelled A (pos + u.length) (pos' + u.length) s t' := by
  induction u generalizing pos pos' t with
  | nil => exact ⟨t, rfl, .nil h.meets, h⟩
  | cons c u ih =>
      have hc : c ≠ '#' := fun heq => hu (by rw [heq]; exact List.mem_cons_self)
      obtain ⟨t₁, rfl, hrest⟩ := of_cons h hc
      obtain ⟨t', rfl, hfront, hrest⟩ := ih hrest fun hmem => hu (List.mem_cons_of_mem c hmem)
      refine ⟨t', rfl, .cons h.meets hfront, ?_⟩
      rwa [List.length_cons, Nat.add_comm u.length, ← Nat.add_assoc, ← Nat.add_assoc]

theorem append {u u' : Text} (h : Respelled A pos pos' u u')
    (hs : Respelled A (pos + u.length) (pos' + u'.length) s t) :
    Respelled A pos pos' (u ++ s) (u' ++ t) := by
  induction h with
  | nil => exact hs
  | @cons pos pos' c u u' meets _ ih =>
      refine .cons meets (ih ?_)
      rwa [List.length_cons, List.length_cons, Nat.add_comm u.length, Nat.add_comm u'.length,
        ← Nat.add_assoc, ← Nat.add_assoc] at hs
  | @body pos pos' x y u u' meets here hx hy _ ih =>
      have hrest := ih (by
        simp only [List.length_cons, List.length_append] at hs ⊢
        convert hs using 1 <;> omega)
      simpa using Respelled.body meets here hx hy hrest

theorem prefix_iff {phrase : Text} (h : Respelled A pos pos' s t) (hphrase : '#' ∉ phrase) :
    phrase <+: s ↔ phrase <+: t := by
  induction h generalizing phrase with
  | nil => rfl
  | cons _ _ ih =>
      cases phrase with
      | nil => simp
      | cons p phrase =>
          rw [List.cons_prefix_cons, List.cons_prefix_cons,
            ih fun hmem => hphrase (List.mem_cons_of_mem p hmem)]
  | body =>
      cases phrase with
      | nil => simp
      | cons p phrase =>
          have hp : p ≠ '#' := fun heq => hphrase (by rw [heq]; exact List.mem_cons_self)
          rw [List.cons_prefix_cons, List.cons_prefix_cons]
          exact ⟨fun h => absurd h.1 hp, fun h => absurd h.1 hp⟩

theorem sign_prefix_iff (h : Respelled A pos pos' s t) : ['#'] <+: s ↔ ['#'] <+: t := by
  cases h with
  | nil => rfl
  | cons => rw [List.cons_prefix_cons, List.cons_prefix_cons]; simp
  | body => rw [List.cons_prefix_cons, List.cons_prefix_cons]; simp

end Respelled

/-! ### Closing delimiters -/

/-- A delimiter of which no part but the first character can lie before a number sign: behind its
first character it has no number sign, and a character with a meaning. -/
def IsCloser (phrase : Text) : Prop :=
  ∃ p tail, phrase = p :: tail ∧ '#' ∉ tail ∧ ∃ c ∈ tail, c ∈ meaningful

theorem IsCloser.ne_nil {phrase : Text} (h : IsCloser phrase) : phrase ≠ [] := by
  obtain ⟨p, tail, rfl, -⟩ := h
  exact List.cons_ne_nil p tail

theorem CodeKind.isCloser_closer (kind : CodeKind) : IsCloser kind.closer := by
  cases kind
  · exact ⟨'}', ['}'], rfl, by decide, '}', by decide, by decide⟩
  · exact ⟨'%', ['}'], rfl, by decide, '}', by decide, by decide⟩

theorem CommentKind.isCloser_closer (kind : CommentKind) : IsCloser kind.closer := by
  cases kind
  · exact ⟨'#', ['}'], rfl, by decide, '}', by decide, by decide⟩
  · exact ⟨'-', ['-', '>'], rfl, by decide, '>', by decide, by decide⟩

theorem not_prefix_inert {tail x s : Text} (hsign : '#' ∉ tail)
    (hmeaning : ∃ c ∈ tail, c ∈ meaningful) (hx : Inert x) : ¬ tail <+: x ++ '#' :: s := by
  induction x generalizing tail with
  | nil =>
      obtain ⟨c, hc, -⟩ := hmeaning
      obtain ⟨p, tail, rfl⟩ := List.exists_cons_of_ne_nil (List.ne_nil_of_mem hc)
      rw [List.nil_append, List.cons_prefix_cons]
      rintro ⟨rfl, -⟩
      exact hsign List.mem_cons_self
  | cons a x ih =>
      obtain ⟨c, hc, hmeaning⟩ := hmeaning
      obtain ⟨p, tail, rfl⟩ := List.exists_cons_of_ne_nil (List.ne_nil_of_mem hc)
      rw [List.cons_append, List.cons_prefix_cons]
      rintro ⟨rfl, hstarts⟩
      refine ih (fun hmem => hsign (List.mem_cons_of_mem p hmem)) ⟨c, ?_, hmeaning⟩
        (fun d hd => hx d (List.mem_cons_of_mem p hd)) hstarts
      rcases List.mem_cons.1 hc with rfl | hc
      · exact absurd hmeaning (hx c List.mem_cons_self)
      · exact hc

/-- No closing delimiter begins at a number sign before an inert text, or in that text. -/
theorem IsCloser.not_starts {phrase x s : Text} (h : IsCloser phrase) (hx : Inert x) :
    ∀ front back, '#' :: x = front ++ back → back ≠ [] → ¬ phrase <+: back ++ '#' :: s := by
  obtain ⟨p, tail, rfl, hsign, hmeaning⟩ := h
  intro front back hsplit hback hstarts
  obtain ⟨b, back, rfl⟩ := List.exists_cons_of_ne_nil hback
  have hinert : Inert back := by
    intro c hc
    cases front with
    | nil =>
        obtain ⟨-, rfl⟩ := List.cons.inj hsplit
        exact hx c hc
    | cons f front =>
        obtain ⟨-, rfl⟩ := List.cons.inj hsplit
        exact hx c (by simp [hc])
  rw [List.cons_append, List.cons_prefix_cons] at hstarts
  exact not_prefix_inert hsign hmeaning hinert hstarts.2

/-- A text at no place of which there is an end is passed over. -/
theorem cutsFirst_append {free : Text → Prop} {phrase x w before rest : Text}
    (h : ∀ front back, x = front ++ back → back ≠ [] → ¬ phrase <+: back ++ w) :
    CutsFirst free phrase (x ++ w) before rest ↔
      ∃ more, before = x ++ more ∧ CutsFirst (fun front => free (x ++ front)) phrase w more rest := by
  induction x generalizing free before with
  | nil => simp
  | cons c x ih =>
      have here : ¬ (free [] ∧ phrase <+: c :: (x ++ w)) :=
        fun hstarts => h [] (c :: x) rfl (List.cons_ne_nil c x) hstarts.2
      rw [List.cons_append, cutsFirst_cons here]
      have tail : ∀ front back, x = front ++ back → back ≠ [] → ¬ phrase <+: back ++ w := by
        intro front back hsplit
        exact h (c :: front) back (by rw [hsplit]; rfl)
      constructor
      · rintro ⟨more, rfl, hcut⟩
        obtain ⟨more, rfl, hrest⟩ := (ih tail).1 hcut
        exact ⟨more, rfl, hrest⟩
      · rintro ⟨more, rfl, hcut⟩
        exact ⟨x ++ more, rfl, (ih tail).2 ⟨more, rfl, hcut⟩⟩

/-- The part of a text up to its first end begins as the text does. -/
theorem CutsFirst.exists_cons {free : Text → Prop} {phrase s b r : Text} {c : Char}
    (h : CutsFirst free phrase (c :: s) b r) (nonempty : phrase ≠ []) : ∃ more, b = c :: more := by
  obtain ⟨inner, rfl, hs, -⟩ := h
  have hne : inner ++ phrase ≠ [] := by simp [nonempty]
  obtain ⟨d, more, hmore⟩ := List.exists_cons_of_ne_nil hne
  rw [hmore, List.cons_append] at hs
  obtain ⟨rfl, -⟩ := List.cons.inj hs
  exact ⟨more, hmore⟩

/-- A condition on the text before a place that does not notice an inert text behind a number
sign. -/
def Steady (free : Text → Prop) : Prop :=
  ∀ front x back, Inert x → (free (front ++ '#' :: (x ++ back)) ↔ free (front ++ '#' :: back))

theorem Steady.cons {free : Text → Prop} (h : Steady free) (c : Char) :
    Steady fun front => free (c :: front) :=
  fun front x back hx => h (c :: front) x back hx

/-- The first end of a respelled text is where it was. -/
theorem Respelled.cutsFirst {A : Alignment} {pos pos' : Nat} {s t phrase b r : Text}
    {free : Text → Prop} (h : Respelled A pos pos' s t) (closer : IsCloser phrase)
    (steady : Steady free) (hs : CutsFirst free phrase s b r) :
    ∃ b' r', CutsFirst free phrase t b' r' ∧ Respelled A pos pos' b b' ∧
      Respelled A (pos + b.length) (pos' + b'.length) r r' := by
  induction h generalizing free b r with
  | nil =>
      obtain ⟨p, tail, rfl, -⟩ := closer
      exact absurd hs (not_cutsFirst_nil (List.cons_ne_nil p tail))
  | @cons pos pos' c s t meets rest ih =>
      obtain ⟨p, tail, rfl, hsign, hmeaning⟩ := closer
      have same : free [] ∧ p :: tail <+: c :: s ↔ free [] ∧ p :: tail <+: c :: t := by
        rw [List.cons_prefix_cons, List.cons_prefix_cons, rest.prefix_iff hsign]
      by_cases here : free [] ∧ p :: tail <+: c :: s
      · obtain ⟨rfl, hsplit⟩ := (cutsFirst_starts here.1 here.2).1 hs
        obtain ⟨rfl, rfl⟩ := List.cons.inj hsplit
        obtain ⟨r', rfl, htail, hr⟩ := rest.of_append hsign
        refine ⟨c :: tail, r', ?_, .cons meets htail, ?_⟩
        · exact (cutsFirst_starts here.1 (same.1 here).2).2 ⟨rfl, rfl⟩
        · rwa [List.length_cons, Nat.add_comm tail.length, ← Nat.add_assoc, ← Nat.add_assoc]
      · obtain ⟨more, rfl, hcut⟩ := (cutsFirst_cons here).1 hs
        obtain ⟨b', r', hcut', hb, hr⟩ := ih (steady.cons c) hcut
        refine ⟨c :: b', r', ?_, .cons meets hb, ?_⟩
        · exact (cutsFirst_cons (mt same.2 here)).2 ⟨b', rfl, hcut'⟩
        · rwa [List.length_cons, List.length_cons, Nat.add_comm more.length,
            Nat.add_comm b'.length, ← Nat.add_assoc, ← Nat.add_assoc]
  | @body pos pos' x y s t meets here hx hy _ ih =>
      have skip : ∀ {x : Text}, Inert x →
          (fun front => free ('#' :: x ++ front)) = fun front => free ('#' :: front) := by
        intro x hx
        funext front
        exact propext (steady [] x front hx)
      rw [← List.cons_append, cutsFirst_append (closer.not_starts hx), skip hx] at hs
      obtain ⟨more, rfl, hcut⟩ := hs
      obtain ⟨b', r', hcut', hb, hr⟩ := ih (steady.cons '#') hcut
      refine ⟨'#' :: y ++ b', r', ?_, ?_, ?_⟩
      · rw [← List.cons_append, cutsFirst_append (closer.not_starts hy), skip hy]
        exact ⟨b', rfl, hcut'⟩
      · -- both parts begin with the number sign behind the inert text
        obtain ⟨more, rfl⟩ := hcut.exists_cons closer.ne_nil
        obtain ⟨b', rfl⟩ := hcut'.exists_cons closer.ne_nil
        exact .body meets here hx hy hb
      · simp only [List.length_append, List.length_cons] at hr ⊢
        convert hr using 1 <;> omega

/-! ### Code blocks -/

namespace CodeState

/-- Only quotation marks are ever open. -/
def Sound (σ : CodeState) : Prop :=
  ∀ q, σ.quote = some q → Scan.isQuote q = true

theorem Sound.step {σ : CodeState} (h : σ.Sound) (c : Char) : (σ.step c).Sound := by
  unfold Sound CodeState.step at *
  grind

theorem Sound.run {σ : CodeState} (h : σ.Sound) (s : Text) : (σ.run s).Sound := by
  induction s generalizing σ with
  | nil => exact h
  | cons c s ih => exact ih (h.step c)

theorem run_append (σ : CodeState) (u v : Text) : σ.run (u ++ v) = (σ.run u).run v :=
  List.foldl_append

theorem step_inert {σ : CodeState} {c : Char} (h : σ.Sound) (unescaped : σ.escaped = false)
    (hc : c ∉ meaningful) : σ.step c = σ := by
  have hquote : Scan.isQuote c = false := by
    unfold Scan.isQuote
    simp [meaningful] at hc ⊢
    grind
  have hopen : Scan.isOpenBracket c = false := by
    unfold Scan.isOpenBracket
    simp [meaningful] at hc ⊢
    grind
  have hclose : Scan.isCloseBracket c = false := by
    unfold Scan.isCloseBracket
    simp [meaningful] at hc ⊢
    grind
  have hback : c ≠ '\\' := by
    rintro rfl
    exact hc (by decide)
  unfold CodeState.step
  rw [unescaped, if_neg Bool.false_ne_true]
  cases hσ : σ.quote with
  | none => simp [hquote, hopen, hclose]
  | some q =>
      have hq : c ≠ q := by
        rintro rfl
        rw [h c hσ] at hquote
        contradiction
      simp [hback, hq]

theorem run_inert {σ : CodeState} {x : Text} (h : σ.Sound) (unescaped : σ.escaped = false)
    (hx : Inert x) : σ.run x = σ := by
  induction x with
  | nil => rfl
  | cons c x ih =>
      show (σ.step c).run x = σ
      rw [step_inert h unescaped (hx c List.mem_cons_self),
        ih fun d hd => hx d (List.mem_cons_of_mem c hd)]

/-- Behind a number sign no character is taken along by a backslash. -/
theorem escaped_step_sign {σ : CodeState} : (σ.step '#').escaped = false := by
  unfold CodeState.step
  cases hescaped : σ.escaped with
  | true => rfl
  | false =>
      cases σ.quote with
      | none => simp [Scan.isQuote, Scan.isOpenBracket, Scan.isCloseBracket, hescaped]
      | some q =>
          simp only [Bool.false_eq_true, if_false]
          split
          · contradiction
          · split
            · rfl
            · exact hescaped

theorem steady_bare : Steady fun front => (run {} front).Bare := by
  intro front x back hx
  have sound : ((run {} front).step '#').Sound :=
    Sound.step (Sound.run (fun q hq => by cases hq) front) '#'
  have hrun : run {} (front ++ '#' :: (x ++ back)) = run {} (front ++ '#' :: back) := by
    rw [run_append, run_append]
    show (((run {} front).step '#').run (x ++ back)) = ((run {} front).step '#').run back
    rw [run_append, run_inert sound escaped_step_sign hx]
  simp only [hrun]

end CodeState

namespace Respelled

variable {A : Alignment} {pos pos' : Nat} {u s t : Text}

theorem isCode {kind : CodeKind} (h : Respelled A pos pos' (u ++ s) t) (code : IsCode kind u) :
    ∃ u' s', t = u' ++ s' ∧ IsCode kind u' ∧ Respelled A pos pos' u u' ∧
      Respelled A (pos + u.length) (pos' + u'.length) s s' := by
  obtain ⟨tail, htail⟩ := code.opened.trans (List.prefix_append u s)
  have hsign : '#' ∉ kind.opener := by cases kind <;> decide
  obtain ⟨more, rfl, hcut⟩ := exists_append_cutsFirst_iff.2 ⟨code, htail⟩
  rw [← htail] at h
  obtain ⟨t', rfl, opener, inside⟩ := h.of_append hsign
  obtain ⟨more', s', hcut', hmore, hs⟩ :=
    inside.cutsFirst kind.isCloser_closer CodeState.steady_bare hcut
  obtain ⟨code', ht⟩ := exists_append_cutsFirst_iff.1 ⟨more', rfl, hcut'⟩
  refine ⟨kind.opener ++ more', s', ht, code', opener.append hmore, ?_⟩
  rwa [List.length_append, List.length_append, ← Nat.add_assoc, ← Nat.add_assoc]

/-- Some text stands before the place. -/
def Begun (front : Text) : Prop :=
  front ≠ []

/-- The first end of a text is the first one behind any character before the text. -/
theorem cutsFirst_begun {phrase tail more rest : Text} (c : Char) :
    CutsFirst (fun _ => True) phrase tail more rest ↔
      CutsFirst Begun phrase (c :: tail) (c :: more) rest := by
  have here : ¬ (Begun [] ∧ phrase <+: c :: tail) := fun h => h.1 rfl
  have every : (fun front => Begun (c :: front)) = fun _ => True := by
    funext front
    exact eq_true (List.cons_ne_nil c front)
  rw [cutsFirst_cons here, every]
  constructor
  · intro h
    exact ⟨more, rfl, h⟩
  · rintro ⟨_, heq, h⟩
    cases heq
    exact h

/-- The number sign of the opener may be the one before a part that is replaced, so a comment is
looked at from there on; no end can be at its first character. -/
theorem isComment_template (h : Respelled A pos pos' (u ++ s) t)
    (comment : IsComment .template u) :
    ∃ u' s', t = u' ++ s' ∧ IsComment .template u' ∧ Respelled A pos pos' u u' ∧
      Respelled A (pos + u.length) (pos' + u'.length) s s' := by
  obtain ⟨tail, htail⟩ := comment.opened.trans (List.prefix_append u s)
  obtain ⟨more, rfl, hcut⟩ := exists_append_cutsFirst_iff.2 ⟨comment, htail⟩
  rw [← htail] at h
  have steady : Steady Begun := by
    intro front x back hx
    simp [Begun]
  obtain ⟨t₁, rfl, inside⟩ := of_cons h (by decide)
  obtain ⟨b', s', hcut', hb, hs⟩ :=
    inside.cutsFirst CommentKind.template.isCloser_closer steady ((cutsFirst_begun '#').1 hcut)
  obtain ⟨t₂, ht₂⟩ := inside.sign_prefix_iff.1 (List.prefix_append ['#'] tail)
  obtain rfl : t₁ = '#' :: t₂ := ht₂.symm
  obtain ⟨more', rfl⟩ := hcut'.exists_cons (by decide)
  have hopener : CommentKind.template.opener ++ more' = '{' :: '#' :: more' := rfl
  obtain ⟨comment', ht⟩ := exists_append_cutsFirst_iff.1 ⟨more', hopener.symm, (cutsFirst_begun _).2 hcut'⟩
  refine ⟨'{' :: '#' :: more', s', ht, comment', .cons h.meets hb, ?_⟩
  have hlength : (CommentKind.template.opener ++ more).length = ('#' :: more).length + 1 := rfl
  rw [hlength, List.length_cons (a := '{'), Nat.add_comm _ 1, Nat.add_comm _ 1, ← Nat.add_assoc,
    ← Nat.add_assoc]
  exact hs

theorem isComment_page (h : Respelled A pos pos' (u ++ s) t) (comment : IsComment .page u) :
    ∃ u' s', t = u' ++ s' ∧ IsComment .page u' ∧ Respelled A pos pos' u u' ∧
      Respelled A (pos + u.length) (pos' + u'.length) s s' := by
  obtain ⟨tail, htail⟩ := comment.opened.trans (List.prefix_append u s)
  obtain ⟨more, rfl, hcut⟩ := exists_append_cutsFirst_iff.2 ⟨comment, htail⟩
  rw [← htail] at h
  obtain ⟨t', rfl, opener, inside⟩ := h.of_append (by decide)
  obtain ⟨more', s', hcut', hmore, hs⟩ :=
    inside.cutsFirst CommentKind.page.isCloser_closer (fun _ _ _ _ => Iff.rfl) hcut
  obtain ⟨comment', ht⟩ := exists_append_cutsFirst_iff.1 ⟨more', rfl, hcut'⟩
  refine ⟨_, s', ht, comment', opener.append hmore, ?_⟩
  rwa [List.length_append, List.length_append, ← Nat.add_assoc, ← Nat.add_assoc]

theorem isComment {kind : CommentKind} (h : Respelled A pos pos' (u ++ s) t)
    (comment : IsComment kind u) :
    ∃ u' s', t = u' ++ s' ∧ IsComment kind u' ∧ Respelled A pos pos' u u' ∧
      Respelled A (pos + u.length) (pos' + u'.length) s s' := by
  cases kind with
  | template => exact h.isComment_template comment
  | page => exact h.isComment_page comment

end Respelled

/-! ### Tags -/

namespace TagState

/-- Only quotation marks are ever open. -/
def Sound (τ : TagState) : Prop :=
  ∀ q, τ.quote = some q → Scan.isQuote q = true

theorem Sound.step {τ : TagState} (h : τ.Sound) (item : TagItem) : (τ.step item).Sound := by
  unfold Sound TagState.step at *
  grind

/-- Behind a number sign no quotation mark opens a value unless a `=` comes first. -/
theorem step_inert {τ : TagState} {c : Char} (h : τ.Sound)
    (unequal : τ.quote = none → τ.afterEquals = false) (hc : c ∉ meaningful) :
    τ.step (.char c) = τ := by
  have hequals : c ≠ '=' := by
    rintro rfl
    exact hc (by decide)
  obtain ⟨quote, afterEquals⟩ := τ
  cases quote with
  | none =>
      have hfalse : afterEquals = false := unequal rfl
      simp [TagState.step, hfalse, hequals]
  | some q =>
      have hq : c ≠ q := by
        rintro rfl
        have hquote := h c rfl
        simp [meaningful] at hc
        simp [Scan.isQuote] at hquote
        grind
      simp [TagState.step, hq]

theorem run_inert {τ : TagState} {x : Text} (h : τ.Sound)
    (unequal : τ.quote = none → τ.afterEquals = false) (hx : Inert x) :
    τ.run (x.map .char) = τ := by
  induction x with
  | nil => rfl
  | cons c x ih =>
      show (τ.step (.char c)).run (x.map .char) = τ
      rw [step_inert h unequal (hx c List.mem_cons_self),
        ih fun d hd => hx d (List.mem_cons_of_mem c hd)]

theorem run_sign_inert {τ : TagState} {x : Text} (h : τ.Sound) (hx : Inert x) :
    τ.run (('#' :: x).map .char) = τ.step (.char '#') := by
  refine run_inert (h.step _) ?_ hx
  obtain ⟨quote, afterEquals⟩ := τ
  cases quote with
  | none => simp [TagState.step, Text.isBlank]
  | some q =>
      have hq : '#' ≠ q := by
        rintro rfl
        exact absurd (h '#' rfl) (by decide)
      simp [TagState.step, hq]

end TagState

/-- Characters put before the cut part of a tag. -/
theorem Scan.TagCut.foldr_cons (z : Text) (u : Scan.TagCut) :
    z.foldr Scan.TagCut.cons u =
      ⟨z ++ u.source, u.insets.map fun i => { i with offset := i.offset + z.length }, u.rest⟩ := by
  induction z with
  | nil => simp
  | cons c z ih =>
      rw [List.foldr_cons, ih]
      simp [Scan.TagCut.cons, Function.comp_def, Nat.add_assoc]

/-- Characters that open no code block and end no tag are passed over. -/
theorem cutsTag_chars {τ : TagState} {z s : Text} {t : Scan.TagCut}
    (hz : ∀ c ∈ z, c ≠ '{' ∧ c ≠ '>') :
    CutsTag τ (z ++ s) t ↔
      ∃ u, CutsTag (τ.run (z.map .char)) s u ∧ t = z.foldr Scan.TagCut.cons u := by
  induction z generalizing τ t with
  | nil =>
      show CutsTag τ s t ↔ ∃ u, CutsTag τ s u ∧ t = u
      simp
  | cons c z ih =>
      obtain ⟨hopen, hclose⟩ := hz c List.mem_cons_self
      have plain : ∀ kind : CodeKind, ¬ kind.opener <+: c :: (z ++ s) := by
        rintro kind ⟨tail, htail⟩
        cases kind <;> exact hopen (List.cons.inj htail).1.symm
      rw [List.cons_append, cutsTag_char (fun h => hclose h.1) plain]
      have hrest : ∀ d ∈ z, d ≠ '{' ∧ d ≠ '>' := fun d hd => hz d (List.mem_cons_of_mem c hd)
      constructor
      · rintro ⟨u, hu, rfl⟩
        obtain ⟨v, hv, rfl⟩ := (ih hrest).1 hu
        exact ⟨v, hv, rfl⟩
      · rintro ⟨v, hv, rfl⟩
        exact ⟨_, (ih hrest).2 ⟨v, hv, rfl⟩, rfl⟩

/-- The part of a text that belongs to a tag begins as the text does. -/
theorem CutsTag.exists_cons {τ : TagState} {c : Char} {s : Text} {t : Scan.TagCut}
    (h : CutsTag τ (c :: s) t) : ∃ more, t.source = c :: more := by
  obtain ⟨items, -, hsource, -, hs⟩ := h
  have hne : t.source ≠ [] := by simp [hsource]
  obtain ⟨d, more, hmore⟩ := List.exists_cons_of_ne_nil hne
  rw [hmore, List.cons_append] at hs
  obtain ⟨rfl, -⟩ := List.cons.inj hs
  exact ⟨more, hmore⟩

/-- Code blocks in a tag that begins at the offset `pos`, and the same blocks respelled in a tag that
begins at the offset `pos'`. -/
def RespelledInsets (A : Alignment) (pos pos' : Nat) : List Inset → List Inset → Prop :=
  List.Forall₂ fun i j => Respelled A (pos + i.offset) (pos' + j.offset) i.source j.source

theorem RespelledInsets.move {A : Alignment} {pos pos' k k' : Nat} {is js : List Inset}
    (h : RespelledInsets A (pos + k) (pos' + k') is js) :
    RespelledInsets A pos pos' (is.map fun i => { i with offset := i.offset + k })
      (js.map fun j => { j with offset := j.offset + k' }) := by
  unfold RespelledInsets at *
  rw [List.forall₂_map_left_iff, List.forall₂_map_right_iff]
  refine h.imp fun i j hij => ?_
  simp only
  rwa [Nat.add_comm i.offset, Nat.add_comm j.offset, ← Nat.add_assoc, ← Nat.add_assoc]

/-- A tag cut off a text at the offset `pos`, and the one cut off the respelled text at the offset
`pos'`. -/
structure RespelledCut (A : Alignment) (pos pos' : Nat) (u v : Scan.TagCut) : Prop where
  source : Respelled A pos pos' u.source v.source
  insets : RespelledInsets A pos pos' u.insets v.insets
  rest : Respelled A (pos + u.source.length) (pos' + v.source.length) u.rest v.rest

theorem Respelled.opener_prefix_iff {A : Alignment} {pos pos' : Nat} {s t : Text}
    (h : Respelled A pos pos' s t) (kind : CodeKind) : kind.opener <+: s ↔ kind.opener <+: t :=
  h.prefix_iff (by cases kind <;> decide)

namespace RespelledCut

variable {A : Alignment} {pos pos' : Nat} {u v : Scan.TagCut}

theorem cons (meets : A.meets pos pos') (h : RespelledCut A (pos + 1) (pos' + 1) u v) (c : Char) :
    RespelledCut A pos pos' (u.cons c) (v.cons c) := by
  refine ⟨.cons meets h.source, h.insets.move, ?_⟩
  show Respelled A (pos + (u.source.length + 1)) (pos' + (v.source.length + 1)) u.rest v.rest
  rw [Nat.add_comm u.source.length, Nat.add_comm v.source.length, ← Nat.add_assoc,
    ← Nat.add_assoc]
  exact h.rest

theorem consCode {b b' : Text} (hb : Respelled A pos pos' b b')
    (h : RespelledCut A (pos + b.length) (pos' + b'.length) u v) :
    RespelledCut A pos pos' (u.consCode b) (v.consCode b') := by
  refine ⟨hb.append h.source, .cons hb h.insets.move, ?_⟩
  show Respelled A (pos + (b ++ u.source).length) (pos' + (b' ++ v.source).length) u.rest v.rest
  rw [List.length_append, List.length_append, ← Nat.add_assoc, ← Nat.add_assoc]
  exact h.rest

/-- An inert part of a tag and the number sign before it, replaced. -/
theorem body {x y more more' : Text} (meets : A.meets pos pos') (here : A.edited pos)
    (hx : Inert x) (hy : Inert y) (hu : u.source = '#' :: more) (hv : v.source = '#' :: more')
    (h : RespelledCut A (pos + 1 + x.length) (pos' + 1 + y.length) u v) :
    RespelledCut A pos pos' (('#' :: x).foldr Scan.TagCut.cons u)
      (('#' :: y).foldr Scan.TagCut.cons v) := by
  have hlength : ∀ (pos : Nat) (x : Text), pos + 1 + x.length = pos + ('#' :: x).length := by
    intro pos x
    rw [List.length_cons]
    omega
  rw [Scan.TagCut.foldr_cons, Scan.TagCut.foldr_cons]
  refine ⟨?_, ?_, ?_⟩
  · have hsource := h.source
    rw [hu, hv] at hsource ⊢
    exact .body meets here hx hy hsource
  · have hinsets := h.insets
    rw [hlength, hlength] at hinsets
    exact hinsets.move
  · have hrest := h.rest
    rwa [hlength, hlength, Nat.add_assoc, Nat.add_assoc, ← List.length_append,
      ← List.length_append] at hrest

end RespelledCut

namespace Respelled

variable {A : Alignment} {pos pos' : Nat} {s t : Text}

theorem chars_of_inert {x : Text} (hx : Inert x) : ∀ c ∈ '#' :: x, c ≠ '{' ∧ c ≠ '>' := by
  intro c hc
  rcases List.mem_cons.1 hc with rfl | hc
  · decide
  · refine ⟨?_, ?_⟩ <;> (rintro rfl; exact hx _ hc (by decide))

/-- The end of a tag in a respelled text is where it was, and so are the code blocks in the tag. -/
theorem cutsTag {τ : TagState} {u : Scan.TagCut} (h : Respelled A pos pos' s t)
    (sound : τ.Sound) (hs : CutsTag τ s u) : ∃ v, CutsTag τ t v ∧ RespelledCut A pos pos' u v := by
  -- by the length of the text, as a code block is passed over at once
  induction hn : s.length using Nat.strongRecOn generalizing s t pos pos' τ u with
  | ind n ih =>
      subst hn
      cases h with
      | nil => exact absurd hs not_cutsTag_nil
      | @cons _ _ c s t meets rest =>
          have whole : Respelled A pos pos' (c :: s) (c :: t) := .cons meets rest
          by_cases hopen : ∃ kind : CodeKind, kind.opener <+: c :: s
          · obtain ⟨kind, opened⟩ := hopen
            have opened' := (whole.opener_prefix_iff kind).1 opened
            obtain ⟨block, after, u, code, hsplit, hu, rfl⟩ := (cutsTag_code opened).1 hs
            rw [hsplit] at whole
            obtain ⟨block', after', ht, code', hblock, hafter⟩ := whole.isCode code
            have hlt : after.length < (c :: s).length := by
              rw [hsplit, List.length_append]
              exact Nat.lt_add_of_pos_left code.length_pos
            obtain ⟨v, hv, cut⟩ := ih _ hlt hafter (sound.step (.code block)) hu rfl
            exact ⟨v.consCode block', (cutsTag_code opened').2
              ⟨block', after', v, code', ht, hv, rfl⟩, .consCode hblock cut⟩
          · have plain : ∀ kind : CodeKind, ¬ kind.opener <+: c :: s :=
              fun kind h => hopen ⟨kind, h⟩
            have plain' : ∀ kind : CodeKind, ¬ kind.opener <+: c :: t :=
              fun kind h => plain kind ((whole.opener_prefix_iff kind).2 h)
            by_cases hclose : c = '>' ∧ τ.quote = none
            · obtain ⟨rfl, unquoted⟩ := hclose
              obtain rfl := (cutsTag_close unquoted).1 hs
              exact ⟨⟨['>'], [], t⟩, (cutsTag_close unquoted).2 rfl,
                .cons meets (.nil rest.meets), .nil, rest⟩
            · obtain ⟨u, hu, rfl⟩ := (cutsTag_char hclose plain).1 hs
              obtain ⟨v, hv, cut⟩ := ih _ (Nat.lt_succ_self _) rest (sound.step (.char c)) hu rfl
              exact ⟨v.cons c, (cutsTag_char hclose plain').2 ⟨v, hv, rfl⟩, cut.cons meets c⟩
      | @body _ _ x y s t meets here hx hy rest =>
          rw [← List.cons_append, cutsTag_chars (chars_of_inert hx),
            TagState.run_sign_inert sound hx] at hs
          obtain ⟨u, hu, rfl⟩ := hs
          have hlt : ('#' :: s).length < ('#' :: (x ++ '#' :: s)).length := by
            simp only [List.length_cons, List.length_append]
            omega
          obtain ⟨v, hv, cut⟩ := ih _ hlt rest (sound.step (.char '#')) hu rfl
          obtain ⟨more, hmore⟩ := hu.exists_cons
          obtain ⟨more', hmore'⟩ := hv.exists_cons
          refine ⟨('#' :: y).foldr Scan.TagCut.cons v, ?_, .body meets here hx hy hmore hmore' cut⟩
          rw [← List.cons_append, cutsTag_chars (chars_of_inert hy),
            TagState.run_sign_inert sound hy]
          exact ⟨v, hv, rfl⟩

theorem startsTag_iff (h : Respelled A pos pos' s t) : StartsTag s ↔ StartsTag t := by
  unfold StartsTag
  refine exists_congr fun c => and_congr_right fun hc => ?_
  have hsign : '#' ≠ c := by
    rintro rfl
    exact absurd hc (by decide)
  rw [h.prefix_iff (by simp [hsign]), h.prefix_iff (by simp [hsign])]

theorem isTag {u : Text} {items : List TagItem} (h : Respelled A pos pos' (u ++ s) t)
    (tag : IsTag u items) :
    ∃ u' items' s', t = u' ++ s' ∧ IsTag u' items' ∧ Respelled A pos pos' u u' ∧
      RespelledInsets A (pos + 1) (pos' + 1) (TagItem.insets items) (TagItem.insets items') ∧
      Respelled A (pos + u.length) (pos' + u'.length) s s' := by
  obtain ⟨rfl, starts, ends⟩ := tag
  obtain ⟨t', rfl, inside⟩ := of_cons h (by decide)
  have sound : TagState.Sound {} := by
    intro q hq
    cases hq
  have hcut : CutsTag {} (TagItem.sources items ++ ['>'] ++ s)
      ⟨TagItem.sources items ++ ['>'], TagItem.insets items, s⟩ := ⟨items, ends, rfl, rfl, rfl⟩
  obtain ⟨v, ⟨items', ends', hsource, hinsets, ht⟩, cut⟩ := inside.cutsTag sound hcut
  have hu : Respelled A pos pos' ('<' :: (TagItem.sources items ++ ['>'])) ('<' :: v.source) :=
    .cons h.meets cut.source
  refine ⟨'<' :: v.source, items', v.rest, ?_, ⟨by rw [hsource], ?_, ends'⟩, hu, ?_, ?_⟩
  · rw [ht]
    rfl
  · exact hu.startsTag_iff.1 starts
  · rw [← hinsets]
    exact cut.insets
  · have hrest := cut.rest
    rwa [List.length_cons, List.length_cons, Nat.add_comm (List.length _) 1,
      Nat.add_comm (List.length _) 1, ← Nat.add_assoc, ← Nat.add_assoc]

theorem startsOpener_iff (h : Respelled A pos pos' s t) : StartsOpener s ↔ StartsOpener t := by
  refine exists_congr fun o => ?_
  rcases o with kind | kind | _
  · exact h.opener_prefix_iff kind
  · cases kind with
    | page => exact h.prefix_iff (by decide)
    | template =>
        show ['{', '#'] <+: s ↔ ['{', '#'] <+: t
        cases h with
        | nil => rfl
        | cons _ rest => rw [List.cons_prefix_cons, List.cons_prefix_cons, rest.sign_prefix_iff]
        | body => simp [List.cons_prefix_cons]
  · exact h.startsTag_iff

end Respelled

/-! ### Templates -/

/-- A character at which no opener stands is a piece of its own. -/
theorem reads_cons_iff {c : Char} {s : Text} {ps : List Piece} (h : ¬ StartsOpener (c :: s)) :
    Reads (c :: s) ps ↔ ∃ qs, Reads s qs ∧ ps = .plain c :: qs := by
  rw [← Scan.pieces_eq_ok_iff, Scan.pieces_plain (Scan.opening?_eq_none_iff.2 h),
    Scan.prepend_eq_ok_iff]
  exact exists_congr fun qs => and_congr_left fun _ => Scan.pieces_eq_ok_iff

theorem not_startsOpener_cons {c : Char} {s : Text} (hbrace : c ≠ '{') (hangle : c ≠ '<') :
    ¬ StartsOpener (c :: s) := by
  rintro ⟨kind | kind | _, h⟩
  · cases kind <;> exact hbrace (List.cons_prefix_cons.1 h).1.symm
  · cases kind
    · exact hbrace (List.cons_prefix_cons.1 h).1.symm
    · exact hangle (List.cons_prefix_cons.1 h).1.symm
  · obtain ⟨_, -, h | h⟩ := h <;> exact hangle (List.cons_prefix_cons.1 h).1.symm

theorem reads_chars_iff {z s : Text} {ps : List Piece} (hz : ∀ c ∈ z, c ≠ '{' ∧ c ≠ '<') :
    Reads (z ++ s) ps ↔ ∃ qs, Reads s qs ∧ ps = z.map .plain ++ qs := by
  induction z generalizing ps with
  | nil => simp
  | cons c z ih =>
      obtain ⟨hbrace, hangle⟩ := hz c List.mem_cons_self
      have hrest : ∀ d ∈ z, d ≠ '{' ∧ d ≠ '<' := fun d hd => hz d (List.mem_cons_of_mem c hd)
      rw [List.cons_append, reads_cons_iff (not_startsOpener_cons hbrace hangle)]
      constructor
      · rintro ⟨qs, hqs, rfl⟩
        obtain ⟨rs, hrs, rfl⟩ := (ih hrest).1 hqs
        exact ⟨rs, hrs, rfl⟩
      · rintro ⟨rs, hrs, rfl⟩
        exact ⟨_, (ih hrest).2 ⟨rs, hrs, rfl⟩, rfl⟩

/-- The source of a tag determines its code blocks. -/
theorem IsTag.insets_eq {s : Text} {items items' : List TagItem} (h : IsTag s items)
    (h' : IsTag s items') : TagItem.insets items = TagItem.insets items' := by
  have cut : CutsTag {} (TagItem.sources items ++ ['>'])
      ⟨TagItem.sources items ++ ['>'], TagItem.insets items, []⟩ :=
    ⟨items, h.2.2, rfl, rfl, (List.append_nil _).symm⟩
  have cut' : CutsTag {} (TagItem.sources items ++ ['>'])
      ⟨TagItem.sources items ++ ['>'], TagItem.insets items', []⟩ := by
    have hsource : TagItem.sources items ++ ['>'] = TagItem.sources items' ++ ['>'] :=
      (List.cons.inj (h.1.symm.trans h'.1)).2
    exact ⟨items', h'.2.2, hsource, rfl, (List.append_nil _).symm⟩
  have hcut := (Scan.tagTail_eq_ok_iff.2 cut).symm.trans (Scan.tagTail_eq_ok_iff.2 cut')
  exact congrArg Scan.TagCut.insets (Except.ok.inj hcut)

/-- The pieces of a text that begins at the offset `pos`, and those of the respelled text, which begins
at the offset `pos'`: the same pieces with respelled sources. -/
inductive Matched (A : Alignment) : (pos pos' : Nat) → (ps qs : List Piece) → Prop
  | nil {pos pos' : Nat} (meets : A.meets pos pos') : Matched A pos pos' [] []
  | plain {pos pos' : Nat} {ps qs : List Piece} (c : Char) (meets : A.meets pos pos')
      (rest : Matched A (pos + 1) (pos' + 1) ps qs) :
      Matched A pos pos' (.plain c :: ps) (.plain c :: qs)
  | body {pos pos' : Nat} {x y : Text} {ps qs : List Piece} (meets : A.meets pos pos')
      (here : A.edited pos) (hx : Inert x) (hy : Inert y)
      (rest : Matched A (pos + 1 + x.length) (pos' + 1 + y.length) ps qs) :
      Matched A pos pos' (('#' :: x).map .plain ++ ps) (('#' :: y).map .plain ++ qs)
  | code {pos pos' : Nat} {u v : Text} {ps qs : List Piece} (source : Respelled A pos pos' u v)
      (rest : Matched A (pos + u.length) (pos' + v.length) ps qs) :
      Matched A pos pos' (.code u :: ps) (.code v :: qs)
  | comment {pos pos' : Nat} {u v : Text} {ps qs : List Piece} (source : Respelled A pos pos' u v)
      (rest : Matched A (pos + u.length) (pos' + v.length) ps qs) :
      Matched A pos pos' (.comment u :: ps) (.comment v :: qs)
  | tag {pos pos' : Nat} {u v : Text} {is js : List Inset} {ps qs : List Piece}
      (source : Respelled A pos pos' u v) (insets : RespelledInsets A pos pos' is js)
      (same : u = v → is = js) (rest : Matched A (pos + u.length) (pos' + v.length) ps qs) :
      Matched A pos pos' (.tag u is :: ps) (.tag v js :: qs)

/-- A respelled text is read into the same pieces with respelled sources. -/
theorem Reads.respelled {A : Alignment} {pos pos' : Nat} {s t : Text} {ps : List Piece}
    (hs : Reads s ps) (h : Respelled A pos pos' s t) :
    ∃ qs, Reads t qs ∧ Matched A pos pos' ps qs := by
  -- by the length of the text, as an inert part takes several pieces
  induction hn : s.length using Nat.strongRecOn generalizing s t ps pos pos' with
  | ind n ih =>
      subst hn
      cases hs with
      | nil =>
          cases h with
          | nil meets => exact ⟨[], .nil, .nil meets⟩
      | @plain c s ps plain hs =>
          have plain' := mt h.startsOpener_iff.2 plain
          cases h with
          | @cons _ _ _ _ t meets rest =>
              obtain ⟨qs, hqs, hmatch⟩ := ih _ (Nat.lt_succ_self _) hs rest rfl
              exact ⟨.plain c :: qs, .plain plain' hqs, .plain c meets hmatch⟩
          | @body _ _ x y s t meets here hx hy rest =>
              have hchars : ∀ {x : Text}, Inert x → ∀ d ∈ '#' :: x, d ≠ '{' ∧ d ≠ '<' := by
                intro x hx d hd
                rcases List.mem_cons.1 hd with rfl | hd
                · decide
                · refine ⟨?_, ?_⟩ <;> (rintro rfl; exact hx _ hd (by decide))
              have whole : Reads (('#' :: x) ++ '#' :: s) (.plain '#' :: ps) := .plain plain hs
              obtain ⟨rs, hrs, heq⟩ := (reads_chars_iff (hchars hx)).1 whole
              have hlt : ('#' :: s).length < ('#' :: (x ++ '#' :: s)).length := by
                simp only [List.length_cons, List.length_append]
                omega
              obtain ⟨qs, hqs, hmatch⟩ := ih _ hlt hrs rest rfl
              rw [heq]
              exact ⟨_, (reads_chars_iff (hchars hy)).2 ⟨qs, hqs, rfl⟩,
                .body meets here hx hy hmatch⟩
      | @code kind block s ps code hs =>
          obtain ⟨u, t', rfl, code', hu, hrest⟩ := h.isCode code
          obtain ⟨qs, hqs, hmatch⟩ := ih _ (by
            rw [List.length_append]
            exact Nat.lt_add_of_pos_left code.length_pos) hs hrest rfl
          exact ⟨.code u :: qs, .code code' hqs, .code hu hmatch⟩
      | @comment kind source s ps comment hs =>
          obtain ⟨u, t', rfl, comment', hu, hrest⟩ := h.isComment comment
          obtain ⟨qs, hqs, hmatch⟩ := ih _ (by
            rw [List.length_append]
            exact Nat.lt_add_of_pos_left comment.length_pos) hs hrest rfl
          exact ⟨.comment u :: qs, .comment comment' hqs, .comment hu hmatch⟩
      | @tag source s items ps tag hs =>
          obtain ⟨u, items', t', rfl, tag', hu, hinsets, hrest⟩ := h.isTag tag
          obtain ⟨qs, hqs, hmatch⟩ := ih _ (by
            rw [List.length_append]
            exact Nat.lt_add_of_pos_left tag.length_pos) hs hrest rfl
          refine ⟨_, .tag tag' hqs, .tag hu hinsets.move ?_ hmatch⟩
          rintro rfl
          rw [tag.insets_eq tag']

end MarkupAudit
