import MarkupAudit.Proofs.Template.Respelling
import MarkupAudit.Proofs.Template.Tokenization

/-!
# Nested code

Code in which every bracket and every quotation mark has its partner. A block of such code ends with
the closing delimiter behind it. Wherever nothing hides a delimiter, the next character of the code is
no closing bracket (`IsNested.always`). Both closing delimiters end with a closing bracket, so none of
them begins in the code, not even one that takes its second half from the delimiter behind.
-/

namespace MarkupAudit

/-- What may stand between two quotation marks `q`. A backslash takes the next character with it. -/
inductive IsQuoted (q : Char) : Text → Prop
  | nil : IsQuoted q []
  | char {c : Char} {s : Text} : c ≠ q → c ≠ '\\' → IsQuoted q s → IsQuoted q (c :: s)
  | escape {c : Char} {s : Text} : IsQuoted q s → IsQuoted q ('\\' :: c :: s)

/-- Code in which every bracket and every quotation mark has its partner. The brackets of a pair need
not be of one type. -/
inductive IsNested : Text → Prop
  | nil : IsNested []
  | char {c : Char} {s : Text} : Scan.isQuote c = false → Scan.isOpenBracket c = false →
      Scan.isCloseBracket c = false → IsNested s → IsNested (c :: s)
  | quoted {q : Char} {body s : Text} : Scan.isQuote q = true → IsQuoted q body → IsNested s →
      IsNested (q :: (body ++ q :: s))
  | bracketed {o c : Char} {inner s : Text} : Scan.isOpenBracket o = true → IsNested inner →
      Scan.isCloseBracket c = true → IsNested s → IsNested (o :: (inner ++ c :: s))

/-! ### Characters of each sort -/

namespace Scan

theorem not_bracket_of_isQuote {q : Char} (h : isQuote q = true) :
    isOpenBracket q = false ∧ isCloseBracket q = false ∧ q ≠ '\\' := by
  simp only [isQuote, Bool.or_eq_true, decide_eq_true_eq] at h
  rcases h with rfl | rfl <;> decide

theorem not_quote_of_isOpenBracket {o : Char} (h : isOpenBracket o = true) :
    isQuote o = false ∧ isCloseBracket o = false := by
  simp only [isOpenBracket, Bool.or_eq_true, decide_eq_true_eq] at h
  rcases h with (rfl | rfl) | rfl <;> decide

theorem not_quote_of_isCloseBracket {c : Char} (h : isCloseBracket c = true) :
    isQuote c = false ∧ isOpenBracket c = false := by
  simp only [isCloseBracket, Bool.or_eq_true, decide_eq_true_eq] at h
  rcases h with (rfl | rfl) | rfl <;> decide

end Scan

namespace CodeState

/-- A property holds of each character of a text together with the state that the text before it has
left. -/
def Always (P : CodeState → Char → Prop) : CodeState → Text → Prop
  | _, [] => True
  | σ, c :: s => P σ c ∧ Always P (σ.step c) s

theorem always_append {P : CodeState → Char → Prop} {σ : CodeState} {u v : Text} :
    Always P σ (u ++ v) ↔ Always P σ u ∧ Always P (σ.run u) v := by
  induction u generalizing σ with
  | nil => simp [Always, run]
  | cons c u ih =>
      rw [List.cons_append, Always, Always, ih, and_assoc]
      rfl

theorem Always.imp {P Q : CodeState → Char → Prop} {σ : CodeState} {s : Text}
    (h : Always P σ s) (himp : ∀ τ c, P τ c → Q τ c) : Always Q σ s := by
  induction s generalizing σ with
  | nil => trivial
  | cons c s ih => exact ⟨himp σ c h.1, ih h.2⟩

/-- No bracket that was open at a depth is closed by a character, as far as the state tells. -/
def KeepsOpen (depth : Nat) (σ : CodeState) (c : Char) : Prop :=
  depth ≤ σ.depth ∧ (σ = ⟨depth, none, false⟩ → Scan.isCloseBracket c = false)

theorem keepsOpen_of_ne {depth : Nat} {σ : CodeState} {c : Char} (hle : depth ≤ σ.depth)
    (hne : σ ≠ ⟨depth, none, false⟩) : KeepsOpen depth σ c :=
  ⟨hle, fun h => absurd h hne⟩

theorem KeepsOpen.of_succ {depth : Nat} {σ : CodeState} {c : Char} (h : KeepsOpen (depth + 1) σ c) :
    KeepsOpen depth σ c := by
  refine keepsOpen_of_ne (Nat.le_of_succ_le h.1) ?_
  rintro rfl
  exact absurd h.1 (Nat.not_succ_le_self depth)

theorem step_quote {depth : Nat} {q : Char} (h : Scan.isQuote q = true) :
    step ⟨depth, none, false⟩ q = ⟨depth, some q, false⟩ := by
  simp [step, h]

theorem step_openBracket {depth : Nat} {o : Char} (h : Scan.isOpenBracket o = true) :
    step ⟨depth, none, false⟩ o = ⟨depth + 1, none, false⟩ := by
  simp [step, h, Scan.not_quote_of_isOpenBracket h]

theorem step_closeBracket {depth : Nat} {c : Char} (h : Scan.isCloseBracket c = true) :
    step ⟨depth + 1, none, false⟩ c = ⟨depth, none, false⟩ := by
  simp [step, h, Scan.not_quote_of_isCloseBracket h]

theorem step_plain {depth : Nat} {c : Char} (hquote : Scan.isQuote c = false)
    (hopen : Scan.isOpenBracket c = false) (hclose : Scan.isCloseBracket c = false) :
    step ⟨depth, none, false⟩ c = ⟨depth, none, false⟩ := by
  simp [step, hquote, hopen, hclose]

theorem step_unquote {depth : Nat} {q : Char} (h : Scan.isQuote q = true) :
    step ⟨depth, some q, false⟩ q = ⟨depth, none, false⟩ := by
  simp [step, Scan.not_bracket_of_isQuote h]

theorem step_inString {depth : Nat} {q c : Char} (hq : c ≠ q) (hescape : c ≠ '\\') :
    step ⟨depth, some q, false⟩ c = ⟨depth, some q, false⟩ := by
  simp [step, hq, hescape]

theorem step_backslash {depth : Nat} {q : Char} :
    step ⟨depth, some q, false⟩ '\\' = ⟨depth, some q, true⟩ := by
  simp [step]

theorem step_escaped {depth : Nat} {q c : Char} :
    step ⟨depth, some q, true⟩ c = ⟨depth, some q, false⟩ := by
  simp [step]

theorem run_cons (σ : CodeState) (c : Char) (s : Text) : σ.run (c :: s) = (σ.step c).run s :=
  rfl

end CodeState

open CodeState

/-! ### States in nested code -/

section States

variable {q : Char} {s : Text}

theorem IsQuoted.run (h : IsQuoted q s) (depth : Nat) :
    CodeState.run ⟨depth, some q, false⟩ s = ⟨depth, some q, false⟩ := by
  induction h with
  | nil => rfl
  | char hq hescape _ ih => rw [run_cons, step_inString hq hescape, ih]
  | escape _ ih => rw [run_cons, step_backslash, run_cons, step_escaped, ih]

theorem IsNested.run (h : IsNested s) (depth : Nat) :
    CodeState.run ⟨depth, none, false⟩ s = ⟨depth, none, false⟩ := by
  induction h generalizing depth with
  | nil => rfl
  | char hquote hopen hclose _ ih => rw [run_cons, step_plain hquote hopen hclose, ih]
  | quoted hq hbody _ ih =>
      rw [run_cons, step_quote hq, run_append, hbody.run, run_cons, step_unquote hq, ih]
  | bracketed ho _ hc _ ihInner ih =>
      rw [run_cons, step_openBracket ho, run_append, ihInner, run_cons, step_closeBracket hc, ih]

/-- A string has its quotation mark open at each of its characters. -/
theorem IsQuoted.always (h : IsQuoted q s) (depth : Nat) :
    Always (KeepsOpen depth) ⟨depth, some q, false⟩ s := by
  induction h with
  | nil => trivial
  | char hq hescape _ ih =>
      refine ⟨keepsOpen_of_ne (Nat.le_refl _) (by simp), ?_⟩
      rwa [step_inString hq hescape]
  | escape _ ih =>
      refine ⟨keepsOpen_of_ne (Nat.le_refl _) (by simp), ?_⟩
      rw [step_backslash]
      refine ⟨keepsOpen_of_ne (Nat.le_refl _) (by simp), ?_⟩
      rwa [step_escaped]

/-- Nested code closes no bracket that is open before it. -/
theorem IsNested.always (h : IsNested s) (depth : Nat) :
    Always (KeepsOpen depth) ⟨depth, none, false⟩ s := by
  -- the inside of a pair of brackets is looked at one level deeper
  induction h generalizing depth with
  | nil => trivial
  | char hquote hopen hclose _ ih =>
      refine ⟨⟨Nat.le_refl _, fun _ => hclose⟩, ?_⟩
      rw [step_plain hquote hopen hclose]
      exact ih depth
  | quoted hq hbody _ ih =>
      refine ⟨⟨Nat.le_refl _, fun _ => (Scan.not_bracket_of_isQuote hq).2.1⟩, ?_⟩
      rw [step_quote hq, always_append, hbody.run]
      refine ⟨hbody.always depth, keepsOpen_of_ne (Nat.le_refl _) (by simp), ?_⟩
      rw [step_unquote hq]
      exact ih depth
  | bracketed ho hinner hc _ ihInner ih =>
      refine ⟨⟨Nat.le_refl _, fun _ => (Scan.not_quote_of_isOpenBracket ho).2⟩, ?_⟩
      rw [step_openBracket ho, always_append, hinner.run]
      refine ⟨(ihInner (depth + 1)).imp fun _ _ h => h.of_succ,
        keepsOpen_of_ne (Nat.le_succ depth) (by simp), ?_⟩
      rw [step_closeBracket hc]
      exact ih depth

end States

/-! ### Blocks of nested code -/

/-- A closing delimiter that begins before another one has a closing bracket in the text before. -/
theorem CodeKind.closer_prefix {kind : CodeKind} {b : Char} {back : Text}
    (h : kind.closer <+: b :: (back ++ kind.closer)) :
    Scan.isCloseBracket b = true ∨ b = '%' ∧ ∃ c rest, back = c :: rest ∧
      Scan.isCloseBracket c = true := by
  obtain ⟨rest, hrest⟩ := h
  cases kind with
  | output =>
      obtain ⟨rfl, -⟩ := List.cons.inj hrest
      exact .inl (by decide)
  | statement =>
      cases back with
      | nil => cases hrest
      | cons c back =>
          cases hrest
          exact .inr ⟨rfl, _, _, rfl, by decide⟩

/-- Nested code between its delimiters is a code block. -/
theorem IsNested.isCode {inner : Text} (h : IsNested inner) (kind : CodeKind) :
    IsCode kind (kind.opener ++ inner ++ kind.closer) := by
  refine ⟨inner, rfl, ?_, ?_⟩
  · show (CodeState.run {} inner).Bare
    rw [h.run 0]
    exact ⟨rfl, rfl, rfl⟩
  · intro front back hsplit hback hbare hcloser
    obtain ⟨b, back, rfl⟩ := List.exists_cons_of_ne_nil hback
    -- nothing is open in front of `b`
    have hstate : CodeState.run {} front = {} := by
      obtain ⟨hdepth, hquote, hescaped⟩ := hbare
      cases hrun : CodeState.run {} front
      simp_all
    have always := h.always 0
    rw [hsplit, always_append] at always
    obtain ⟨-, here, later⟩ := always
    rw [hstate] at here later
    rcases CodeKind.closer_prefix hcloser with hb | ⟨rfl, c, rest, rfl, hc⟩
    · exact absurd (here.2 rfl) (by simp [hb])
    · have hnext := later.1.2 (step_plain (by decide) (by decide) (by decide))
      exact absurd hnext (by simp [hc])

theorem CodeKind.length_delimiters (kind : CodeKind) (inner : Text) :
    (kind.opener ++ inner ++ kind.closer).length = 4 + inner.length := by
  cases kind <;> simp [CodeKind.opener, CodeKind.closer] <;> omega

/-- A block of nested code is scanned to its own end, whatever stands before it and behind it: the
opener tells its kind, the scanner stops behind the closing delimiter of the code, and the node covers
the block and nothing else. -/
theorem code_scanned_to_own_end (kind : CodeKind) {inner : Text} (nested : IsNested inner)
    (pre post : Text) :
    let s := pre ++ kind.opener ++ inner ++ kind.closer ++ post
    let span : Span := ⟨pre.length, pre.length + 4 + inner.length⟩
    Scan.codeOpening? (s.drop pre.length) = some kind ∧
      ∃ block, Scan.code? kind (s.drop pre.length) = some (block, post) ∧
        Layout.codeNode pre.length block = ⟨.code, span, s.slice span, []⟩ := by
  intro s span
  have hs : s.drop pre.length = kind.opener ++ inner ++ kind.closer ++ post := by
    simp only [s, List.append_assoc, List.drop_left]
  have opened : kind.opener <+: s.drop pre.length := by
    rw [hs, List.append_assoc, List.append_assoc]
    exact List.prefix_append _ _
  have hspan : span = ⟨pre.length, pre.length + (kind.opener ++ inner ++ kind.closer).length⟩ := by
    simp only [span, CodeKind.length_delimiters]
    congr 1
    omega
  refine ⟨Scan.codeOpening?_eq_some_iff.2 opened, kind.opener ++ inner ++ kind.closer, ?_, ?_⟩
  · exact (Scan.code?_eq_some_iff opened).2 ⟨nested.isCode kind, hs⟩
  · rw [hspan, Text.slice_of_drop_eq hs]
    rfl

/-- Code with both closing delimiters in it, one of them in a string, and the beginning of one at its
end. -/
def hiddenClosers : Text :=
  ['[', '{', '{', '\'', '%', '}', '\\', '\'', '\'', '}', '}', ')', '%']

theorem isNested_hiddenClosers : IsNested hiddenClosers := by
  have string : IsQuoted '\'' ['%', '}', '\\', '\''] :=
    .char (by decide) (by decide) (.char (by decide) (by decide) (.escape .nil))
  have inner : IsNested ('{' :: ('\'' :: (['%', '}', '\\', '\''] ++ ['\'']) ++ ['}'])) :=
    .bracketed (by decide) (.quoted (by decide) string .nil) (by decide) .nil
  show IsNested ('[' :: ('{' :: ('{' :: ('\'' :: (['%', '}', '\\', '\''] ++ ['\'']) ++ ['}']) ++
    ['}']) ++ ')' :: ['%']))
  refine .bracketed (by decide) (.bracketed (by decide) inner (by decide) .nil) (by decide) ?_
  exact .char (by decide) (by decide) (by decide) .nil

theorem code_scanned_to_own_end_hiddenClosers :
    IsNested hiddenClosers ∧
      ∃ block, Scan.code? .statement (['{', '%'] ++ hiddenClosers ++ ['%', '}'] ++ ['%', '}']) =
          some (block, ['%', '}']) ∧
        (Layout.codeNode 2 block).span = ⟨2, 19⟩ := by
  refine ⟨isNested_hiddenClosers, ?_⟩
  obtain ⟨-, block, hcode, hnode⟩ :=
    code_scanned_to_own_end .statement isNested_hiddenClosers ['{', '{'] ['%', '}']
  exact ⟨block, hcode, congrArg Node.span hnode⟩

end MarkupAudit
