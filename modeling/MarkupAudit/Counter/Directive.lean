import MarkupAudit.Audit.Finding
import MarkupAudit.Text.Digit

/-!
# Counter directives

A comment in a template may say how many findings of a rule are tolerated. Such a directive is found
in the raw text, wherever it stands: an opening, the marker, the identifier of a rule, a number and
a closing, with blanks between them. A comment that has the marker but not this shape is no
directive.
-/

namespace MarkupAudit

/-- A directive for some rule: how many findings it tolerates, and where it stands. -/
structure Directive where
  count : Nat
  span : Span
  deriving DecidableEq, Repr

/-- A directive as written: the identifier it names, the digits of its number, and where it stands. -/
structure WrittenDirective where
  rule : Text
  digits : Text
  start : Nat
  stop : Nat
  deriving DecidableEq, Repr

namespace Directive

/-- The text that marks a directive. -/
def marker : String := "template-auditor:counter"

/-- The text that opens a directive. -/
def opening : Text := ['{', '#']

/-- The text that closes a directive. -/
def closing : Text := ['#', '}']

/-- Writes a directive. -/
def render (rule : String) (count : Nat) : Text :=
  opening ++ [' '] ++ marker.toList ++ [' '] ++ rule.toList ++ [' '] ++ Text.ofNat count ++ [' '] ++
    closing

/-- The text behind a run of characters that is not empty: the run, and the rest. -/
def run1? (p : Char → Bool) (s : Text) : Option (Text × Text) :=
  let run := s.takeWhile p
  if run.isEmpty then none else some (run, s.dropWhile p)

/-- Reads the directive at the head of a text: the identifier, the digits, and the rest. -/
def read? (s : Text) : Option (Text × Text × Text) := do
  let s ← Text.after? opening s
  let s ← Text.after? marker.toList (s.dropWhile Text.isBlank)
  let (_, s) ← run1? Text.isBlank s
  let (rule, s) ← run1? (fun c => !Text.isBlank c) s
  let (_, s) ← run1? Text.isBlank s
  let (digits, s) ← run1? Text.isDigit s
  let rest ← Text.after? closing (s.dropWhile Text.isBlank)
  return (rule, digits, rest)

theorem length_dropWhile_le (p : Char → Bool) (s : Text) :
    (s.dropWhile p).length ≤ s.length := by
  have := congrArg List.length (List.takeWhile_append_dropWhile (p := p) (l := s))
  simp only [List.length_append] at this
  omega

theorem length_after?_le {phrase s rest : Text} (h : Text.after? phrase s = some rest) :
    rest.length ≤ s.length := by
  have := congrArg List.length (Text.after?_eq_some_iff.1 h)
  simp only [List.length_append] at this
  omega

theorem length_run1?_le {p : Char → Bool} {s run rest : Text}
    (h : run1? p s = some (run, rest)) : rest.length ≤ s.length := by
  simp only [run1?] at h
  split at h
  · simp at h
  · simp only [Option.some.injEq, Prod.mk.injEq] at h
    obtain ⟨_, rfl⟩ := h
    exact length_dropWhile_le p s

theorem length_read?_lt {s rule digits rest : Text} (h : read? s = some (rule, digits, rest)) :
    rest.length < s.length := by
  simp only [read?, bind, Option.bind_eq_some_iff, Prod.exists, pure, Option.some.injEq,
    Prod.mk.injEq] at h
  obtain ⟨s₁, h₁, s₂, h₂, _, s₃, h₃, _, s₄, h₄, _, s₅, h₅, _, s₆, h₆, s₇, h₇, _, _, rfl⟩ := h
  have l₁ := congrArg List.length (Text.after?_eq_some_iff.1 h₁)
  simp only [opening, List.length_append, List.length_cons, List.length_nil] at l₁
  have l₂ := length_after?_le h₂
  have l₃ := length_run1?_le h₃
  have l₄ := length_run1?_le h₄
  have l₅ := length_run1?_le h₅
  have l₆ := length_run1?_le h₆
  have l₇ := length_after?_le h₇
  have b₁ := length_dropWhile_le Text.isBlank s₁
  have b₆ := length_dropWhile_le Text.isBlank s₆
  omega

/-- All directives in a text from an offset on, whatever rules they name. -/
def written (pos : Nat) (s : Text) : List WrittenDirective :=
  match s with
  | [] => []
  | c :: rest =>
      match _read : read? (c :: rest) with
      | some (rule, digits, after) =>
          let stop := pos + ((c :: rest).length - after.length)
          ⟨rule, digits, pos, stop⟩ :: written stop after
      | none => written (pos + 1) rest
termination_by s.length
decreasing_by
  · exact length_read?_lt _read
  · simp

/-- The numbers of some directives as written. -/
def readAll : List WrittenDirective → Except NumeralTooLong (List Directive)
  | [] => .ok []
  | w :: ws =>
      match Text.readNat w.digits with
      | .error fault => .error fault
      | .ok count => (readAll ws).map (⟨count, ⟨w.start, w.stop⟩⟩ :: ·)

/-- The directives in a text that name a given rule, in order. -/
def find (text : Text) (rule : String) : Except NumeralTooLong (List Directive) :=
  readAll ((written 0 text).filter fun w => w.rule == rule.toList)

end Directive

end MarkupAudit
