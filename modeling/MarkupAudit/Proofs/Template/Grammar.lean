import MarkupAudit.Template.Piece

/-!
# The grammar of templates

What a code block, a comment and a tag are, said without a scanner. A scanner looks for the end of
what it has met; the grammar says which end is the right one: the first closing delimiter that is
not hidden by a bracket, a quotation mark or a code block. What hides a delimiter is a matter of the
text before it, and is said by a state that is a fold over that text (`CodeState`, `TagState`).

Each scanner of `MarkupAudit.Template.Piece` cuts off exactly what the grammar describes
(`code?_eq_some_iff`, `comment?_eq_some_iff`, `tag_eq_ok_iff`), and reading a template is exactly
the relation `Reads` (`pieces_eq_ok_iff`).
-/

namespace MarkupAudit

/-! ### The first end -/

/-- The phrase behind `body` is an end, and no occurrence of it before is one. An occurrence is an end
if the text before it is `free`. -/
def EndsFirst (free : Text → Prop) (phrase body : Text) : Prop :=
  free body ∧
    ∀ front back, body = front ++ back → back ≠ [] → free front → ¬ phrase <+: back ++ phrase

/-- `before` is the part of a text up to and including its first end, and `rest` is what stands
behind. -/
def CutsFirst (free : Text → Prop) (phrase s before rest : Text) : Prop :=
  ∃ body, before = body ++ phrase ∧ s = before ++ rest ∧ EndsFirst free phrase body

section FirstEnd

variable {free : Text → Prop} {phrase body s before rest : Text} {c : Char}

theorem endsFirst_nil : EndsFirst free phrase [] ↔ free [] := by
  constructor
  · exact fun h => h.1
  · intro here
    refine ⟨here, ?_⟩
    intro front back hsplit hback
    exact absurd (List.append_eq_nil_iff.1 hsplit.symm).2 hback

/-- The phrase does not end the text at its first character, and behind that the end is again the
first. -/
theorem endsFirst_cons :
    EndsFirst free phrase (c :: body) ↔
      ¬ (free [] ∧ phrase <+: c :: (body ++ phrase)) ∧
        EndsFirst (fun front => free (c :: front)) phrase body := by
  constructor
  · rintro ⟨atEnd, first⟩
    refine ⟨fun h => first [] (c :: body) rfl (by simp) h.1 h.2, atEnd, ?_⟩
    intro front back hsplit hback hfree
    exact first (c :: front) back (by rw [hsplit]; rfl) hback hfree
  · rintro ⟨here, atEnd, first⟩
    refine ⟨atEnd, ?_⟩
    intro front back hsplit hback hfree
    cases front with
    | nil =>
        have hall : back = c :: body := hsplit.symm
        subst hall
        exact fun h => here ⟨hfree, h⟩
    | cons d front =>
        rw [List.cons_append, List.cons.injEq] at hsplit
        obtain ⟨rfl, hbody⟩ := hsplit
        exact first front back hbody hback hfree

theorem not_cutsFirst_nil (nonempty : phrase ≠ []) : ¬ CutsFirst free phrase [] before rest := by
  rintro ⟨body, rfl, hs, -⟩
  have hbody := (List.append_eq_nil_iff.1 hs.symm).1
  exact nonempty (List.append_eq_nil_iff.1 hbody).2

/-- An end at the head of a text is its first. -/
theorem cutsFirst_starts (here : free []) (hphrase : phrase <+: s) :
    CutsFirst free phrase s before rest ↔ before = phrase ∧ s = phrase ++ rest := by
  constructor
  · rintro ⟨body, rfl, rfl, first⟩
    cases body with
    | nil => exact ⟨rfl, rfl⟩
    | cons c body =>
        refine absurd ⟨here, ?_⟩ (endsFirst_cons.1 first).1
        -- the occurrence lies within `before`, whatever stands behind
        refine List.prefix_of_prefix_length_le hphrase (List.prefix_append _ rest) ?_
        rw [List.length_cons, List.length_append]
        omega
  · rintro ⟨rfl, rfl⟩
    exact ⟨[], rfl, rfl, endsFirst_nil.2 here⟩

/-- A character at which there is no end is passed over. -/
theorem cutsFirst_cons (here : ¬ (free [] ∧ phrase <+: c :: s)) :
    CutsFirst free phrase (c :: s) before rest ↔
      ∃ more, before = c :: more ∧ CutsFirst (fun front => free (c :: front)) phrase s more rest := by
  constructor
  · rintro ⟨body, rfl, hs, first⟩
    cases body with
    | nil => exact absurd ⟨endsFirst_nil.1 first, rest, hs.symm⟩ here
    | cons d body =>
        rw [List.cons_append, List.cons_append, List.cons.injEq] at hs
        obtain ⟨rfl, rfl⟩ := hs
        exact ⟨body ++ phrase, rfl, body, rfl, rfl, (endsFirst_cons.1 first).2⟩
  · rintro ⟨more, rfl, body, rfl, rfl, first⟩
    refine ⟨c :: body, rfl, rfl, endsFirst_cons.2 ⟨?_, first⟩⟩
    rintro ⟨hfree, hphrase⟩
    exact here ⟨hfree, hphrase.trans ⟨rest, by simp⟩⟩

end FirstEnd

/-- What a scanner finds behind some characters, with these put before it. -/
theorem Scan.map_append_eq_some_iff (front : Text) {o : Option (Text × Text)} {block rest : Text} :
    (o.map fun (b, after) => (front ++ b, after)) = some (block, rest) ↔
      ∃ more, block = front ++ more ∧ o = some (more, rest) := by
  constructor
  · intro ho
    obtain ⟨⟨more, after⟩, hmore, heq⟩ := Option.map_eq_some_iff.1 ho
    simp only [Prod.mk.injEq] at heq
    obtain ⟨rfl, rfl⟩ := heq
    exact ⟨more, rfl, hmore⟩
  · rintro ⟨more, rfl, hmore⟩
    rw [hmore]
    rfl

/-- A delimited text is cut off behind its opener as a text is cut off behind its first end. -/
theorem exists_append_cutsFirst_iff {free : Text → Prop} {opener phrase tail source rest : Text} :
    (∃ more, source = opener ++ more ∧ CutsFirst free phrase tail more rest) ↔
      (∃ body, source = opener ++ body ++ phrase ∧ EndsFirst free phrase body) ∧
        opener ++ tail = source ++ rest := by
  constructor
  · rintro ⟨more, rfl, body, rfl, rfl, first⟩
    exact ⟨⟨body, by simp only [List.append_assoc], first⟩, by simp only [List.append_assoc]⟩
  · rintro ⟨⟨body, rfl, first⟩, hs⟩
    rw [List.append_assoc, List.append_assoc, List.append_cancel_left_eq] at hs
    refine ⟨body ++ phrase, by rw [List.append_assoc], body, rfl, ?_, first⟩
    rw [hs, List.append_assoc]

/-! ### Code blocks -/

/-- What the text of a code block says about the place behind it: how many brackets are open, which
quotation mark is open, and whether the next character is taken along by a backslash. -/
structure CodeState where
  depth : Nat := 0
  quote : Option Char := none
  escaped : Bool := false

namespace CodeState

/-- The state behind one more character. -/
def step (σ : CodeState) (c : Char) : CodeState :=
  if σ.escaped then { σ with escaped := false }
  else
    match σ.quote with
    | some q =>
        if c = '\\' then { σ with escaped := true }
        else if c = q then { σ with quote := none }
        else σ
    | none =>
        if Scan.isQuote c then { σ with quote := some c }
        else if Scan.isOpenBracket c then { σ with depth := σ.depth + 1 }
        else if Scan.isCloseBracket c then { σ with depth := σ.depth - 1 }
        else σ

/-- The state behind a text. -/
def run (σ : CodeState) (s : Text) : CodeState :=
  s.foldl step σ

/-- Nothing hides a delimiter here: no bracket and no quotation mark is open. -/
def Bare (σ : CodeState) : Prop :=
  σ.depth = 0 ∧ σ.quote = none ∧ σ.escaped = false

end CodeState

/-- The source of a code block: it ends with the first closing delimiter that nothing hides. -/
def IsCode (kind : CodeKind) (source : Text) : Prop :=
  ∃ inner, source = kind.opener ++ inner ++ kind.closer ∧
    EndsFirst (fun front => (CodeState.run {} front).Bare) kind.closer inner

namespace Scan

theorem atCloser_iff {kind : CodeKind} {s : Text} : atCloser kind s = true ↔ kind.closer <+: s := by
  rcases s with _ | ⟨a, _ | ⟨b, s⟩⟩ <;> cases kind <;> simp [atCloser, CodeKind.closer]
  all_goals grind [atCloser]

/-- What stands behind a closing delimiter, as the scanner takes it. -/
theorem cons_eq_closer_append {kind : CodeKind} {c : Char} {s : Text}
    (h : kind.closer <+: c :: s) : c :: s = kind.closer ++ s.drop 1 := by
  obtain ⟨behind, hbehind⟩ := h
  cases kind <;> (cases hbehind; rfl)

/-- Whether a closing delimiter at the head of a text ends the block, as the scanner asks it. -/
theorem closes_iff {kind : CodeKind} {depth : Nat} {s : Text} :
    (depth = 0 && atCloser kind s) = true ↔
      (⟨depth, none, false⟩ : CodeState).Bare ∧ kind.closer <+: s := by
  rw [Bool.and_eq_true, decide_eq_true_iff, atCloser_iff]
  simp [CodeState.Bare]

/-- A code block seen from the state that the text before has left. -/
private abbrev CutsCode (kind : CodeKind) (σ : CodeState) : Text → Text → Text → Prop :=
  CutsFirst (fun front => (σ.run front).Bare) kind.closer

/-- A step of the scanner over a character that does not end the block. -/
private theorem codeTail?_step {kind : CodeKind} {σ : CodeState} {o : Option (Text × Text)} {c : Char}
    {s block rest : Text} (here : ¬ (σ.Bare ∧ kind.closer <+: c :: s))
    (ih : ∀ more, o = some (more, rest) ↔ CutsCode kind (σ.step c) s more rest) :
    (o.map fun (b, after) => (c :: b, after)) = some (block, rest) ↔
      CutsCode kind σ (c :: s) block rest := by
  refine (map_append_eq_some_iff [c]).trans (Iff.trans ?_ (cutsFirst_cons here).symm)
  exact exists_congr fun more => and_congr_right fun _ => ih more

/-- The scanner for code cuts behind the first closing delimiter that nothing hides. -/
theorem codeTail?_eq_some_iff {kind : CodeKind} {depth : Nat} {quote : Option Char}
    {s block rest : Text} :
    codeTail? kind depth quote s = some (block, rest) ↔
      CutsFirst (fun front => (CodeState.run ⟨depth, quote, false⟩ front).Bare) kind.closer
        s block rest := by
  have hcloser : kind.closer ≠ [] := by cases kind <;> simp [CodeKind.closer]
  -- one case for each way the scanner can go on
  fun_induction codeTail? kind depth quote s generalizing block with
  | case1 => simp [not_cutsFirst_nil hcloser]
  | case2 depth q =>
      rw [cutsFirst_cons (by simp [CodeState.Bare, CodeState.run])]
      simp [not_cutsFirst_nil hcloser]
  | case3 depth q d after ih =>
      rw [cutsFirst_cons (by simp [CodeState.Bare, CodeState.run])]
      refine (map_append_eq_some_iff ['\\', d]).trans ?_
      have escaped : ¬ ((CodeState.step ⟨depth, some q, false⟩ '\\').Bare ∧
          kind.closer <+: d :: after) := by simp [CodeState.Bare, CodeState.step]
      constructor
      · rintro ⟨more, rfl, hmore⟩
        exact ⟨d :: more, rfl, (cutsFirst_cons escaped).2 ⟨more, rfl, ih.1 hmore⟩⟩
      · rintro ⟨_, rfl, hcut⟩
        obtain ⟨more, rfl, hmore⟩ := (cutsFirst_cons escaped).1 hcut
        exact ⟨more, rfl, ih.2 hmore⟩
  | case4 depth q after hq ih =>
      refine codeTail?_step (by simp [CodeState.Bare]) fun more => ?_
      simpa [CodeState.step, hq] using ih
  | case5 depth q c after hescape hq ih =>
      refine codeTail?_step (by simp [CodeState.Bare]) fun more => ?_
      simpa [CodeState.step, hescape, hq] using ih
  | case6 depth c after closed =>
      obtain ⟨bare, closer⟩ := closes_iff.1 closed
      rw [cutsFirst_starts bare closer, cons_eq_closer_append closer,
        List.append_cancel_left_eq, Option.some.injEq, Prod.mk.injEq, eq_comm]
  | case7 depth c after hopen quoted ih =>
      refine codeTail?_step (mt closes_iff.2 hopen) fun more => ?_
      simpa [CodeState.step, quoted] using ih
  | case8 depth c after hopen quoted bracket ih =>
      refine codeTail?_step (mt closes_iff.2 hopen) fun more => ?_
      simpa [CodeState.step, quoted, bracket] using ih
  | case9 depth c after hopen quoted bracket closing ih =>
      refine codeTail?_step (mt closes_iff.2 hopen) fun more => ?_
      simpa [CodeState.step, quoted, bracket, closing] using ih
  | case10 depth c after hopen quoted bracket closing ih =>
      refine codeTail?_step (mt closes_iff.2 hopen) fun more => ?_
      simpa [CodeState.step, quoted, bracket, closing] using ih

/-- The scanner for a code block, on a text that starts with one. -/
theorem code?_eq_some_iff {kind : CodeKind} {s block rest : Text} (opened : kind.opener <+: s) :
    code? kind s = some (block, rest) ↔ IsCode kind block ∧ s = block ++ rest := by
  obtain ⟨tail, rfl⟩ := opened
  have hdrop : (kind.opener ++ tail).drop 2 = tail := by cases kind <;> rfl
  rw [code?, hdrop]
  refine (map_append_eq_some_iff kind.opener).trans (Iff.trans ?_ exists_append_cutsFirst_iff)
  exact exists_congr fun more => and_congr_right fun _ => codeTail?_eq_some_iff

end Scan

/-! ### Comments -/

/-- The source of a comment: it ends with the first closing delimiter behind the opener. -/
def IsComment (kind : CommentKind) (source : Text) : Prop :=
  ∃ body, source = kind.opener ++ body ++ kind.closer ∧
    EndsFirst (fun _ => True) kind.closer body

theorem IsComment.opened {kind : CommentKind} {s : Text} (h : IsComment kind s) :
    kind.opener <+: s := by
  obtain ⟨body, rfl, -⟩ := h
  exact ⟨body ++ kind.closer, by rw [List.append_assoc]⟩

theorem IsComment.length_pos {kind : CommentKind} {s : Text} (h : IsComment kind s) :
    0 < s.length := by
  obtain ⟨tail, rfl⟩ := h.opened
  cases kind <;> simp [CommentKind.opener]

/-- Cutting behind a phrase cuts behind its first occurrence. -/
theorem Text.splitAfter?_eq_some_iff {phrase s before rest : Text} (nonempty : phrase ≠ []) :
    Text.splitAfter? phrase s = some (before, rest) ↔
      CutsFirst (fun _ => True) phrase s before rest := by
  induction s generalizing before with
  | nil =>
      have hempty : phrase.isEmpty = false := by simpa using nonempty
      simp [Text.splitAfter?, hempty, not_cutsFirst_nil nonempty]
  | cons c s ih =>
      rw [Text.splitAfter?]
      split
      · rename_i tail htail
        have hs := Text.after?_eq_some_iff.1 htail
        rw [cutsFirst_starts trivial ⟨tail, hs.symm⟩, hs, List.append_cancel_left_eq,
          Option.some.injEq, Prod.mk.injEq, eq_comm]
      · rename_i hnone
        have here : ¬ (True ∧ phrase <+: c :: s) := by
          rintro ⟨-, tail, htail⟩
          rw [Text.after?_eq_some_iff.2 htail.symm] at hnone
          exact absurd hnone (by simp)
        rw [cutsFirst_cons here]
        refine (Scan.map_append_eq_some_iff [c]).trans ?_
        exact exists_congr fun more => and_congr_right fun _ => ih

namespace Scan

/-- The scanner for a comment, on a text that starts with one. -/
theorem comment?_eq_some_iff {kind : CommentKind} {s source rest : Text}
    (opened : kind.opener <+: s) :
    comment? kind s = some (source, rest) ↔ IsComment kind source ∧ s = source ++ rest := by
  obtain ⟨tail, rfl⟩ := opened
  have hcloser : kind.closer ≠ [] := by cases kind <;> simp [CommentKind.closer]
  rw [comment?, List.drop_left]
  refine (map_append_eq_some_iff kind.opener).trans (Iff.trans ?_ exists_append_cutsFirst_iff)
  exact exists_congr fun more => and_congr_right fun _ => Text.splitAfter?_eq_some_iff hcloser

end Scan

/-! ### Tags -/

/-- What stands in a tag between its first character and its last: characters and code blocks. -/
inductive TagItem where
  | char (c : Char)
  | code (source : Text)
  deriving DecidableEq, Repr

namespace TagItem

/-- The text of an item. -/
def source : TagItem → Text
  | .char c => [c]
  | .code s => s

/-- The text of some items. -/
def sources (items : List TagItem) : Text :=
  items.flatMap source

/-- The code blocks among some items, each with its offset in their text. -/
def insets : List TagItem → List Inset
  | [] => []
  | .char _ :: items => (insets items).map fun i => { i with offset := i.offset + 1 }
  | .code s :: items => ⟨0, s⟩ :: (insets items).map fun i => { i with offset := i.offset + s.length }

end TagItem

/-- What the items of a tag say about the place behind them: which quotation mark is open, and whether
one would open here, because nothing but blanks stands behind a `=`. -/
structure TagState where
  quote : Option Char := none
  afterEquals : Bool := false

namespace TagState

/-- The state behind one more item. -/
def step (τ : TagState) : TagItem → TagState
  | .code _ => { τ with afterEquals := false }
  | .char c =>
      match τ.quote with
      | some q => { τ with quote := if c = q then none else some q }
      | none =>
          ⟨if τ.afterEquals && Scan.isQuote c then some c else none,
            c = '=' || (τ.afterEquals && Text.isBlank c)⟩

/-- The state behind some items. -/
def run (τ : TagState) (items : List TagItem) : TagState :=
  items.foldl step τ

end TagState

/-- The `>` behind some items ends the tag, and no `>` before it does. The blocks among the items are
all the code blocks that are met. -/
structure TagEnds (τ : TagState) (items : List TagItem) : Prop where
  unquoted : (τ.run items).quote = none
  blocks : ∀ s, TagItem.code s ∈ items → ∃ kind, IsCode kind s
  first : ∀ front c back, items = front ++ .char c :: back →
    ¬ (c = '>' ∧ (τ.run front).quote = none)
  all : ∀ front c back, items = front ++ .char c :: back →
    ∀ kind : CodeKind, ¬ kind.opener <+: c :: (TagItem.sources back ++ ['>'])

/-- A text that starts with the opener of a tag. -/
def StartsTag (s : Text) : Prop :=
  ∃ c, Text.isLetter c = true ∧ (['<', c] <+: s ∨ ['<', '/', c] <+: s)

theorem StartsTag.append {s : Text} (h : StartsTag s) (rest : Text) : StartsTag (s ++ rest) := by
  obtain ⟨c, hc, h | h⟩ := h
  · exact ⟨c, hc, .inl (h.trans (List.prefix_append s rest))⟩
  · exact ⟨c, hc, .inr (h.trans (List.prefix_append s rest))⟩

/-- The opener of a tag lies within the tag. -/
theorem StartsTag.of_append {body rest : Text} (h : StartsTag ('<' :: (body ++ ['>'] ++ rest))) :
    StartsTag ('<' :: (body ++ ['>'])) := by
  obtain ⟨c, hc, h | h⟩ := h
  · refine ⟨c, hc, .inl ?_⟩
    refine List.prefix_of_prefix_length_le h ⟨rest, rfl⟩ ?_
    simp
  · refine ⟨c, hc, .inr ?_⟩
    cases body with
    | nil => simp at h
    | cons d body =>
        refine List.prefix_of_prefix_length_le h ⟨rest, rfl⟩ ?_
        simp

/-- The source of a tag with the given items. -/
def IsTag (source : Text) (items : List TagItem) : Prop :=
  source = '<' :: (TagItem.sources items ++ ['>']) ∧ StartsTag source ∧ TagEnds {} items

section TagEnd

variable {τ : TagState} {items : List TagItem} {c : Char} {s : Text}

theorem tagEnds_nil : TagEnds τ [] ↔ τ.quote = none := by
  constructor
  · exact fun h => h.unquoted
  · exact fun h => ⟨h, by simp, by simp, by simp⟩

theorem tagEnds_char :
    TagEnds τ (.char c :: items) ↔
      ¬ (c = '>' ∧ τ.quote = none) ∧
        (∀ kind : CodeKind, ¬ kind.opener <+: c :: (TagItem.sources items ++ ['>'])) ∧
          TagEnds (τ.step (.char c)) items := by
  constructor
  · intro h
    refine ⟨h.first [] c items rfl, h.all [] c items rfl, h.unquoted, ?_, ?_, ?_⟩
    · exact fun s hs => h.blocks s (List.mem_cons_of_mem _ hs)
    · intro front d back hsplit
      exact h.first (.char c :: front) d back (by rw [hsplit]; rfl)
    · intro front d back hsplit
      exact h.all (.char c :: front) d back (by rw [hsplit]; rfl)
  · rintro ⟨here, plain, h⟩
    refine ⟨h.unquoted, ?_, ?_, ?_⟩
    · intro s hs
      exact h.blocks s (by simpa using hs)
    · intro front d back hsplit
      cases front with
      | nil => cases hsplit; exact here
      | cons i front => cases hsplit; exact h.first front d back rfl
    · intro front d back hsplit
      cases front with
      | nil => cases hsplit; exact plain
      | cons i front => cases hsplit; exact h.all front d back rfl

theorem tagEnds_code :
    TagEnds τ (.code s :: items) ↔
      (∃ kind, IsCode kind s) ∧ TagEnds (τ.step (.code s)) items := by
  constructor
  · intro h
    refine ⟨h.blocks s (by simp), h.unquoted, ?_, ?_, ?_⟩
    · exact fun t ht => h.blocks t (List.mem_cons_of_mem _ ht)
    · intro front d back hsplit
      exact h.first (.code s :: front) d back (by rw [hsplit]; rfl)
    · intro front d back hsplit
      exact h.all (.code s :: front) d back (by rw [hsplit]; rfl)
  · rintro ⟨hcode, h⟩
    refine ⟨h.unquoted, ?_, ?_, ?_⟩
    · intro t ht
      rcases List.mem_cons.1 ht with heq | ht
      · cases heq; exact hcode
      · exact h.blocks t ht
    · intro front d back hsplit
      cases front with
      | nil => cases hsplit
      | cons i front => cases hsplit; exact h.first front d back rfl
    · intro front d back hsplit
      cases front with
      | nil => cases hsplit
      | cons i front => cases hsplit; exact h.all front d back rfl

end TagEnd

theorem IsCode.opened {kind : CodeKind} {s : Text} (h : IsCode kind s) :
    kind.opener <+: s := by
  obtain ⟨inner, rfl, -⟩ := h
  exact ⟨inner ++ kind.closer, by rw [List.append_assoc]⟩

theorem IsCode.length_pos {kind : CodeKind} {s : Text} (h : IsCode kind s) : 0 < s.length := by
  obtain ⟨tail, rfl⟩ := h.opened
  cases kind <;> simp [CodeKind.opener]

theorem IsTag.length_pos {s : Text} {items : List TagItem} (h : IsTag s items) : 0 < s.length := by
  rw [h.1]
  simp

theorem CodeKind.eq_of_starts {kind kind' : CodeKind} {s : Text} (h : kind.opener <+: s)
    (h' : kind'.opener <+: s) : kind = kind' := by
  obtain ⟨tail, rfl⟩ := h
  cases kind <;> cases kind' <;> simp_all [CodeKind.opener]

/-- A text read from a state inside a tag: what belongs to the tag, and what stands behind it. -/
def CutsTag (τ : TagState) (s : Text) (t : Scan.TagCut) : Prop :=
  ∃ items, TagEnds τ items ∧ t.source = TagItem.sources items ++ ['>'] ∧
    t.insets = TagItem.insets items ∧ s = t.source ++ t.rest

section CutsTag

variable {τ : TagState} {t : Scan.TagCut} {c : Char} {s : Text}

theorem not_cutsTag_nil : ¬ CutsTag τ [] t := by
  rintro ⟨items, -, hsource, -, hs⟩
  rw [hsource] at hs
  simp at hs

/-- A `>` outside of quotation marks ends the tag. -/
theorem cutsTag_close (unquoted : τ.quote = none) :
    CutsTag τ ('>' :: s) t ↔ t = ⟨['>'], [], s⟩ := by
  constructor
  · rintro ⟨items, ends, hsource, hinsets, hs⟩
    rw [hsource] at hs
    rcases items with _ | ⟨c | b, items⟩
    · obtain ⟨source, insets, rest⟩ := t
      simp_all [TagItem.sources, TagItem.insets]
    · cases hs
      exact absurd ⟨rfl, unquoted⟩ (tagEnds_char.1 ends).1
    · obtain ⟨kind, hcode⟩ := (tagEnds_code.1 ends).1
      obtain ⟨tail, rfl⟩ := hcode.opened
      cases kind <;> cases hs
  · rintro rfl
    exact ⟨[], tagEnds_nil.2 unquoted, rfl, rfl, rfl⟩

/-- A character that starts no code block and does not end the tag is passed over. -/
theorem cutsTag_char (here : ¬ (c = '>' ∧ τ.quote = none))
    (plain : ∀ kind : CodeKind, ¬ kind.opener <+: c :: s) :
    CutsTag τ (c :: s) t ↔ ∃ u, CutsTag (τ.step (.char c)) s u ∧ t = u.cons c := by
  constructor
  · rintro ⟨items, ends, hsource, hinsets, hs⟩
    rw [hsource] at hs
    rcases items with _ | ⟨d | b, items⟩
    · cases hs
      exact absurd ⟨rfl, tagEnds_nil.1 ends⟩ here
    · cases hs
      obtain ⟨-, -, ends⟩ := tagEnds_char.1 ends
      refine ⟨⟨TagItem.sources items ++ ['>'], TagItem.insets items, t.rest⟩,
        ⟨items, ends, rfl, rfl, rfl⟩, ?_⟩
      obtain ⟨source, insets, rest⟩ := t
      simp_all [TagItem.sources, TagItem.source, TagItem.insets, Scan.TagCut.cons]
    · obtain ⟨kind, hcode⟩ := (tagEnds_code.1 ends).1
      refine absurd ?_ (plain kind)
      rw [hs]
      exact hcode.opened.trans ⟨_, by simp [TagItem.sources, TagItem.source]; rfl⟩
  · rintro ⟨u, ⟨items, ends, hsource, hinsets, rfl⟩, rfl⟩
    refine ⟨.char c :: items, tagEnds_char.2 ⟨here, ?_, ends⟩, ?_, ?_, rfl⟩
    · intro kind h
      rw [← hsource] at h
      exact plain kind (h.trans (List.prefix_append _ _))
    · simp [Scan.TagCut.cons, hsource, TagItem.sources, TagItem.source]
    · simp [Scan.TagCut.cons, hinsets, TagItem.insets]

/-- A code block is taken whole. -/
theorem cutsTag_code {kind : CodeKind} (opened : kind.opener <+: s) :
    CutsTag τ s t ↔
      ∃ block after u, IsCode kind block ∧ s = block ++ after ∧
        CutsTag { τ with afterEquals := false } after u ∧ t = u.consCode block := by
  constructor
  · rintro ⟨items, ends, hsource, hinsets, hs⟩
    rw [hsource] at hs
    rcases items with _ | ⟨d | b, items⟩
    · obtain ⟨tail, rfl⟩ := opened
      cases kind <;> cases hs
    · refine absurd ?_ ((tagEnds_char.1 ends).2.1 kind)
      have hstarts : _ <+: s := ⟨t.rest, hs.symm⟩
      refine List.prefix_of_prefix_length_le opened hstarts ?_
      cases kind <;> simp [CodeKind.opener]
    · obtain ⟨⟨kind', hcode⟩, ends⟩ := tagEnds_code.1 ends
      have hs' : s = b ++ (TagItem.sources items ++ ['>'] ++ t.rest) := by
        rw [hs]; simp [TagItem.sources, TagItem.source]
      have hkind : kind = kind' :=
        CodeKind.eq_of_starts opened (hcode.opened.trans ⟨_, hs'.symm⟩)
      subst hkind
      refine ⟨b, _, ⟨TagItem.sources items ++ ['>'], TagItem.insets items, t.rest⟩, hcode, hs',
        ⟨items, ends, rfl, rfl, rfl⟩, ?_⟩
      obtain ⟨source, insets, rest⟩ := t
      simp_all [TagItem.sources, TagItem.source, TagItem.insets, Scan.TagCut.consCode]
  · rintro ⟨block, after, u, hcode, rfl, ⟨items, ends, hsource, hinsets, rfl⟩, rfl⟩
    refine ⟨.code block :: items, tagEnds_code.2 ⟨⟨kind, hcode⟩, ends⟩, ?_, ?_, ?_⟩
    · simp [Scan.TagCut.consCode, hsource, TagItem.sources, TagItem.source]
    · simp [Scan.TagCut.consCode, hinsets, TagItem.insets]
    · simp [Scan.TagCut.consCode]

end CutsTag

namespace Scan

theorem codeOpening?_eq_some_iff {kind : CodeKind} {s : Text} :
    codeOpening? s = some kind ↔ kind.opener <+: s := by
  constructor
  · intro h
    rw [codeOpening?.eq_def] at h
    split at h <;> cases h <;> exact ⟨_, rfl⟩
  · rintro ⟨tail, rfl⟩
    cases kind <;> rfl

theorem codeOpening?_eq_none_iff {s : Text} :
    codeOpening? s = none ↔ ∀ kind : CodeKind, ¬ kind.opener <+: s := by
  rw [Option.eq_none_iff_forall_ne_some]
  exact forall_congr' fun kind => not_congr codeOpening?_eq_some_iff

/-- The code block at the head of the inside of a tag, as the scanner cuts it off. -/
private theorem cutsTag_of_code? {τ : TagState} {kind : CodeKind} {s : Text} {t : TagCut}
    (opened : codeOpening? s = some kind) :
    CutsTag τ s t ↔
      ∃ block after u, code? kind s = some (block, after) ∧
        CutsTag { τ with afterEquals := false } after u ∧ t = u.consCode block := by
  have hstarts := codeOpening?_eq_some_iff.1 opened
  rw [cutsTag_code hstarts]
  refine exists_congr fun block => exists_congr fun after => exists_congr fun u => ?_
  rw [code?_eq_some_iff hstarts, and_assoc]

/-- The scanner for the inside of a tag cuts behind the first `>` that nothing hides. -/
theorem tagTail_eq_ok_iff {quote : Option Char} {afterEquals : Bool} {s : Text} {t : TagCut} :
    tagTail quote afterEquals s = .ok t ↔ CutsTag ⟨quote, afterEquals⟩ s t := by
  fun_induction tagTail quote afterEquals s generalizing t with
  | case1 => simp [not_cutsTag_nil]
  | case2 quote afterEquals c rest kind opened hcut =>
      rw [cutsTag_of_code? opened]
      simp [hcut]
  | case3 quote afterEquals c rest kind opened block after hcut fault hfault ih =>
      rw [cutsTag_of_code? opened]
      simp [hcut, ← ih, hfault]
  | case4 quote afterEquals c rest kind opened block after hcut u hu ih =>
      rw [cutsTag_of_code? opened, Except.ok.injEq]
      constructor
      · rintro rfl
        exact ⟨block, after, u, hcut, ih.1 hu, rfl⟩
      · rintro ⟨block', after', u', hcut', hu', rfl⟩
        cases hcut.symm.trans hcut'
        cases hu.symm.trans (ih.2 hu')
        rfl
  | case5 quote afterEquals c rest plain hclose =>
      simp only [Bool.and_eq_true, Option.isNone_iff_eq_none, beq_iff_eq] at hclose
      obtain ⟨rfl, rfl⟩ := hclose
      rw [cutsTag_close rfl, Except.ok.injEq, eq_comm]
  | case6 quote afterEquals c rest plain hopen quote' afterEquals' fault hfault =>
      rename_i ih
      rw [cutsTag_char (by simpa [and_comm] using hopen) (codeOpening?_eq_none_iff.1 plain)]
      have hstep : TagState.step ⟨quote, afterEquals⟩ (.char c) = ⟨quote', afterEquals'⟩ := by
        cases quote <;> rfl
      simp [hstep, ← ih, hfault]
  | case7 quote afterEquals c rest plain hopen quote' afterEquals' u hu =>
      rename_i ih
      rw [cutsTag_char (by simpa [and_comm] using hopen) (codeOpening?_eq_none_iff.1 plain)]
      have hstep : TagState.step ⟨quote, afterEquals⟩ (.char c) = ⟨quote', afterEquals'⟩ := by
        cases quote <;> rfl
      simp [hstep, ← ih, hu, eq_comm]

/-- The scanner for a tag, on a text that starts with one. -/
theorem tag_eq_ok_iff {s : Text} {t : TagCut} (opened : StartsTag s) :
    tag s = .ok t ↔
      s = t.source ++ t.rest ∧ ∃ items, IsTag t.source items ∧
        t.insets = (TagItem.insets items).map fun i => { i with offset := i.offset + 1 } := by
  obtain ⟨tail, rfl⟩ : ∃ tail, s = '<' :: tail := by
    obtain ⟨c, -, ⟨tail, rfl⟩ | ⟨tail, rfl⟩⟩ := opened <;> exact ⟨_, rfl⟩
  have hcut : tag ('<' :: tail) = .ok t ↔ ∃ u, CutsTag {} tail u ∧ t = u.cons '<' := by
    simp only [← tagTail_eq_ok_iff, tag]
    cases htail : tagTail none false tail with
    | error fault => cases fault <;> simp
    | ok u => simp [eq_comm]
  rw [hcut]
  constructor
  · rintro ⟨u, ⟨items, ends, hsource, hinsets, rfl⟩, rfl⟩
    refine ⟨rfl, items, ⟨by simp [TagCut.cons, hsource], ?_, ends⟩, by simp [TagCut.cons, hinsets]⟩
    rw [hsource] at opened
    simpa [TagCut.cons, hsource] using opened.of_append
  · rintro ⟨hs, items, ⟨hsource, -, ends⟩, hinsets⟩
    rw [hsource] at hs
    cases hs
    refine ⟨⟨TagItem.sources items ++ ['>'], TagItem.insets items, t.rest⟩,
      ⟨items, ends, rfl, rfl, rfl⟩, ?_⟩
    obtain ⟨source, insets, rest⟩ := t
    simp_all [TagCut.cons]

end Scan

/-! ### Openers -/

/-- What it means for a text to start with an opener. -/
def Opening.Starts (s : Text) : Opening → Prop
  | .code kind => kind.opener <+: s
  | .comment kind => kind.opener <+: s
  | .tag => StartsTag s

/-- A text that starts with an opener of any kind. -/
def StartsOpener (s : Text) : Prop :=
  ∃ o : Opening, o.Starts s

namespace Scan

theorem opening?_eq_some_iff {o : Opening} {s : Text} : opening? s = some o ↔ o.Starts s := by
  constructor
  · intro h
    rw [opening?.eq_def] at h
    split at h
    · cases h; exact ⟨_, rfl⟩
    · cases h; exact ⟨_, rfl⟩
    · cases h; exact ⟨_, rfl⟩
    · cases h; exact ⟨_, rfl⟩
    · split at h
      · cases h; exact ⟨_, ‹_›, .inr ⟨_, rfl⟩⟩
      · cases h
    · split at h
      · cases h; exact ⟨_, ‹_›, .inl ⟨_, rfl⟩⟩
      · cases h
    · cases h
  · intro h
    rcases o with kind | kind | _
    · obtain ⟨tail, rfl⟩ := h
      cases kind <;> rfl
    · obtain ⟨tail, rfl⟩ := h
      cases kind <;> rfl
    · obtain ⟨c, hc, ⟨tail, rfl⟩ | ⟨tail, rfl⟩⟩ := h
      · have hbang : c ≠ '!' := by rintro rfl; exact absurd hc (by decide)
        have hslash : c ≠ '/' := by rintro rfl; exact absurd hc (by decide)
        rw [opening?.eq_def]
        split <;> simp_all
      · simp [opening?, hc]

theorem opening?_eq_none_iff {s : Text} : opening? s = none ↔ ¬ StartsOpener s := by
  rw [Option.eq_none_iff_forall_ne_some, StartsOpener, not_exists]
  exact forall_congr' fun o => not_congr opening?_eq_some_iff

end Scan

/-! ### Templates -/

/-- Reading a template piece by piece. An opener is always taken: a plain character is one at which
none starts. -/
inductive Reads : Text → List Piece → Prop
  | nil : Reads [] []
  | plain {c : Char} {s : Text} {ps : List Piece} :
      ¬ StartsOpener (c :: s) → Reads s ps → Reads (c :: s) (.plain c :: ps)
  | code {kind : CodeKind} {block s : Text} {ps : List Piece} :
      IsCode kind block → Reads s ps → Reads (block ++ s) (.code block :: ps)
  | comment {kind : CommentKind} {source s : Text} {ps : List Piece} :
      IsComment kind source → Reads s ps → Reads (source ++ s) (.comment source :: ps)
  | tag {source s : Text} {items : List TagItem} {ps : List Piece} :
      IsTag source items → Reads s ps →
        Reads (source ++ s)
          (.tag source ((TagItem.insets items).map fun i => { i with offset := i.offset + 1 }) :: ps)

namespace Scan

variable {s : Text} {c : Char} {ps : List Piece}

theorem pieces_plain (h : opening? (c :: s) = none) :
    pieces (c :: s) = prepend (.plain c) (pieces s) := by
  rw [pieces, h]

theorem pieces_code {kind : CodeKind} (h : opening? s = some (.code kind)) :
    pieces s =
      match code? kind s with
      | none => .error ⟨.code kind, 0⟩
      | some (block, after) => prepend (.code block) (pieces after) := by
  cases s with
  | nil => cases h
  | cons c s =>
      rw [pieces, h]
      dsimp only
      split <;> (rename_i hcut; rw [hcut])

theorem pieces_comment {kind : CommentKind} (h : opening? s = some (.comment kind)) :
    pieces s =
      match comment? kind s with
      | none => .error ⟨.comment kind, 0⟩
      | some (source, after) => prepend (.comment source) (pieces after) := by
  cases s with
  | nil => cases h
  | cons c s =>
      rw [pieces, h]
      dsimp only
      split <;> (rename_i hcut; rw [hcut])

theorem pieces_tag (h : opening? s = some .tag) :
    pieces s =
      match tag s with
      | .error m => .error m
      | .ok t => prepend (.tag t.source t.insets) (pieces t.rest) := by
  cases s with
  | nil => cases h
  | cons c s =>
      rw [pieces, h]
      dsimp only
      split <;> (rename_i hcut; rw [hcut])

theorem prepend_eq_ok_iff {p : Piece} {r : Except Malformed (List Piece)} :
    prepend p r = .ok ps ↔ ∃ qs, r = .ok qs ∧ ps = p :: qs := by
  cases r <;> simp [prepend, eq_comm]

theorem reads_of_pieces (h : pieces s = .ok ps) : Reads s ps := by
  fun_induction pieces s generalizing ps with
  | case1 => cases h; exact .nil
  | case2 c rest hopen ih =>
      obtain ⟨qs, hqs, rfl⟩ := prepend_eq_ok_iff.1 h
      exact .plain (opening?_eq_none_iff.1 hopen) (ih hqs)
  | case3 => cases h
  | case4 c rest kind hopen block after hcut ih =>
      obtain ⟨qs, hqs, rfl⟩ := prepend_eq_ok_iff.1 h
      obtain ⟨hcode, hs⟩ := (code?_eq_some_iff (opening?_eq_some_iff.1 hopen)).1 hcut
      rw [hs]
      exact .code hcode (ih hqs)
  | case5 => cases h
  | case6 c rest kind hopen source after hcut ih =>
      obtain ⟨qs, hqs, rfl⟩ := prepend_eq_ok_iff.1 h
      obtain ⟨hcomment, hs⟩ := (comment?_eq_some_iff (opening?_eq_some_iff.1 hopen)).1 hcut
      rw [hs]
      exact .comment hcomment (ih hqs)
  | case7 => cases h
  | case8 c rest hopen t hcut ih =>
      obtain ⟨qs, hqs, rfl⟩ := prepend_eq_ok_iff.1 h
      obtain ⟨hs, items, htag, hinsets⟩ := (tag_eq_ok_iff (opening?_eq_some_iff.1 hopen)).1 hcut
      rw [hs, hinsets]
      exact .tag htag (ih hqs)

theorem pieces_code_append {kind : CodeKind} {block : Text} (h : IsCode kind block) (rest : Text) :
    pieces (block ++ rest) = prepend (.code block) (pieces rest) := by
  have hstarts := h.opened.trans (List.prefix_append block rest)
  have hopen : opening? (block ++ rest) = some (.code kind) := opening?_eq_some_iff.2 hstarts
  rw [pieces_code hopen, (code?_eq_some_iff hstarts).2 ⟨h, rfl⟩]

theorem pieces_comment_append {kind : CommentKind} {source : Text} (h : IsComment kind source)
    (rest : Text) : pieces (source ++ rest) = prepend (.comment source) (pieces rest) := by
  have hstarts := h.opened.trans (List.prefix_append source rest)
  have hopen : opening? (source ++ rest) = some (.comment kind) := opening?_eq_some_iff.2 hstarts
  rw [pieces_comment hopen, (comment?_eq_some_iff hstarts).2 ⟨h, rfl⟩]

theorem pieces_tag_append {source : Text} {items : List TagItem} (h : IsTag source items)
    (rest : Text) :
    pieces (source ++ rest) =
      prepend (.tag source ((TagItem.insets items).map fun i => { i with offset := i.offset + 1 }))
        (pieces rest) := by
  have hstarts := h.2.1.append rest
  have hopen : opening? (source ++ rest) = some .tag := opening?_eq_some_iff.2 hstarts
  rw [pieces_tag hopen, (tag_eq_ok_iff hstarts (t := ⟨source, _, rest⟩)).2 ⟨rfl, items, h, rfl⟩]

theorem pieces_of_reads (h : Reads s ps) : pieces s = .ok ps := by
  induction h with
  | nil => rw [pieces]
  | plain hplain _ ih =>
      rw [pieces_plain (opening?_eq_none_iff.2 hplain), ih]
      rfl
  | code hcode _ ih =>
      rw [pieces_code_append hcode, ih]
      rfl
  | comment hcomment _ ih =>
      rw [pieces_comment_append hcomment, ih]
      rfl
  | tag htag _ ih =>
      rw [pieces_tag_append htag, ih]
      rfl

/-- Reading a template gives exactly the pieces that the grammar allows. -/
theorem pieces_eq_ok_iff : pieces s = .ok ps ↔ Reads s ps :=
  ⟨reads_of_pieces, pieces_of_reads⟩

end Scan

end MarkupAudit
