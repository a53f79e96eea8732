import MarkupAudit.Text.Basic

/-!
# Pieces of a template

A template is read from left to right into pieces: a plain character, a code block, a comment or a
tag. The pieces lie one after the other and together make up the template, so a piece needs no
offset of its own; `MarkupAudit.Template.Document` lays them out as nodes.

An opener is always taken: the text `{{`, `{%`, `{#`, `<!--`, or `<` or `</` with a letter behind it
starts a block, comment or tag wherever it is met, and if what it starts has no end the template is
malformed.
-/

namespace MarkupAudit

/-- The two kinds of code block: one whose value is written into the page, and a statement. -/
inductive CodeKind where
  | output
  | statement
  deriving DecidableEq, Repr

/-- The opening delimiter of a code block. -/
def CodeKind.opener : CodeKind → Text
  | .output => ['{', '{']
  | .statement => ['{', '%']

/-- The closing delimiter of a code block. -/
def CodeKind.closer : CodeKind → Text
  | .output => ['}', '}']
  | .statement => ['%', '}']

/-- The two kinds of comment: one that stays in the template, and one of the page. -/
inductive CommentKind where
  | template
  | page
  deriving DecidableEq, Repr

/-- The text that opens a comment. -/
def CommentKind.opener : CommentKind → Text
  | .template => ['{', '#']
  | .page => ['<', '!', '-', '-']

/-- The text that closes a comment. -/
def CommentKind.closer : CommentKind → Text
  | .template => ['#', '}']
  | .page => ['-', '-', '>']

/-- What was opened and never closed. -/
inductive Unterminated where
  | code (kind : CodeKind)
  | comment (kind : CommentKind)
  | tag
  deriving DecidableEq, Repr

/-- Why a template cannot be read: something opened at an offset has no end. -/
structure Malformed where
  what : Unterminated
  offset : Nat
  deriving DecidableEq, Repr

namespace Malformed

/-- The same fault seen from a point that lies some characters further left. -/
def shift (n : Nat) (m : Malformed) : Malformed :=
  { m with offset := n + m.offset }

/-- The fault in words. -/
def message (m : Malformed) : String :=
  let what :=
    match m.what with
    | .code kind => "Unterminated code block '" ++ String.ofList kind.opener ++ "'"
    | .comment kind => "Unterminated comment '" ++ String.ofList kind.opener ++ "'"
    | .tag => "Unterminated tag"
  what ++ " (at offset " ++ toString m.offset ++ ")"

end Malformed

/-- A code block inside a tag: how far from the start of the tag it begins, and its source. -/
structure Inset where
  offset : Nat
  source : Text
  deriving DecidableEq, Repr

/-- A piece of a template, with its source. -/
inductive Piece where
  | plain (c : Char)
  | code (source : Text)
  | comment (source : Text)
  | tag (source : Text) (insets : List Inset)
  deriving DecidableEq, Repr

/-- The text that a piece stands for. -/
def Piece.source : Piece → Text
  | .plain c => [c]
  | .code s => s
  | .comment s => s
  | .tag s _ => s

/-- What starts at the head of a text. -/
inductive Opening where
  | code (kind : CodeKind)
  | comment (kind : CommentKind)
  | tag
  deriving DecidableEq, Repr

namespace Scan

/-- The opener at the head of a text, if there is one. -/
def opening? : Text → Option Opening
  | '{' :: '{' :: _ => some (.code .output)
  | '{' :: '%' :: _ => some (.code .statement)
  | '{' :: '#' :: _ => some (.comment .template)
  | '<' :: '!' :: '-' :: '-' :: _ => some (.comment .page)
  | '<' :: '/' :: c :: _ => if Text.isLetter c then some .tag else none
  | '<' :: c :: _ => if Text.isLetter c then some .tag else none
  | _ => none

/-- The code block opener at the head of a text, if there is one. -/
def codeOpening? : Text → Option CodeKind
  | '{' :: '{' :: _ => some .output
  | '{' :: '%' :: _ => some .statement
  | _ => none

/-- A quotation mark. -/
def isQuote (c : Char) : Bool :=
  c = '\'' || c = '"'

/-- An opening bracket. -/
def isOpenBracket (c : Char) : Bool :=
  c = '(' || c = '[' || c = '\x7b'

/-- A closing bracket. -/
def isCloseBracket (c : Char) : Bool :=
  c = ')' || c = ']' || c = '\x7d'

/-- Whether the closing delimiter of a kind of code block stands at the head of a text. -/
def atCloser : CodeKind → Text → Bool
  | .output, '}' :: '}' :: _ => true
  | .statement, '%' :: '}' :: _ => true
  | _, _ => false

/-- Cuts a text behind the closing delimiter of a code block. The delimiter counts only outside of
quoted strings and at bracket depth zero; in a quoted string a backslash takes the next character
with it; a closing bracket at depth zero is an ordinary character. -/
def codeTail? (kind : CodeKind) : (depth : Nat) → (quote : Option Char) → Text → Option (Text × Text)
  | _, _, [] => none
  | depth, some q, c :: rest =>
      if c = '\\' then
        match rest with
        | [] => none
        | d :: rest =>
            (codeTail? kind depth (some q) rest).map fun (block, after) => (c :: d :: block, after)
      else if c = q then
        (codeTail? kind depth none rest).map fun (block, after) => (c :: block, after)
      else
        (codeTail? kind depth (some q) rest).map fun (block, after) => (c :: block, after)
  | depth, none, c :: rest =>
      if depth = 0 && atCloser kind (c :: rest) then some (kind.closer, rest.drop 1)
      else if isQuote c then
        (codeTail? kind depth (some c) rest).map fun (block, after) => (c :: block, after)
      else if isOpenBracket c then
        (codeTail? kind (depth + 1) none rest).map fun (block, after) => (c :: block, after)
      else if isCloseBracket c then
        (codeTail? kind (depth - 1) none rest).map fun (block, after) => (c :: block, after)
      else
        (codeTail? kind depth none rest).map fun (block, after) => (c :: block, after)

/-- Cuts a text that starts with a code block opener behind the end of the block. -/
def code? (kind : CodeKind) (s : Text) : Option (Text × Text) :=
  (codeTail? kind 0 none (s.drop 2)).map fun (block, rest) => (kind.opener ++ block, rest)

/-- Cuts a text that starts with a comment opener behind the end of the comment. -/
def comment? (kind : CommentKind) (s : Text) : Option (Text × Text) :=
  (Text.splitAfter? kind.closer (s.drop kind.opener.length)).map fun (body, rest) =>
    (kind.opener ++ body, rest)

theorem length_codeTail?_lt {kind : CodeKind} {depth : Nat} {quote : Option Char}
    {s block rest : Text} (h : codeTail? kind depth quote s = some (block, rest)) :
    rest.length < s.length := by
  fun_induction codeTail? kind depth quote s generalizing block rest <;>
    simp_all only [Option.map_eq_some_iff, Prod.mk.injEq, Prod.exists, reduceCtorEq,
      List.length_cons, Option.some.injEq]
  all_goals grind

theorem length_code?_lt {kind : CodeKind} {s block rest : Text}
    (h : code? kind s = some (block, rest)) : rest.length < s.length := by
  simp only [code?, Option.map_eq_some_iff, Prod.exists, Prod.mk.injEq] at h
  obtain ⟨_, _, htail, _, rfl⟩ := h
  have := length_codeTail?_lt htail
  simp only [List.length_drop] at this
  omega

theorem length_comment?_lt {kind : CommentKind} {s body rest : Text}
    (h : comment? kind s = some (body, rest)) : rest.length < s.length := by
  simp only [comment?, Option.map_eq_some_iff, Prod.exists, Prod.mk.injEq] at h
  obtain ⟨_, _, hcut, _, rfl⟩ := h
  obtain ⟨happ, start, rfl⟩ := Text.append_of_splitAfter? hcut
  have := congrArg List.length happ
  simp only [List.length_append, List.length_drop] at this
  cases kind <;> simp [CommentKind.closer, CommentKind.opener] at this <;> omega

/-- Why the end of a tag cannot be found: there is none, or a code block in it has none. -/
inductive TagFault where
  | unclosed
  | code (kind : CodeKind) (offset : Nat)
  deriving DecidableEq, Repr

/-- The same fault seen from a point that lies some characters further left. -/
def TagFault.shift (n : Nat) : TagFault → TagFault
  | .unclosed => .unclosed
  | .code kind offset => .code kind (n + offset)

/-- A tag cut off a text: its source, the code blocks in it, and the rest of the text. -/
structure TagCut where
  source : Text
  insets : List Inset
  rest : Text

namespace TagCut

/-- Puts an ordinary character before the cut part. -/
def cons (c : Char) (t : TagCut) : TagCut :=
  ⟨c :: t.source, t.insets.map fun i => { i with offset := i.offset + 1 }, t.rest⟩

/-- Puts a code block before the cut part. -/
def consCode (block : Text) (t : TagCut) : TagCut :=
  ⟨block ++ t.source,
    ⟨0, block⟩ :: t.insets.map fun i => { i with offset := i.offset + block.length }, t.rest⟩

end TagCut

/-- Cuts a text behind the `>` that ends the tag it lies in. A code block is taken whole wherever it
stands, also in a quoted value. A quotation mark opens a value only if nothing but blanks stands
between it and a `=`. -/
def tagTail (quote : Option Char) (afterEquals : Bool) (s : Text) : Except TagFault TagCut :=
  match s with
  | [] => .error .unclosed
  | c :: rest =>
      match codeOpening? (c :: rest) with
      | some kind =>
          match _cut : code? kind (c :: rest) with
          | none => .error (.code kind 0)
          | some (block, after) =>
              match tagTail quote false after with
              | .error fault => .error (fault.shift block.length)
              | .ok t => .ok (t.consCode block)
      | none =>
          if quote.isNone && c == '>' then .ok ⟨[c], [], rest⟩
          else
            let quote' :=
              match quote with
              | some q => if c = q then none else some q
              | none => if afterEquals && isQuote c then some c else none
            let afterEquals' :=
              match quote with
              | some _ => afterEquals
              | none => c = '=' || (afterEquals && Text.isBlank c)
            match tagTail quote' afterEquals' rest with
            | .error fault => .error (fault.shift 1)
            | .ok t => .ok (t.cons c)
termination_by s.length
decreasing_by
  · exact length_code?_lt _cut
  · simp

/-- Cuts a tag off a text that starts with one. -/
def tag (s : Text) : Except Malformed TagCut :=
  match s with
  | [] => .error ⟨.tag, 0⟩
  | c :: rest =>
      match tagTail none false rest with
      | .error .unclosed => .error ⟨.tag, 0⟩
      | .error (.code kind offset) => .error ⟨.code kind, offset + 1⟩
      | .ok t => .ok (t.cons c)

@[simp] theorem TagCut.rest_cons (c : Char) (t : TagCut) : (t.cons c).rest = t.rest := rfl

@[simp] theorem TagCut.rest_consCode (block : Text) (t : TagCut) :
    (t.consCode block).rest = t.rest := rfl

theorem length_tagTail_lt {quote : Option Char} {afterEquals : Bool} {s : Text} {t : TagCut}
    (h : tagTail quote afterEquals s = .ok t) : t.rest.length < s.length := by
  fun_induction tagTail quote afterEquals s generalizing t <;>
    simp_all only [Except.ok.injEq, reduceCtorEq, forall_eq'] <;> subst h
  · rename_i hcode _ _ _
    have := length_code?_lt hcode
    simp_all only [TagCut.rest_consCode]
    omega
  · simp
  · simp_all only [TagCut.rest_cons, List.length_cons]
    omega

theorem length_tag_lt {s : Text} {t : TagCut} (h : tag s = .ok t) : t.rest.length < s.length := by
  cases s with
  | nil => simp [tag] at h
  | cons c rest =>
      simp only [tag] at h
      split at h
      · simp at h
      · simp at h
      · rename_i cut hcut
        simp only [Except.ok.injEq] at h
        subst h
        have := length_tagTail_lt hcut
        simp only [TagCut.rest_cons, List.length_cons]
        omega

/-- Puts a piece before the pieces of the text behind it; a fault there is moved by the length of
the piece. -/
def prepend (p : Piece) : Except Malformed (List Piece) → Except Malformed (List Piece)
  | .ok ps => .ok (p :: ps)
  | .error m => .error (m.shift p.source.length)

/-- Reads a template into its pieces. -/
def pieces (s : Text) : Except Malformed (List Piece) :=
  match s with
  | [] => .ok []
  | c :: rest =>
      match opening? (c :: rest) with
      | none => prepend (.plain c) (pieces rest)
      | some (.code kind) =>
          match _cut : code? kind (c :: rest) with
          | none => .error ⟨.code kind, 0⟩
          | some (block, after) => prepend (.code block) (pieces after)
      | some (.comment kind) =>
          match _cut : comment? kind (c :: rest) with
          | none => .error ⟨.comment kind, 0⟩
          | some (body, after) => prepend (.comment body) (pieces after)
      | some .tag =>
          match _cut : tag (c :: rest) with
          | .error m => .error m
          | .ok t => prepend (.tag t.source t.insets) (pieces t.rest)
termination_by s.length
decreasing_by
  · simp
  · exact length_code?_lt _cut
  · exact length_comment?_lt _cut
  · exact length_tag_lt _cut

end Scan

end MarkupAudit
