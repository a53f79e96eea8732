import MarkupAudit.Markup.Reading
import MarkupAudit.Template.Document

/-!
# Tags

The view of a tag node that rules work with. The code blocks in a tag are masked by placeholders, the
masked text is read as markup, and the placeholders in the values of attributes are mapped back to
their blocks. A placeholder in the name of an attribute means that the tag has attributes that cannot
be known.
-/

namespace MarkupAudit

/-- A piece of the value of an attribute: text as written, or the code block it comes from. -/
inductive Fragment where
  | literal (text : Text)
  | code (block : Node)

/-- A tag: its name in lower case and its attributes in order. -/
structure Tag where
  name : Text
  attributes : List (Text × List Fragment)
  closing : Bool
  selfClosing : Bool
  dynamic : Bool
  span : Span

/-- Why a node gives no tag. -/
inductive TagError where
  /-- The node is not a tag. -/
  | notATag (kind : NodeKind)
  /-- The markup of the tag is rejected. -/
  | rejected (reason : Rejection)
  /-- A placeholder has too many digits. -/
  | numeral (fault : NumeralTooLong)
  /-- A placeholder names a block that the tag does not have. -/
  | noBlock (index : Nat)
  deriving DecidableEq, Repr

/-- The fault in words. -/
def TagError.message : TagError → String
  | .notATag kind => "Cannot build a Tag from a '" ++ kind.label ++ "' node"
  | .rejected reason => reason.message
  | .numeral fault => fault.message
  | .noBlock index =>
      if index < Nat.pow 2 63 then "tuple index out of range"
      else "cannot fit 'int' into an index-sized integer"

namespace Placeholder

/-- The text that a placeholder starts with. -/
def opening : Text := "__template_auditor_code_".toList

/-- The text that a placeholder ends with. -/
def closing : Text := ['_', '_']

/-- The placeholder of the block with a given index. -/
def render (index : Nat) : Text :=
  opening ++ Text.ofNat index ++ closing

/-- Reads the placeholder at the head of a text: its digits, and the rest. -/
def read? (s : Text) : Option (Text × Text) :=
  match Text.after? opening s with
  | none => none
  | some body =>
      let digits := body.takeWhile Text.isDigit
      if digits.isEmpty then none
      else (Text.after? closing (body.dropWhile Text.isDigit)).map fun rest => (digits, rest)

/-- Whether a text holds a placeholder. -/
def occursIn : Text → Bool
  | [] => false
  | c :: s => (read? (c :: s)).isSome || occursIn s

theorem length_read?_lt {s digits rest : Text} (h : read? s = some (digits, rest)) :
    rest.length < s.length := by
  simp only [read?] at h
  split at h
  · simp at h
  · rename_i body hbody
    have hs := congrArg List.length (Text.after?_eq_some_iff.1 hbody)
    split at h
    · simp at h
    · simp only [Option.map_eq_some_iff, Prod.mk.injEq] at h
      obtain ⟨_, hclose, _, rfl⟩ := h
      have hc := congrArg List.length (Text.after?_eq_some_iff.1 hclose)
      have hd : (body.dropWhile Text.isDigit).length ≤ body.length := by
        have := congrArg List.length (List.takeWhile_append_dropWhile (p := Text.isDigit) (l := body))
        simp only [List.length_append] at this
        omega
      simp only [List.length_append, closing, List.length_cons, List.length_nil] at hs hc
      omega

end Placeholder

namespace Tag

/-- A text with the code blocks in it replaced by placeholders. `pos` is the offset of the text, and
`index` the number of the first block. -/
def maskFrom (pos : Int) (index : Nat) (source : Text) : List Node → Text
  | [] => source
  | block :: blocks =>
      source.take (block.span.start - pos).toNat ++ Placeholder.render index ++
        maskFrom block.span.stop (index + 1) (source.drop (block.span.stop - pos).toNat) blocks

/-- The text of a tag with placeholders for its code blocks. -/
def mask (n : Node) : Text :=
  maskFrom n.span.start 0 n.source n.children

/-- Puts a character before fragments: it joins the literal there, or becomes one of its own. -/
def joinLiteral (c : Char) : List Fragment → List Fragment
  | .literal t :: fs => .literal (c :: t) :: fs
  | fs => .literal [c] :: fs

/-- The block with the index that digits write. -/
def block (blocks : List Node) (digits : Text) : Except TagError Node :=
  match Text.readNat digits with
  | .error fault => .error (.numeral fault)
  | .ok index =>
      match blocks[index]? with
      | some b => .ok b
      | none => .error (.noBlock index)

/-- Cuts a text at its placeholders. -/
def pieces (blocks : List Node) (value : Text) : Except TagError (List Fragment) :=
  match value with
  | [] => .ok []
  | c :: s =>
      match _read : Placeholder.read? (c :: s) with
      | some (digits, rest) =>
          match block blocks digits with
          | .error e => .error e
          | .ok b => (pieces blocks rest).map (.code b :: ·)
      | none => (pieces blocks s).map (joinLiteral c)
termination_by value.length
decreasing_by
  · exact Placeholder.length_read?_lt _read
  · simp

/-- The fragments of the value of an attribute. An empty value is one empty literal. -/
def fragments (blocks : List Node) (value : Text) : Except TagError (List Fragment) :=
  (pieces blocks value).map fun fs => if fs.isEmpty then [.literal []] else fs

/-- Gives an attribute its value: in its first place if the name is already there, else at the
end. -/
def put {α : Type} (name : Text) (value : α) : List (Text × α) → List (Text × α)
  | [] => [(name, value)]
  | (n, v) :: rest => if n = name then (n, value) :: rest else (n, v) :: put name value rest

/-- The attributes of a start tag by name: the last value of a name counts, in its first place. -/
def merged (attributes : List (Text × Option Text)) : List (Text × Text) :=
  attributes.foldl (fun m (name, value) => put name (value.getD []) m) []

/-- The attributes of a tag as fragments, without those whose name holds a placeholder. -/
def fragmented (blocks : List Node) :
    List (Text × Text) → Except TagError (List (Text × List Fragment))
  | [] => .ok []
  | (name, value) :: rest =>
      if Placeholder.occursIn name then fragmented blocks rest
      else
        match fragments blocks value with
        | .error e => .error e
        | .ok fs => (fragmented blocks rest).map ((name, fs) :: ·)

/-- The name at the start of the text of a tag. -/
def nameOf (masked : Text) : Text :=
  let body := (masked.drop (if masked.take 2 = ['<', '/'] then 2 else 1)).dropWhile Text.isBlank
  Text.lower (body.takeWhile fun c => !(Text.isBlank c || c = '/' || c = '>'))

/-- The tag of a tag node. -/
def ofNode (n : Node) : Except TagError Tag :=
  if n.kind ≠ .tag then .error (.notATag n.kind)
  else
    let masked := mask n
    let name := nameOf masked
    if masked.take 2 = ['<', '/'] then
      .ok
        { name := name, attributes := [], closing := true, selfClosing := false, dynamic := false
          span := n.span }
    else
      match Markup.firstTag? masked with
      | .error r => .error (.rejected r)
      | .ok start? =>
          let attributes := merged ((start?.map (·.attributes)).getD [])
          match fragmented n.children attributes with
          | .error e => .error e
          | .ok fs =>
              .ok
                { name := name
                  attributes := fs
                  closing := false
                  selfClosing := (Text.trimEnd masked.dropLast).getLast? == some '/'
                  dynamic := attributes.any fun a => Placeholder.occursIn a.1
                  span := n.span }

/-- The fragments of an attribute, none if the tag does not have it. -/
def valueOf (t : Tag) (name : Text) : List Fragment :=
  ((t.attributes.find? fun a => a.1 = Text.lower name).map (·.2)).getD []

/-- Whether a tag opens an element of the given name. -/
def opens (t : Tag) (name : Text) : Bool :=
  !t.closing && t.name == name

/-- Whether a tag closes an element of the given name. -/
def closes (t : Tag) (name : Text) : Bool :=
  t.closing && t.name == name

/-- The tags of some nodes, in order. -/
def ofNodes : List Node → Except TagError (List Tag)
  | [] => .ok []
  | n :: ns =>
      match ofNode n with
      | .error e => .error e
      | .ok t => (ofNodes ns).map (t :: ·)

end Tag

/-- All tags of a document, in document order. -/
def Document.tags (d : Document) : Except TagError (List Tag) :=
  Tag.ofNodes (d.descendants (some .tag))

end MarkupAudit
