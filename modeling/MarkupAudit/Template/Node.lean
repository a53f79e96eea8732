import MarkupAudit.Text.Basic
import MarkupAudit.Template.Span

/-!
# Template nodes

A parsed template is a tree of nodes. Each node knows its kind, its span in the template and the
text of that span. The tree may be walked in two ways that agree: by recursion (`Node.preorder`), or
with a list of nodes still to be visited (`Node.walk`), which is what the audit runs.
-/

namespace MarkupAudit

/-- What a node of a template is. -/
inductive NodeKind where
  | document
  | tag
  | text
  | code
  | comment
  deriving DecidableEq, Repr, Inhabited

/-- The name of a kind of node in reports. -/
def NodeKind.label : NodeKind → String
  | .document => "document"
  | .tag => "tag"
  | .text => "text"
  | .code => "embedded_code"
  | .comment => "comment"

/-- A node of a template. A tag has the code blocks of its attributes as children, a text run the
code blocks that stand in it. -/
structure Node where
  kind : NodeKind
  span : Span
  source : Text
  children : List Node
  deriving Inhabited

namespace Node

/-- The raw text of a text run, code blocks included; empty for other nodes. -/
def text (n : Node) : Text :=
  if n.kind = .text then n.source else []

/-- The opening delimiter of a code block. -/
def indicator (n : Node) : Option Text :=
  if n.kind = .code then some (n.source.take 2) else none

/-- A mark that asks for blanks around a code block to be kept or dropped. -/
def isBlankControl (c : Char) : Bool :=
  c = '-' || c = '+'

/-- A text without its first character if that is a blank control mark. -/
def dropControl : Text → Text
  | [] => []
  | c :: s => if isBlankControl c then s else c :: s

/-- The expression in a code block: what stands between the delimiters, without blank control
marks. -/
def code (n : Node) : Option Text :=
  if n.kind = .code then
    let inner := (n.source.drop 2).take (n.source.length - 4)
    some (dropControl (dropControl inner).reverse).reverse
  else none

/-- Whether a node is a code block whose value is written into the page. -/
def isOutput (n : Node) : Bool :=
  n.indicator == some ['{', '{']

/-- The code of a code block whose value is written into the page. -/
def output? (n : Node) : Option Text :=
  if n.isOutput then n.code else none

mutual

/-- The number of nodes in a tree. -/
def size : Node → Nat
  | ⟨_, _, _, children⟩ => sizeAll children + 1

/-- The number of nodes in a list of trees. -/
def sizeAll : List Node → Nat
  | [] => 0
  | n :: ns => size n + sizeAll ns

end

mutual

/-- The proper descendants of a node, each before its own descendants, siblings in order. -/
def preorder : Node → List Node
  | ⟨_, _, _, children⟩ => preorderAll children

/-- A list of nodes with all their descendants, each node before its own descendants. -/
def preorderAll : List Node → List Node
  | [] => []
  | n :: ns => n :: (preorder n ++ preorderAll ns)

end

theorem sizeAll_append (ns ms : List Node) : sizeAll (ns ++ ms) = sizeAll ns + sizeAll ms := by
  induction ns with
  | nil => simp [sizeAll]
  | cons n ns ih => simp [sizeAll, ih, Nat.add_assoc]

theorem size_eq (n : Node) : n.size = sizeAll n.children + 1 := by
  cases n
  simp [size]

/-- Visits the pending nodes in turn: each visited node is kept if `keep` holds, and its children
are put before the rest of the pending nodes. -/
def walk (keep : Node → Bool) (pending : List Node) : List Node :=
  match pending with
  | [] => []
  | n :: rest =>
      let later := walk keep (n.children ++ rest)
      if keep n then n :: later else later
termination_by sizeAll pending
decreasing_by
  simp only [sizeAll, sizeAll_append, size_eq]
  omega

/-- The proper descendants of a node in document order, those of one kind if a kind is given. -/
def descendants (n : Node) (kind : Option NodeKind) : List Node :=
  walk (fun m => kind.all (· == m.kind)) n.children

mutual

/-- The text under a node: that of the text runs in it, in order and untrimmed. A text run stands
for all that it contains. -/
def textOf : Node → Text
  | ⟨kind, _, source, children⟩ => if kind = .text then source else textOfAll children

/-- The text under a list of nodes. -/
def textOfAll : List Node → Text
  | [] => []
  | n :: ns => textOf n ++ textOfAll ns

end

mutual

/-- A node with all its spans moved by a number of characters. -/
def shift (d : Int) : Node → Node
  | ⟨kind, span, source, children⟩ => ⟨kind, span.shift d, source, shiftAll d children⟩

/-- A list of nodes with all their spans moved by a number of characters. -/
def shiftAll (d : Int) : List Node → List Node
  | [] => []
  | n :: ns => shift d n :: shiftAll d ns

end

@[simp] theorem shift_kind (n : Node) (k : Int) : (n.shift k).kind = n.kind := by
  cases n; rfl

@[simp] theorem shift_source (n : Node) (k : Int) : (n.shift k).source = n.source := by
  cases n; rfl

@[simp] theorem shift_span (n : Node) (k : Int) : (n.shift k).span = n.span.shift k := by
  cases n; rfl

@[simp] theorem shiftAll_eq_map (k : Int) (ns : List Node) :
    shiftAll k ns = ns.map (shift k) := by
  induction ns with
  | nil => rfl
  | cons n ns ih => rw [shiftAll, ih, List.map_cons]

@[simp] theorem shift_children (n : Node) (k : Int) :
    (n.shift k).children = n.children.map (shift k) := by
  cases n
  exact shiftAll_eq_map k _

end Node

end MarkupAudit
