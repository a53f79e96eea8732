import MarkupAudit.Digest.Sha256
import MarkupAudit.Template.Node
import MarkupAudit.Template.Piece
import MarkupAudit.Text.Utf8

/-!
# Documents

A document is a template that has been read: the tree of its nodes beside the text it was read
from. Tags are not nested into each other, so the children of the root are one flat sequence of
text runs, tags and comments.
-/

namespace MarkupAudit

/-- A template that has been read. -/
structure Document where
  source : Text
  fingerprint : String
  root : Node
  path : Option String

/-- The digest by which a changed text is told from the text that was analysed. -/
def fingerprint (source : Text) : String :=
  "sha256:" ++ Sha256.hexDigest (Text.toUtf8 source)

namespace Layout

/-- The node of a code block at an offset. -/
def codeNode (pos : Nat) (source : Text) : Node :=
  ⟨.code, ⟨pos, pos + source.length⟩, source, []⟩

/-- Puts a piece of a text run before the nodes behind it: it joins the text run that starts there,
or becomes a text run of its own. -/
def joinText (pos : Nat) (source : Text) (blocks : List Node) : List Node → List Node
  | ⟨.text, span, tail, children⟩ :: nodes =>
      ⟨.text, ⟨pos, span.stop⟩, source ++ tail, blocks ++ children⟩ :: nodes
  | nodes => ⟨.text, ⟨pos, pos + source.length⟩, source, blocks⟩ :: nodes

/-- Lays pieces out as nodes from an offset on. -/
def nodes (pos : Nat) : List Piece → List Node
  | [] => []
  | .plain c :: ps => joinText pos [c] [] (nodes (pos + 1) ps)
  | .code s :: ps => joinText pos s [codeNode pos s] (nodes (pos + s.length) ps)
  | .comment s :: ps => ⟨.comment, ⟨pos, pos + s.length⟩, s, []⟩ :: nodes (pos + s.length) ps
  | .tag s insets :: ps =>
      ⟨.tag, ⟨pos, pos + s.length⟩, s, insets.map fun i => codeNode (pos + i.offset) i.source⟩ ::
        nodes (pos + s.length) ps

end Layout

namespace Document

/-- Reads a template into a document. -/
def parse (source : Text) (path : Option String) : Except Malformed Document :=
  match Scan.pieces source with
  | .error m => .error m
  | .ok ps =>
      .ok
        { source := source
          fingerprint := MarkupAudit.fingerprint source
          root := ⟨.document, ⟨0, source.length⟩, source, Layout.nodes 0 ps⟩
          path := path }

/-- The top-level nodes of a document. -/
def children (d : Document) : List Node :=
  d.root.children

/-- All nodes below the root in document order, those of one kind if a kind is given. -/
def descendants (d : Document) (kind : Option NodeKind) : List Node :=
  d.root.descendants kind

/-- How a document is called in messages. -/
def name (d : Document) : String :=
  match d.path with
  | none => "<string>"
  | some path => if path = "" then "<string>" else path

end Document

/-- A place in a text: the number of its line, counted from one, and of its column, counted from
zero. -/
structure Place where
  line : Int
  column : Int
  deriving DecidableEq, Repr

/-- How many characters of a text lie before an end bound: a bound past the end stops there, a
negative one counts from the end. -/
def Text.bound (length : Nat) (pos : Int) : Nat :=
  if pos < 0 then (length + pos).toNat else min pos.toNat length

/-- The place of an offset. The line breaks before the offset give the line, the last of them the
start of the column. -/
def Text.place (source : Text) (pos : Int) : Place :=
  let before := source.take (Text.bound source.length pos)
  let lastLine := before.reverse.takeWhile (· ≠ '\n')
  ⟨before.count '\n' + 1, pos - (before.length - lastLine.length : Nat)⟩

end MarkupAudit
