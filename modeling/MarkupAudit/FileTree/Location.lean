import MarkupAudit.Text.Basic

/-!
# Locations

The name of a file or folder: parts between slashes. A part that is empty or a single dot says
nothing and is left out, two dots are kept. Locations are ordered part by part.
-/

namespace MarkupAudit

/-- The name of a file or folder. The anchor holds the slashes at the start of an absolute name. -/
structure Location where
  anchor : Text
  parts : List Text
  deriving DecidableEq, Repr

namespace Location

/-- The slashes that an absolute name starts with: exactly two are kept, any other number is one. -/
def anchorOf (s : Text) : Text :=
  match (s.takeWhile (· = '/')).length with
  | 0 => []
  | 2 => ['/', '/']
  | _ => ['/']

/-- Reads a name. -/
def ofText (s : Text) : Location :=
  ⟨anchorOf s, (Text.splitOn '/' s).filter fun part => part ≠ [] && part ≠ ['.']⟩

/-- The name of a location; the folder that relative names start from is a single dot. -/
def toText (l : Location) : Text :=
  if l.anchor.isEmpty && l.parts.isEmpty then ['.'] else l.anchor ++ Text.join ['/'] l.parts

/-- The folder that holds a location. -/
def parent (l : Location) : Location :=
  { l with parts := l.parts.dropLast }

/-- The location of something below a location. -/
def extend (l : Location) (rest : List Text) : Location :=
  { l with parts := l.parts ++ rest }

/-- The folder that a part leads to from another. Two dots lead to the folder above, which has a name
of its own only below the start. -/
def enter (here : List Text) (part : Text) : List Text :=
  if part = ['.', '.'] then
    match here.getLast? with
    | none => [part]
    | some last =>
        if last = ['.', '.'] then here ++ [part]
        else if last.head? = some '/' then here
        else here.dropLast
  else here ++ [part]

/-- The folder that a location starts from. -/
def origin (l : Location) : List Text :=
  if l.anchor.isEmpty then [] else [l.anchor]

/-- The name that a location leads to, if every part before the last is a folder. -/
def target (l : Location) : List Text :=
  l.parts.foldl enter l.origin

/-- The suffix of a name: from its last dot on, unless the name starts or ends with that dot. -/
def suffixOf (name : Text) : Text :=
  let tail := name.reverse.takeWhile (· ≠ '.')
  if tail.length + 1 < name.length && !tail.isEmpty then '.' :: tail.reverse else []

/-- The suffix of the last part of a location. -/
def suffix (l : Location) : Text :=
  suffixOf (l.parts.getLast?.getD [])

/-- What locations are ordered by. -/
def key (l : Location) : List Text :=
  if l.anchor.isEmpty then l.parts else l.anchor :: l.parts

/-- Whether a part comes before another: by its characters. -/
def partLt (s t : Text) : Bool :=
  s.lex t fun c d => c.toNat < d.toNat

/-- The order of locations: part by part, each by its characters. -/
def le (a b : Location) : Bool :=
  !b.key.lex a.key partLt

/-- Each location of a sorted list once. -/
def dropRepeats : List Location → List Location
  | a :: b :: rest => if a = b then dropRepeats (b :: rest) else a :: dropRepeats (b :: rest)
  | short => short

/-- Locations in order, each once. -/
def sortedSet (ls : List Location) : List Location :=
  dropRepeats (ls.mergeSort le)

end Location

end MarkupAudit
