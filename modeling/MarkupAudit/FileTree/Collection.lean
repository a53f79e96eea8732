import MarkupAudit.FileTree.Basic
import MarkupAudit.Settings.Value
import MarkupAudit.Text.Case

/-!
# Collecting template files

A file that is named is always taken; a folder stands for all files below it whose suffix is one of
the given extensions, whatever the case of its letters. The result is sorted and has no repetitions.
A name that leads nowhere is passed over, but one that is too long to be looked for is a fault, and so
are folders that are nested too deep to be searched.
-/

namespace MarkupAudit

/-- Why a settings value does not give extensions. -/
inductive ExtensionFault where
  | notAText (kind : Value.Kind)
  | notAList (kind : Value.Kind)
  deriving DecidableEq, Repr

/-- The fault in words. -/
def ExtensionFault.message : ExtensionFault → String
  | .notAText kind => "'" ++ kind.label ++ "' object has no attribute 'lower'"
  | .notAList kind => "'" ++ kind.label ++ "' object is not iterable"

/-- Why files cannot be collected. -/
inductive CollectFault where
  | file (place : Location) (fault : FileFault)
  | tooDeep
  deriving DecidableEq, Repr

/-- The fault in words. -/
def CollectFault.message : CollectFault → String
  | .file place f => f.message place
  | .tooDeep => "maximum recursion depth exceeded"

namespace Collection

/-- An item of a list of extensions. A string that is no text is not the extension of any file. -/
def extension : Value → Except ExtensionFault (Option Text)
  | .scalar (.str s) => .ok s.text?
  | other => .error (.notAText other.kind)

/-- The items of a list of extensions. -/
def extensionsOf : List Value → Except ExtensionFault (List Text)
  | [] => .ok []
  | v :: vs =>
      match extension v with
      | .error f => .error f
      | .ok text? => (extensionsOf vs).map (text?.toList ++ ·)

/-- Extensions from settings: the items of a list, the characters of a text, the keys of an
object. -/
def extensions : Value → Except ExtensionFault (List Text)
  | .list items => extensionsOf items
  | .scalar (.str s) => .ok (s.filterMap fun p => p.char?.map fun c => [c])
  | .object entries => extensionsOf (entries.map fun e => .scalar e.1)
  | other => .error (.notAList other.kind)

/-- How deep folders may be nested below the folder that is searched. The number holds for one
interpreter and for a caller at one depth of its stack. -/
def maxDepth : Nat := 985

/-- A part of a name that leads out of a folder: two dots, or the slashes of an absolute name. -/
def leadsOut (part : Text) : Bool :=
  part = ['.', '.'] || part.head? = some '/'

/-- What follows the name of a folder in the name of something that lies below the folder. -/
def remainder? : (folder name : List Text) → Option (List Text)
  | _, [] => none
  | [], part :: rest => if leadsOut part then none else some (part :: rest)
  | f :: folder, part :: rest => if f = part then remainder? folder rest else none

/-- The files below a folder, as locations that start with the folder's own. -/
def below (t : FileTree) (place : Location) (folder : List Text) : List Location :=
  (t.files.filterMap fun f => remainder? folder f.1).map place.extend

/-- All that is looked at below a folder: files, folders, and the folders on the way to them. -/
def lookedAt (t : FileTree) (folder : List Text) : List (List Text) :=
  ((t.files.map (·.1) ++ t.folders).filterMap (remainder? folder)).flatMap fun rest =>
    (List.range rest.length).map fun n => rest.take (n + 1)

/-- What stands in the way of searching a folder: something below it whose name is too long together
with that of the folder, or folders that are nested too deep. -/
def obstacle? (t : FileTree) (place : Location) (folder : List Text) : Option CollectFault :=
  match (lookedAt t folder).find? fun rest =>
      FileTree.maxName < FileTree.bytes (place.extend rest).toText with
  | some rest => some (.file (place.extend rest) .nameTooLong)
  | none =>
      if (lookedAt t folder).any fun rest => maxDepth < rest.length && t.isFolder (folder ++ rest)
      then some .tooDeep
      else none

/-- The files that a folder stands for. -/
def search (t : FileTree) (suffixes : List Text) (place : Location) (folder : List Text) :
    Except CollectFault (List Location) :=
  match obstacle? t place folder with
  | some f => .error f
  | none => .ok ((below t place folder).filter fun l => suffixes.contains (Text.lower l.suffix))

/-- The locations that a name in the tree stands for; `none` if there is nothing. -/
def namedBy (t : FileTree) (suffixes : List Text) (place : Location) (name : List Text) :
    Except CollectFault (Option (List Location)) :=
  if (t.content? name).isSome then .ok (some [place])
  else if t.isFolder name then (search t suffixes place name).map some
  else .ok none

/-- The locations that a given location stands for; `none` if there is nothing. -/
def expand (t : FileTree) (suffixes : List Text) (place : Location) :
    Except CollectFault (Option (List Location)) :=
  match t.find place with
  | .error f => .error (.file place f)
  | .ok none => .ok none
  | .ok (some name) => namedBy t suffixes place name

end Collection

/-- The files that were found, and the names that led nowhere. -/
structure Collection where
  files : List Location := []
  missing : List Location := []

/-- What is logged about a name that leads nowhere. -/
def Collection.warning (place : Location) : String :=
  "Path does not exist, skipping: " ++ String.ofList place.toText

/-- Collects what some locations stand for, in turn, up to the first that is at fault. -/
def Collection.gather (t : FileTree) (suffixes : List Text) :
    List Location → Except CollectFault Collection
  | [] => .ok {}
  | place :: rest =>
      match expand t suffixes place with
      | .error f => .error f
      | .ok found =>
          (gather t suffixes rest).map fun c =>
            match found with
            | some files => { c with files := files ++ c.files }
            | none => { c with missing := place :: c.missing }

/-- Collects the template files that some names stand for. -/
def FileTree.collect (t : FileTree) (names extensions : List Text) :
    Except CollectFault Collection :=
  (Collection.gather t (extensions.map Text.lower) (names.map Location.ofText)).map fun c =>
    { c with files := Location.sortedSet c.files }

end MarkupAudit
