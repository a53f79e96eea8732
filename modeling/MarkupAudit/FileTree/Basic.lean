import MarkupAudit.FileTree.Location
import MarkupAudit.Table.Basic
import MarkupAudit.Text.Quoted
import MarkupAudit.Text.Utf8

/-!
# File trees

The files that a run works on, as a value: each file by the parts of its name, and the folders that
hold no file. A location is followed part by part, so every part but the last has to be a folder. The
names of files outside of the folder that relative names start from begin with two dots or a slash.
The length of a name is bounded, and so is that of each of its parts. A file that is protected can be
read, but not written.
-/

namespace MarkupAudit

/-- What a file holds: bytes, or a table that was saved as a workbook. -/
inductive FileContent where
  | bytes (bs : List UInt8)
  | workbook (table : Table)
  deriving DecidableEq, Repr

/-- The bytes of a file. A workbook is stored by its lines. -/
def FileContent.toBytes : FileContent → List UInt8
  | .bytes bs => bs
  | .workbook table => Text.toUtf8 table.toCsv

/-- Files by the parts of their names, folders that are not implied by a file, and the names at which
nothing may be written. -/
structure FileTree where
  files : List (List Text × FileContent) := []
  folders : List (List Text) := []
  readOnly : List (List Text) := []

/-- Why a file cannot be used. -/
inductive FileFault where
  | missing
  | isFolder
  | notFolder
  | nullCharacter
  | nameTooLong
  | notPermitted
  deriving DecidableEq, Repr

/-- The fault in words. -/
def FileFault.message (place : Location) (f : FileFault) : String :=
  let name := String.ofList (Text.quoted place.toText)
  match f with
  | .missing => "[Errno 2] No such file or directory: " ++ name
  | .isFolder => "[Errno 21] Is a directory: " ++ name
  | .notFolder => "[Errno 20] Not a directory: " ++ name
  | .nullCharacter => "embedded null byte"
  | .nameTooLong => "[Errno 36] File name too long: " ++ name
  | .notPermitted => "[Errno 13] Permission denied: " ++ name

namespace FileTree

/-- The greatest number of bytes in a part of a name. -/
def maxPart : Nat := 255

/-- The greatest number of bytes in a name. -/
def maxName : Nat := 4095

/-- The number of bytes that a text takes. -/
def bytes (s : Text) : Nat :=
  (Text.toUtf8 s).length

/-- What the file of a name holds. -/
def content? (t : FileTree) (name : List Text) : Option FileContent :=
  (t.files.find? fun f => f.1 == name).map (·.2)

/-- Whether a name is that of a folder: the top, a folder above a file, or a folder without files. -/
def isFolder (t : FileTree) (name : List Text) : Bool :=
  name.isEmpty || t.folders.any (fun f => name.isPrefixOf f) ||
    t.files.any fun f => name.isPrefixOf f.1 && f.1 != name

/-- Follows parts from a folder: every place on the way has to be a folder. A part is looked at only
once its folder has been found. -/
def follow (t : FileTree) (here : List Text) : (parts : List Text) → Except FileFault (List Text)
  | [] => .ok here
  | part :: rest =>
      if t.isFolder here then
        if bytes part ≤ maxPart then t.follow (Location.enter here part) rest
        else .error .nameTooLong
      else if (t.content? here).isSome then .error .notFolder
      else .error .missing

/-- The name that a location leads to. -/
def locate (t : FileTree) (place : Location) : Except FileFault (List Text) :=
  if place.parts.any fun part => part.contains '\x00' then .error .nullCharacter
  else if maxName < bytes place.toText then .error .nameTooLong
  else t.follow place.origin place.parts

/-- What the file at a location holds. -/
def read (t : FileTree) (place : Location) : Except FileFault FileContent :=
  match t.locate place with
  | .error f => .error f
  | .ok name =>
      match t.content? name with
      | some c => .ok c
      | none => .error (if t.isFolder name then .isFolder else .missing)

/-- Files with the content of one of them replaced, or with one more file. -/
def putFile (name : List Text) (content : FileContent) :
    List (List Text × FileContent) → List (List Text × FileContent)
  | [] => [(name, content)]
  | f :: fs => if f.1 = name then (name, content) :: fs else f :: putFile name content fs

/-- The tree with a file of a name. -/
def put (t : FileTree) (name : List Text) (content : FileContent) : FileTree :=
  { t with files := putFile name content t.files }

/-- The name of the file that a location can be written to. -/
def writable (t : FileTree) (place : Location) : Except FileFault (List Text) :=
  match t.locate place with
  | .error f => .error f
  | .ok name =>
      if t.isFolder name then .error .isFolder
      else if t.readOnly.contains name then .error .notPermitted
      else .ok name

/-- Writes the file at a location. -/
def write (t : FileTree) (place : Location) (content : FileContent) : Except FileFault FileTree :=
  (t.writable place).map fun name => t.put name content

/-- The name that a location leads to, if it leads anywhere. Only a name that is too long is a fault:
all else says that there is nothing. -/
def find (t : FileTree) (place : Location) : Except FileFault (Option (List Text)) :=
  match t.locate place with
  | .ok name => .ok (some name)
  | .error .nameTooLong => .error .nameTooLong
  | .error _ => .ok none

/-- Whether there is a folder at a location. -/
def hasFolder (t : FileTree) (place : Location) : Except FileFault Bool :=
  (t.find place).map fun name? => name?.any t.isFolder

end FileTree

/-- Why a file cannot be read as text. -/
inductive ReadFault where
  | file (fault : FileFault)
  | encoding (fault : Utf8.Fault)
  deriving DecidableEq, Repr

/-- The fault in words. -/
def ReadFault.message (place : Location) : ReadFault → String
  | .file f => f.message place
  | .encoding f => f.message

/-- The text of the file at a location. -/
def FileTree.readText (t : FileTree) (place : Location) : Except ReadFault Text :=
  match t.read place with
  | .error f => .error (.file f)
  | .ok content =>
      match Utf8.decode content.toBytes with
      | .error f => .error (.encoding f)
      | .ok text => .ok text

end MarkupAudit
