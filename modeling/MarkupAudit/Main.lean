import MarkupAudit.Cli.Session
import MarkupAudit.Settings.Packaged

/-!
# The command

Reads the files that a command line names, runs the command on them, prints its output, and writes the
files that it changed. A file is only written if it still holds what was read.
-/

namespace MarkupAudit.Command

/-- Seconds with two decimals, from milliseconds. -/
def seconds (ms : Nat) : String :=
  let hundredths := (ms + 5) / 10
  let places := toString (hundredths % 100)
  toString (hundredths / 100) ++ "." ++ (if places.length < 2 then "0" ++ places else places)

/-- The entry of the file system at a location below a folder. -/
def entry (top : IO.FS.DirEntry) (place : Location) : IO.FS.DirEntry :=
  { top with fileName := String.ofList place.toText }

/-- Whether the file at a location may be written. It is opened, but not changed. -/
def mayWrite (top : IO.FS.DirEntry) (place : Location) : IO Bool := do
  try
    let _ ← IO.FS.Handle.mk (entry top place).path .readWrite
    return true
  catch _ => return false

/-- Reads the file or folder at a location into a tree; `depth` bounds how far folders are read. -/
def load (top : IO.FS.DirEntry) : (depth : Nat) → Location → FileTree → IO FileTree
  | 0, _, t => return t
  | depth + 1, place, t => do
      let path := (entry top place).path
      if ← path.isDir then
        let mut t := { t with folders := t.folders ++ [place.target] }
        for child in ← path.readDir do
          t ← load top depth { place with parts := place.parts ++ [child.fileName.toList] } t
        return t
      else if ← path.pathExists then
        let bytes ← IO.FS.readBinFile path
        let t := t.put place.target (.bytes bytes.toList)
        if ← mayWrite top place then return t
        else return { t with readOnly := place.target :: t.readOnly }
      else return t

/-- Reads what a location names, and the folders on the way to it. -/
def loadAll (top : IO.FS.DirEntry) (place : Location) (t : FileTree) : IO FileTree := do
  let ways := (List.range place.parts.length).map fun n =>
    { place with parts := place.parts.take n : Location }
  let mut t := t
  for way in ways do
    if ← (entry top way).path.isDir then
      t := { t with folders := t.folders ++ [way.target] }
  -- one level more than folders may be nested, so that nesting that is too deep is seen
  load top (Collection.maxDepth + 2) place t

/-- The locations that a command line names. -/
def locations (arguments : List Text) : List Location :=
  match Cli.Options.parse arguments with
  | .error _ => []
  | .ok o =>
      (o.paths ++ o.config.toList).map Location.ofText ++
        o.exportTo.toList.map fun name => (Location.ofText name).parent

/-- Writes the files that differ between two trees. -/
def save (top : IO.FS.DirEntry) (before after : FileTree) : IO Unit := do
  for (name, content) in after.files do
    let old := before.content? name
    if old != some content then
      let place : Location :=
        match name with
        | ('/' :: slashes) :: parts => ⟨'/' :: slashes, parts⟩
        | parts => ⟨[], parts⟩
      let path := (entry top place).path
      let unchanged ← match old with
        | none => pure true
        | some c => pure ((← IO.FS.readBinFile path).toList == c.toBytes)
      if unchanged then IO.FS.writeBinFile path (ByteArray.mk content.toBytes.toArray)
      else IO.eprintln (Conflict.message ⟨String.ofList place.toText⟩)

/-- Runs the command in the current folder. -/
def run (arguments : List String) : IO UInt32 := do
  let top : IO.FS.DirEntry := ⟨← IO.currentDir, ""⟩
  let words := arguments.map String.toList
  let mut tree : FileTree := {}
  for place in locations words do
    tree ← loadAll top place tree
  let session : Cli.Session := { tree := tree, settings := Settings.packaged }
  let start ← IO.monoMsNow
  let reply ← IO.lazyPure fun _ => Cli.run session words
  let stop ← IO.monoMsNow
  IO.print (Cli.Output.render (seconds (stop - start)) reply.output)
  save top tree reply.session.tree
  if let .error f := reply.status then
    IO.eprintln f.message
  return UInt32.ofNat reply.exitStatus

end MarkupAudit.Command

/-- The command. -/
def main (arguments : List String) : IO UInt32 :=
  MarkupAudit.Command.run arguments
