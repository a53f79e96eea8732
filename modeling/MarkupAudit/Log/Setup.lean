import MarkupAudit.Log.Hierarchy
import MarkupAudit.Log.Level

/-!
# Logs

A log without a level of its own takes that of the nearest log above it that has one, and at last that
of the root. Messages of all logs are written by the root, once it has been set up. Whether a log lets
messages of a level through is decided once, and again only after some level has been set.
-/

namespace MarkupAudit.Log

/-- The logs, the levels that have been set, whether the root writes messages, and what has been
decided about the levels of messages. -/
structure Setup where
  root : Level := Level.warning
  own : List (Text × Level) := []
  writes : Bool := false
  hierarchy : Hierarchy := {}
  decided : List ((Text × Int) × Bool) := []

/-- Binds a name to a level. -/
def putLevel (name : Text) (level : Level) : List (Text × Level) → List (Text × Level)
  | [] => [(name, level)]
  | e :: es => if e.1 = name then (name, level) :: es else e :: putLevel name level es

namespace Setup

/-- The level that was set for a log itself; zero if none was. -/
def levelOf (s : Setup) (name : Text) : Level :=
  if isRoot name then s.root
  else ((s.own.find? fun e => e.1 == name).map (·.2)).getD (.number 0)

/-- Sets the level of a log. -/
def setLevel (s : Setup) (name : Text) (level : Level) : Setup :=
  if isRoot name then { s with root := level, decided := [] }
  else
    { s with
      own := putLevel name level s.own
      hierarchy := s.hierarchy.add name
      decided := [] }

/-- Sets the levels of some logs in turn, up to the first value that gives none. Its log comes into
being all the same. -/
def setAll (s : Setup) (default : Int) : List (Text × Value) → Setup × Option LevelFault
  | [] => (s, none)
  | (name, v) :: rest =>
      match Level.ofValue default v with
      | .error f => ({ s with hierarchy := s.hierarchy.add name }, some f)
      | .ok level => (s.setLevel name level).setAll default rest

/-- Sets the root up with a level; then the logs of some modules, and those to be silenced. -/
def configure (s : Setup) (general : Value) (modules silenced : List (Text × Value)) :
    Setup × Option LevelFault :=
  match Level.ofValue Level.info general with
  | .error f => (s, some f)
  | .ok level =>
      match ({ s with root := level, writes := true, decided := [] } : Setup).setAll Level.info
          modules with
      | (s, some f) => (s, some f)
      | (s, none) => s.setAll Level.critical silenced

/-- The level that holds for a log. -/
def effective (s : Setup) (name : Text) : Int :=
  (((s.hierarchy.chain name).map fun n => (s.levelOf n).value).find? (· ≠ 0)).getD s.root.value

/-- Whether a log lets messages of a level through, as things stand. -/
def passes (s : Setup) (name : Text) (level : Int) : Bool :=
  decide (0 < level) && decide (s.effective name ≤ level)

/-- Decides whether a log lets messages of a level through, unless that has been decided. -/
def decideOn (s : Setup) (name : Text) (level : Int) : Setup × Bool :=
  let s := { s with hierarchy := s.hierarchy.add name }
  match s.decided.find? fun d => d.1 == (name, level) with
  | some (_, answer) => (s, answer)
  | none =>
      let answer := s.passes name level
      ({ s with decided := ((name, level), answer) :: s.decided }, answer)

end Setup

/-- A message to a log. -/
structure Message where
  name : Text
  level : Int
  text : Text

/-- A message as it is written, with the time and the line of its origin. -/
def Message.line (m : Message) (time number : String) : Text :=
  let name := if isRoot m.name then rootName else m.name
  time.toList ++ " - ".toList ++ (Level.label m.level).toList ++ " - [".toList ++ name ++ [':'] ++
    number.toList ++ "] - ".toList ++ m.text ++ ['\n']

/-- What is written of some messages. -/
def Setup.written (s : Setup) (time number : String) : List Message → Text
  | [] => []
  | m :: rest =>
      match s.decideOn m.name m.level with
      | (s, answer) =>
          (if s.writes && answer then m.line time number else []) ++ s.written time number rest

end MarkupAudit.Log
