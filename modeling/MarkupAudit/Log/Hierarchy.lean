import MarkupAudit.Text.Basic

/-!
# The hierarchy of logs

A log has a name of parts between dots, and hangs below the nearest log whose name is made up of the
first parts of its own. Logs come into being one by one: a log looks for the one above it among those
that are there already, and is remembered under the names it has passed over, so that a log that comes
later can take it over.
-/

namespace MarkupAudit.Log

/-- The name of the log above all others. -/
def rootName : Text := "root".toList

/-- Whether a name is that of the root. -/
def isRoot (name : Text) : Bool :=
  name.isEmpty || name == rootName

/-- The position of the last dot before a position. -/
def lastDot? (name : Text) (stop : Nat) : Option Nat :=
  (((name.take stop).zipIdx.filter fun c => c.1 = '.').getLast?).map (·.2)

/-- The names that a log may hang below, the nearest first: what stands before a dot. Of two dots side
by side only the second counts. -/
def above (name : Text) : List Text :=
  let rec go : (fuel : Nat) → Nat → List Text
    | 0, _ => []
    | fuel + 1, stop =>
        match lastDot? name stop with
        | none => []
        | some i => if i = 0 then [] else name.take i :: go fuel (i - 1)
  go name.length name.length

/-- The logs below the root, each with the log that it hangs below if that is not the root; and the
names that have been passed over, each with the logs that may hang below it. -/
structure Hierarchy where
  logs : List (Text × Option Text) := []
  passed : List (Text × List Text) := []

namespace Hierarchy

/-- Whether there is a log of a name. -/
def has (h : Hierarchy) (name : Text) : Bool :=
  h.logs.any fun l => l.1 == name

/-- The log that a log hangs below; `none` is the root. -/
def parent? (h : Hierarchy) (name : Text) : Option Text :=
  ((h.logs.find? fun l => l.1 == name).map (·.2)).getD none

/-- Hangs a log below another. -/
def hang (h : Hierarchy) (name : Text) (parent? : Option Text) : Hierarchy :=
  { h with logs := h.logs.map fun l => if l.1 = name then (name, parent?) else l }

/-- Remembers a log under a name that it has passed over. -/
def remember (h : Hierarchy) (name log : Text) : Hierarchy :=
  if h.passed.any fun p => p.1 == name then
    { h with passed := h.passed.map fun p => if p.1 = name then (name, p.2 ++ [log]) else p }
  else { h with passed := h.passed ++ [(name, [log])] }

/-- Hangs a log below the first of some names that is that of a log, or else below the root. -/
def settle (h : Hierarchy) (log : Text) : (names : List Text) → Hierarchy
  | [] => h.hang log none
  | name :: names =>
      if h.has name then h.hang log (some name) else (h.remember name log).settle log names

/-- Lets a log take over the logs that have passed over its name. A log that hangs below something
whose name starts with that of the new log stays where it is. -/
def takeOver (h : Hierarchy) (log : Text) (below : List Text) : Hierarchy :=
  below.foldl (fun h l =>
    if log.isPrefixOf ((h.parent? l).getD rootName) then h else h.hang l (some log)) h

/-- Brings a log into being, unless it is there. -/
def add (h : Hierarchy) (log : Text) : Hierarchy :=
  if isRoot log || h.has log then h
  else
    let below := ((h.passed.find? fun p => p.1 == log).map (·.2)).getD []
    let h : Hierarchy :=
      { logs := h.logs ++ [(log, none)], passed := h.passed.filter fun p => p.1 ≠ log }
    (h.takeOver log below).settle log (above log)

/-- The logs from a log up to below the root. -/
def upward (h : Hierarchy) : (fuel : Nat) → Text → List Text
  | 0, _ => []
  | fuel + 1, log =>
      log :: match h.parent? log with
        | none => []
        | some parent => upward h fuel parent

/-- A log and the logs that it hangs below, without the root. -/
def chain (h : Hierarchy) (log : Text) : List Text :=
  if isRoot log then [] else h.upward (h.logs.length + 1) log

end Hierarchy

end MarkupAudit.Log
