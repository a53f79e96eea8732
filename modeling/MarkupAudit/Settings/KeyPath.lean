import MarkupAudit.Settings.Value
import MarkupAudit.Text.Basic

/-!
# Key paths

A key path names a place in settings: keys joined by dots. A key may hold dots itself, so a path is
resolved against the settings it is used with: in each section the longest run of its parts that is
a key there is taken as one key, and where no run is a key, a single part is.
-/

namespace MarkupAudit

/-- The value of a key in a section; a value that is no object has no keys. -/
def Value.child? (holder : Value) (key : String) : Option Value :=
  match holder with
  | .object entries => Entries.get? entries key
  | _ => none

namespace KeyPath

/-- Parts of a path put together again. -/
def glue (parts : List Text) : String :=
  String.ofList (Text.join ['.'] parts)

/-- The number of parts that make up the first key of a path: the greatest number, not above `count`,
whose parts are a key of the section, else one. -/
def firstKey (known : Value) (parts : List Text) : (count : Nat) → Nat
  | 0 => 1
  | count + 1 =>
      if (known.child? (glue (parts.take (count + 1)))).isSome then count + 1
      else firstKey known parts count

theorem firstKey_pos (known : Value) (parts : List Text) (count : Nat) :
    0 < firstKey known parts count := by
  induction count with
  | zero => simp [firstKey]
  | succ count ih =>
      simp only [firstKey]
      split
      · omega
      · exact ih

/-- The keys that parts of a path stand for, in a section of settings. -/
def keys (known : Value) (parts : List Text) : List String :=
  match parts with
  | [] => []
  | part :: rest =>
      let count := firstKey known (part :: rest) (rest.length + 1)
      let key := glue ((part :: rest).take count)
      key :: keys ((known.child? key).getD .null) ((part :: rest).drop count)
termination_by parts.length
decreasing_by
  have := firstKey_pos known (part :: rest) (rest.length + 1)
  simp only [List.length_drop, List.length_cons]
  omega

/-- The keys that a path stands for in settings. -/
def resolve (settings : Value) (path : Text) : List String :=
  keys settings (Text.splitOn '.' path)

end KeyPath

end MarkupAudit
