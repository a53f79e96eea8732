import MarkupAudit.Settings.Value

/-!
# Merging settings

Settings are laid over others entry by entry: where both sides hold an object, the objects are merged
in turn, and elsewhere the upper value replaces the lower one. Keys keep their places, and new keys
follow in the order of the upper side.

A value that replaces another is copied, and a copy cannot be nested without bound: `Entries.copied`
gives the entries that are laid over settings before the first value that is nested too deep. The
objects that are merged around a value count as well.
-/

namespace MarkupAudit

mutual

/-- A value laid over the value that stands in its place, if any. -/
def Value.mergeOver (lower? : Option Value) : (upper : Value) → Value
  | .object entries =>
      match lower? with
      | some (.object base) => .object (Entries.merge base entries)
      | _ => .object entries
  | upper => upper

/-- Entries laid over others. -/
def Entries.merge (base : Entries) : (upper : List (Scalar × Value)) → Entries
  | [] => base
  | (key, value) :: rest =>
      Entries.merge (base.put key (Value.mergeOver (base.find? key) value)) rest

end

mutual

/-- How many calls are under way at once while a value is copied: two in each list or object that is
open, and those for what stands inside. -/
def Value.copyHeight : Value → Nat
  | .scalar _ => 2
  | .list items => Value.copyHeightOfItems items + 2
  | .object entries => Value.copyHeightOfEntries entries + 2

/-- How many calls are under way at once while some values are copied. -/
def Value.copyHeightOfItems : List Value → Nat
  | [] => 1
  | v :: vs => max (Value.copyHeight v) (Value.copyHeightOfItems vs)

/-- How many calls are under way at once while the values of some entries are copied. -/
def Value.copyHeightOfEntries : List (Scalar × Value) → Nat
  | [] => 1
  | (_, v) :: es => max (Value.copyHeight v) (Value.copyHeightOfEntries es)

end

/-- How many calls may be under way at once. The number holds for one interpreter and for a caller at one
depth of its stack. -/
def Value.maxCopyHeight : Nat := 993

/-- The copy of a value, unless it is nested too deep inside `within` objects that are merged. -/
def Value.copy? (within : Nat) (v : Value) : Option Value :=
  if within + v.copyHeight ≤ Value.maxCopyHeight then some v else none

mutual

/-- The part of a value that is laid over another before a copy fails, if there is such a part; and
whether no copy fails. -/
def Value.copied (within : Nat) (lower? : Option Value) : (upper : Value) → Option Value × Bool
  | .object entries =>
      match lower? with
      | some (.object base) =>
          let (es, complete) := Entries.copied (within + 1) base entries
          (some (.object es), complete)
      | _ => (Value.copy? within (.object entries), (Value.copy? within (.object entries)).isSome)
  | upper => (Value.copy? within upper, (Value.copy? within upper).isSome)

/-- The entries that are laid over others before a copy fails, and whether no copy fails. -/
def Entries.copied (within : Nat) (base : Entries) :
    (upper : List (Scalar × Value)) → Entries × Bool
  | [] => ([], true)
  | (key, value) :: rest =>
      match Value.copied within (base.find? key) value with
      | (some v, true) =>
          let (es, complete) := Entries.copied within base rest
          ((key, v) :: es, complete)
      | (some v, false) => ([(key, v)], false)
      | (none, _) => ([], false)

end

end MarkupAudit
