import MarkupAudit.Expr.Parser
import MarkupAudit.Markup.Tag

/-!
# Values of attributes

What can be said about the value of an attribute without running any code: that there is none, that
it is one of finitely many strings, or nothing. Code counts as known only if it writes out every
string it can stand for. Code that is nested too deep cannot be judged at all, which is a fault.
-/

namespace MarkupAudit

/-- What is known about the value of an attribute. -/
inductive ValueSet where
  | absent
  | known (values : List CodeText)
  | indeterminate
  deriving DecidableEq, Repr

namespace ValueSet

/-- Whether nothing can be said about the value. -/
def isIndeterminate : ValueSet → Bool
  | .indeterminate => true
  | _ => false

/-- Whether the attribute is known to be missing. -/
def isAbsent : ValueSet → Bool
  | .absent => true
  | _ => false

/-- Whether some known value has a property; never so if nothing is known. -/
def any (v : ValueSet) (p : CodeText → Bool) : Bool :=
  match v with
  | .known values => values.any p
  | _ => false

/-- All known values, without repetition. -/
def values : ValueSet → List CodeText
  | .known vs => vs
  | _ => []

end ValueSet

namespace Fragment

/-- The strings that a fragment can stand for, if they are all written out. -/
def strings : Fragment → Except DepthFault (Option (List CodeText))
  | .literal t => .ok (some [CodeText.ofText t])
  | .code block =>
      match block.output? with
      | none => .ok none
      | some source =>
          match Expr.parse source with
          | .error f => .error f
          | .ok none => .ok none
          | .ok (some e) => e.literals

/-- The strings that fragments in a row can stand for, without repetition. Fragments behind one that
is not written out are not looked at. -/
def allStrings : List Fragment → Except DepthFault (Option (List CodeText))
  | [] => .ok (some [[]])
  | f :: fs =>
      match f.strings with
      | .error fault => .error fault
      | .ok none => .ok none
      | .ok (some heads) =>
          (allStrings fs).map fun tails? => tails?.map fun tails =>
            (heads.flatMap fun h => tails.map fun t => h ++ t).eraseDups

end Fragment

/-- What is known about the value of an attribute of a tag. -/
def Tag.resolve (t : Tag) (name : Text) : Except DepthFault ValueSet :=
  match t.valueOf name with
  | [] => .ok (if t.dynamic then .indeterminate else .absent)
  | fs =>
      (Fragment.allStrings fs).map fun
        | some values => .known values
        | none => .indeterminate

end MarkupAudit
