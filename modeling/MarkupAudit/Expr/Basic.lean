import MarkupAudit.Text.CodePoint

/-!
# Expressions

The expression in a code block, as far as an audit asks about it. Forms that the audit looks into
have constructors of their own; every other form is kept as its kind with its parts in order, which
is all that a search for calls needs.

`Expr.calls` lists the calls in an expression breadth first, so an outer call comes before every
call in it. `Expr.literals?` gives the strings that an expression can stand for, if all of them are
written out.

Expressions may not be nested without bound. `Expr.height` and `Expr.branchDepth` say how deep one is
nested, and `DepthFault` says which bound it exceeds.
-/

namespace MarkupAudit

/-- A kind of expression, or of part of one, that is only looked through. -/
inductive Form where
  | boolean
  | binary
  | unary
  | comparison
  | subscript
  | slice
  | starred
  | list
  | tuple
  | set
  | listComprehension
  | setComprehension
  | dictComprehension
  | generator
  | clause
  | lambda
  | parameters
  | keyword
  | joined
  | formatted
  | await
  | yield
  | yieldFrom
  | assignment
  deriving DecidableEq, Repr

/-- An expression. -/
inductive Expr where
  | str (value : CodeText)
  | constant
  | name (id : String)
  | call (callee : Expr) (args : List Expr) (keywords : List (Option String × Expr))
  | conditional (test body alternative : Expr)
  | attribute (value : Expr) (name : String)
  | dict (entries : List (Option Expr × Expr))
  | compound (form : Form) (parts : List Expr)
  deriving Inhabited

namespace Expr

/-- The direct parts of an expression, in the order in which they are looked through. The keys of a
dictionary come before its values; the value of a keyword lies one step deeper than an argument. -/
def children : Expr → List Expr
  | .str _ => []
  | .constant => []
  | .name _ => []
  | .call callee args keywords =>
      callee :: (args ++ keywords.map fun k => .compound .keyword [k.2])
  | .conditional test body alternative => [test, body, alternative]
  | .attribute value _ => [value]
  | .dict entries => entries.filterMap (·.1) ++ entries.map (·.2)
  | .compound _ parts => parts

mutual

/-- The number of expressions in a tree of expressions. -/
def size : Expr → Nat
  | .str _ => 1
  | .constant => 1
  | .name _ => 1
  | .call callee args keywords => size callee + sizeAll args + sizeKeywords keywords + 1
  | .conditional test body alternative => size test + size body + size alternative + 1
  | .attribute value _ => size value + 1
  | .dict entries => sizeEntries entries + 1
  | .compound _ parts => sizeAll parts + 1

/-- The number of expressions in a list of trees. -/
def sizeAll : List Expr → Nat
  | [] => 0
  | e :: es => size e + sizeAll es

/-- The number of expressions in a list of keywords. -/
def sizeKeywords : List (Option String × Expr) → Nat
  | [] => 0
  | (_, e) :: ks => size e + 1 + sizeKeywords ks

/-- The number of expressions in the entries of a dictionary. -/
def sizeEntries : List (Option Expr × Expr) → Nat
  | [] => 0
  | (none, v) :: es => size v + sizeEntries es
  | (some k, v) :: es => size k + size v + sizeEntries es

end

theorem sizeAll_append (es fs : List Expr) : sizeAll (es ++ fs) = sizeAll es + sizeAll fs := by
  induction es with
  | nil => simp [sizeAll]
  | cons e es ih => simp [sizeAll, ih, Nat.add_assoc]

theorem sizeAll_keywords (ks : List (Option String × Expr)) :
    sizeAll (ks.map fun k => .compound .keyword [k.2]) = sizeKeywords ks := by
  induction ks with
  | nil => simp [sizeAll, sizeKeywords]
  | cons k ks ih => simp [sizeAll, sizeKeywords, size, ih]

theorem sizeAll_entries (es : List (Option Expr × Expr)) :
    sizeAll (es.filterMap (·.1)) + sizeAll (es.map (·.2)) = sizeEntries es := by
  induction es with
  | nil => simp [sizeAll, sizeEntries]
  | cons e es ih =>
      obtain ⟨key, value⟩ := e
      cases key <;> simp [sizeAll, sizeEntries, ← ih] <;> omega

/-- The parts of an expression together are one smaller than the expression. -/
theorem sizeAll_children (e : Expr) : sizeAll e.children + 1 = e.size := by
  cases e with
  | call callee args keywords =>
      simp [children, size, sizeAll, sizeAll_append, sizeAll_keywords]
      omega
  | dict entries => simp [children, size, sizeAll_append, sizeAll_entries]
  | _ => simp [children, size, sizeAll] <;> omega

/-- Visits a queue of expressions: the first one is taken off, and its parts are put at the end. -/
def breadthFirst (queue : List Expr) : List Expr :=
  match queue with
  | [] => []
  | e :: rest => e :: breadthFirst (rest ++ e.children)
termination_by sizeAll queue
decreasing_by
  have := sizeAll_children e
  simp only [sizeAll, sizeAll_append]
  omega

/-- Whether an expression is a call. -/
def isCall : Expr → Bool
  | .call .. => true
  | _ => false

/-- The calls in an expression, outermost first. -/
def calls (e : Expr) : List Expr :=
  (breadthFirst [e]).filter isCall

/-- The name of what is called: a name, or the last part of a dotted name. -/
def calleeName : Expr → Option String
  | .call (.name id) _ _ => some id
  | .call (.attribute _ last) _ _ => some last
  | _ => none

/-- The string of a string constant. -/
def string? : Expr → Option CodeText
  | .str value => some value
  | _ => none

/-- All strings that an expression can stand for, without repetition, if it is a string constant or
a condition between such expressions. Nothing is evaluated. -/
def literals? : Expr → Option (List CodeText)
  | .str value => some [value]
  | .conditional _ body alternative =>
      match literals? body, literals? alternative with
      | some xs, some ys => some (xs ++ ys.filter fun y => !xs.contains y)
      | _, _ => none
  | _ => none

mutual

/-- The height of an expression: how many expressions and parts of such are nested in it, itself
included. -/
def height : Expr → Nat
  | .str _ => 1
  | .constant => 1
  | .name _ => 1
  | .call callee args keywords =>
      max (height callee) (max (heightAll args) (heightKeywords keywords)) + 1
  | .conditional test body alternative =>
      max (height test) (max (height body) (height alternative)) + 1
  | .attribute value _ => height value + 1
  | .dict entries => heightEntries entries + 1
  | .compound _ parts => heightAll parts + 1

/-- The greatest height of some expressions. -/
def heightAll : List Expr → Nat
  | [] => 0
  | e :: es => max (height e) (heightAll es)

/-- The greatest height of some keywords. -/
def heightKeywords : List (Option String × Expr) → Nat
  | [] => 0
  | (_, e) :: ks => max (height e + 1) (heightKeywords ks)

/-- The greatest height of the keys and values of a dictionary. -/
def heightEntries : List (Option Expr × Expr) → Nat
  | [] => 0
  | (none, v) :: es => max (height v) (heightEntries es)
  | (some k, v) :: es => max (height k) (max (height v) (heightEntries es))

end

/-- How deep conditions are nested in the branches of an expression. -/
def branchDepth : Expr → Nat
  | .conditional _ body alternative => max (branchDepth body) (branchDepth alternative) + 1
  | _ => 0

end Expr

/-- Which bound on the nesting of expressions is exceeded: that of the rules for reading them, that of
their height, or that of their branches. -/
inductive DepthFault where
  | rules
  | height
  | branches
  deriving DecidableEq, Repr

/-- The fault in words. -/
def DepthFault.message : DepthFault → String
  | .rules => ""
  | .height => "maximum recursion depth exceeded during ast construction"
  | .branches => "maximum recursion depth exceeded"

namespace Expr

/-- The greatest height of an expression that is built. The number holds for one interpreter and for a
caller at one depth of its stack. -/
def maxHeight : Nat := 2978

/-- How deep conditions may be nested in an expression whose strings are asked for. The number holds for
one interpreter and for a caller at one depth of its stack. -/
def maxBranches : Nat := 994

/-- All strings that an expression can stand for, as long as its conditions are not nested too
deep. -/
def literals (e : Expr) : Except DepthFault (Option (List CodeText)) :=
  if e.branchDepth ≤ maxBranches then .ok e.literals? else .error .branches

end Expr

end MarkupAudit
