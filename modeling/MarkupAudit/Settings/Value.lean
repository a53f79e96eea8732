import MarkupAudit.Decimal.Shortest
import MarkupAudit.Text.CodePoint

/-!
# Settings values

Settings are data of any shape: scalars, lists, and objects whose entries keep their order. A key is
a scalar: it is a string wherever it was read from a file, but an object made from a list of pairs
may have other keys.
-/

namespace MarkupAudit

/-- A value without parts. -/
inductive Scalar where
  | null
  | bool (b : Bool)
  | int (n : Int)
  | float (x : Float)
  | str (s : CodeText)
  deriving Inhabited

/-- A settings value. -/
inductive Value where
  | scalar (s : Scalar)
  | list (items : List Value)
  | object (entries : List (Scalar × Value))
  deriving Inhabited

/-- The entries of an object, in order. -/
abbrev Entries := List (Scalar × Value)

namespace Scalar

/-- A text as a key. -/
abbrev key (s : String) : Scalar := .str (CodeText.ofString s)

/-- The text of a scalar that is one. -/
def text? : Scalar → Option Text
  | .str s => s.text?
  | _ => none

/-- The whole number that a finite float stands for, if it stands for one. -/
def wholeOfFloat? (x : Float) : Option Int :=
  match Decimal.Parts.ofBits x.toBits with
  | .zero _ => some 0
  | .finite negative b =>
      let magnitude? : Option Nat :=
        if 0 ≤ b.exponent then some (b.mantissa * Nat.pow 2 b.exponent.toNat)
        else
          let unit := Nat.pow 2 (-b.exponent).toNat
          if b.mantissa % unit = 0 then some (b.mantissa / unit) else none
      magnitude?.map fun n => if negative then -n else n
  | _ => none

/-- The whole number a scalar stands for as a number, if it does: truth values count as one and
zero. -/
def whole? : Scalar → Option Int
  | .bool b => some (if b then 1 else 0)
  | .int n => some n
  | .float x => wholeOfFloat? x
  | _ => none

/-- Whether two scalars are the same key: numbers and truth values are compared by their value. -/
def sameKey : Scalar → Scalar → Bool
  | .null, .null => true
  | .str s, .str t => s == t
  | .float x, .float y => x == y
  | a, b =>
      match a.whole?, b.whole? with
      | some m, some n => m == n
      | _, _ => false

end Scalar

namespace Value

/-- The value null. -/
abbrev null : Value := .scalar .null

/-- A string as a value. -/
abbrev str (s : String) : Value := .scalar (.str (CodeText.ofString s))

/-- A truth value as a value. -/
abbrev bool (b : Bool) : Value := .scalar (.bool b)

/-- A whole number as a value. -/
abbrev int (n : Int) : Value := .scalar (.int n)

/-- A float as a value. -/
abbrev float (x : Float) : Value := .scalar (.float x)

/-- The kinds of values. -/
inductive Kind where
  | null
  | bool
  | int
  | float
  | str
  | list
  | object
  deriving DecidableEq, Repr

/-- The name of a kind in messages. -/
def Kind.label : Kind → String
  | .null => "NoneType"
  | .bool => "bool"
  | .int => "int"
  | .float => "float"
  | .str => "str"
  | .list => "list"
  | .object => "dict"

/-- The kind of a value. -/
def kind : Value → Kind
  | .scalar .null => .null
  | .scalar (.bool _) => .bool
  | .scalar (.int _) => .int
  | .scalar (.float _) => .float
  | .scalar (.str _) => .str
  | .list _ => .list
  | .object _ => .object

/-- Whether a value counts as true: null, zero and everything empty do not. -/
def isTruthy : Value → Bool
  | .scalar .null => false
  | .scalar (.bool b) => b
  | .scalar (.int n) => n != 0
  | .scalar (.float x) => x != 0.0
  | .scalar (.str s) => !s.isEmpty
  | .list items => !items.isEmpty
  | .object entries => !entries.isEmpty

/-- Whether a value is null. -/
def isNull : Value → Bool
  | .scalar .null => true
  | _ => false

end Value

namespace Entries

/-- The value of a key. -/
def find? (entries : Entries) (key : Scalar) : Option Value :=
  (List.find? (fun e => e.1.sameKey key) entries).map (·.2)

/-- The value of a string key. -/
abbrev get? (entries : Entries) (key : String) : Option Value :=
  find? entries (.key key)

/-- Whether a string is a key. -/
def has (entries : Entries) (key : String) : Bool :=
  (get? entries key).isSome

/-- Binds a key to a value: in the place of the entry that already has this key, else at the end. -/
def put : (entries : Entries) → (key : Scalar) → (value : Value) → Entries
  | [], key, value => [(key, value)]
  | e :: rest, key, value =>
      if e.1.sameKey key then (e.1, value) :: rest else e :: put rest key value

end Entries

end MarkupAudit
