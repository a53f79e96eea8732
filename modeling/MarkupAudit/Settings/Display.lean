import MarkupAudit.Settings.Value
import MarkupAudit.Text.Digit
import MarkupAudit.Text.Quoted

/-!
# Values as text

A value that is stored in place of a text is written out. A string stands for itself; inside a list
or an object it is quoted. A float is written with the fewest digits that read back to it:
positionally from a ten-thousandth up to below ten to the sixteenth, and with an exponent of at least
two digits elsewhere.

Parts are written in order, and the first that cannot be written decides on the fault: a whole number
with too many digits, or a value that stands inside too many others.
-/

namespace MarkupAudit

/-- Why a value cannot be written out. -/
inductive DisplayFault where
  | numeral
  | nesting
  deriving DecidableEq, Repr

/-- The fault in words. -/
def DisplayFault.message : DisplayFault → String
  | .numeral =>
      "Exceeds the limit (4300 digits) for integer string conversion; " ++
        "use sys.set_int_max_str_digits() to increase the limit"
  | .nesting => "maximum recursion depth exceeded while getting the repr of an object"

namespace Scalar

/-- The digits of a number with the decimal point behind the first `point` of them; a negative
`point` counts the zeros that follow the point. -/
def positional (digits : Text) (point : Int) : Text :=
  if point ≤ 0 then '0' :: '.' :: List.replicate (-point).toNat '0' ++ digits
  else if (digits.length : Int) ≤ point then
    digits ++ List.replicate (point - digits.length).toNat '0' ++ ['.', '0']
  else digits.take point.toNat ++ '.' :: digits.drop point.toNat

/-- The digits of a number with an exponent: the point stands behind the first digit. -/
def exponential (digits : Text) (exponent : Int) : Text :=
  let front := digits.take 1
  let places := digits.drop 1
  let power := Text.ofNat exponent.natAbs
  front ++ (if places.isEmpty then [] else '.' :: places) ++
    ['e', if exponent < 0 then '-' else '+'] ++ List.replicate (2 - power.length) '0' ++ power

/-- A float as text. -/
def floatText (x : Float) : Text :=
  let signed (negative : Bool) (s : Text) : Text := if negative then '-' :: s else s
  match Decimal.Parts.ofBits x.toBits with
  | .undefined => "nan".toList
  | .infinite negative => signed negative "inf".toList
  | .zero negative => signed negative "0.0".toList
  | .finite negative b =>
      let d := Decimal.dropZeros 20 (Decimal.shortest b)
      let digits := Text.ofNat d.digits
      let point := digits.length + d.exponent
      signed negative <|
        if -4 < point && point ≤ 16 then positional digits point
        else exponential digits (point - 1)

/-- A whole number as text, unless it has too many digits. -/
def intText (n : Int) : Except DisplayFault Text :=
  let digits := Text.ofNat n.natAbs
  if digits.length ≤ NumeralTooLong.limit then .ok (if n < 0 then '-' :: digits else digits)
  else .error .numeral

/-- A scalar inside a list or an object. -/
def display : Scalar → Except DisplayFault Text
  | .null => .ok "None".toList
  | .bool true => .ok "True".toList
  | .bool false => .ok "False".toList
  | .int n => intText n
  | .float x => .ok (floatText x)
  | .str s => .ok s.quoted

end Scalar

namespace Value

/-- How many values may stand inside each other while they are written out, the outermost and the
innermost counted. The number holds for one interpreter and for a caller at one depth of its stack. -/
def maxOpen : Nat := 993

/-- A scalar that stands inside `outer` lists and objects. -/
def displayScalar (outer : Nat) (s : Scalar) : Except DisplayFault Text :=
  if maxOpen ≤ outer then .error .nesting else s.display

mutual

/-- A value that stands inside `outer` lists and objects. -/
def display (outer : Nat) : Value → Except DisplayFault Text
  | .scalar s => displayScalar outer s
  | .list items =>
      if maxOpen ≤ outer then .error .nesting
      else
        (displayItems (outer + 1) items).map fun shown =>
          '[' :: Text.join ", ".toList shown ++ [']']
  | .object entries =>
      if maxOpen ≤ outer then .error .nesting
      else
        (displayEntries (outer + 1) entries).map fun shown =>
          '\x7b' :: Text.join ", ".toList shown ++ ['\x7d']

/-- The items of a list, each as text. -/
def displayItems (outer : Nat) : List Value → Except DisplayFault (List Text)
  | [] => .ok []
  | v :: vs =>
      match display outer v with
      | .error f => .error f
      | .ok shown => (displayItems outer vs).map (shown :: ·)

/-- The entries of an object, each as text. -/
def displayEntries (outer : Nat) : List (Scalar × Value) → Except DisplayFault (List Text)
  | [] => .ok []
  | (k, v) :: es =>
      match displayScalar outer k with
      | .error f => .error f
      | .ok key =>
          match display outer v with
          | .error f => .error f
          | .ok shown => (displayEntries outer es).map ((key ++ ": ".toList ++ shown) :: ·)

end

/-- A value as a string: a string stands for itself. -/
def toCodes : Value → Except DisplayFault CodeText
  | .scalar (.str s) => .ok s
  | v => (v.display 0).map CodeText.ofText

end Value

end MarkupAudit
