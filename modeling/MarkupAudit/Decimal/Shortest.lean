/-!
# Shortest decimals

A finite binary number stands for every real number that rounds to it. Among the decimals in that
range this module finds one with the fewest digits, and of those the nearest to the number itself.
All arithmetic is on natural numbers: the number is `m * 2 ^ q`, a decimal is `d * 10 ^ u`, and two
such values are compared after both are brought to whole multiples of a common unit.
-/

namespace MarkupAudit.Decimal

/-- The number `mantissa * 2 ^ exponent`. -/
structure Binary where
  mantissa : Nat
  exponent : Int
  deriving DecidableEq, Repr

/-- The number `digits * 10 ^ exponent`. -/
structure Numeral where
  digits : Nat
  exponent : Int
  deriving DecidableEq, Repr

/-- A floating point number by its parts. -/
inductive Parts where
  | zero (negative : Bool)
  | finite (negative : Bool) (magnitude : Binary)
  | infinite (negative : Bool)
  | undefined
  deriving DecidableEq, Repr

/-- Takes the bits of a double precision number apart. -/
def Parts.ofBits (bits : UInt64) : Parts :=
  let n := bits.toNat
  let negative := n / Nat.pow 2 63 == 1
  let exponent : Nat := n / Nat.pow 2 52 % 2048
  let fraction : Nat := n % Nat.pow 2 52
  if exponent == 2047 then
    if fraction == 0 then .infinite negative else .undefined
  else if exponent == 0 then
    if fraction == 0 then .zero negative else .finite negative ⟨fraction, -1074⟩
  else .finite negative ⟨fraction + Nat.pow 2 52, (exponent : Int) - 1075⟩

/-- The factor that a value `x * 2 ^ e` is multiplied with when powers with negative exponents are
moved to the other side. -/
def factor (base : Nat) (e : Int) : Nat :=
  Nat.pow base e.toNat

/-- Whether `x * 2 ^ e` is at least `10 ^ k`. -/
def atLeastPower (x : Nat) (e k : Int) : Bool :=
  factor 10 k * factor 2 (-e) ≤ x * factor 2 e * factor 10 (-k)

/-- The greatest `k`, looking upwards from a start for a number of steps, for which `x * 2 ^ e` is at
least `10 ^ k`. -/
def greatestPower (x : Nat) (e : Int) : (steps : Nat) → (k : Int) → Int
  | 0, k => k
  | steps + 1, k =>
      if atLeastPower x e (k + 1) then greatestPower x e steps (k + 1) else k

/-- A decimal of a given number of digits that rounds to the number, if there is one: of the two
neighbours of the number on the grid of such decimals, the one that rounds to it, the nearer one if
both do, and the even one if both are equally near. -/
def onGrid? (b : Binary) (magnitude : Int) (count : Nat) : Option Numeral :=
  let u := magnitude - count + 1
  let e := b.exponent - 2
  let grid := factor 10 u * factor 2 (-e)
  let unit := factor 2 e * factor 10 (-u)
  let value := 4 * b.mantissa * unit
  let below := if b.mantissa == Nat.pow 2 52 && b.exponent > -1074 then 1 else 2
  let low := (4 * b.mantissa - below) * unit
  let high := (4 * b.mantissa + 2) * unit
  let inside (x : Nat) : Bool :=
    if b.mantissa % 2 == 0 then low ≤ x && x ≤ high else low < x && x < high
  let floor := value / grid
  let gapBelow := value - floor * grid
  let gapAbove := (floor + 1) * grid - value
  let floorFits := inside (floor * grid)
  let ceilFits := inside ((floor + 1) * grid)
  if floorFits && ceilFits then
    if gapBelow < gapAbove || (gapBelow == gapAbove && floor % 2 == 0) then some ⟨floor, u⟩
    else some ⟨floor + 1, u⟩
  else if floorFits then some ⟨floor, u⟩
  else if ceilFits then some ⟨floor + 1, u⟩
  else none

/-- The decimal with the fewest digits that rounds to a number. Seventeen digits always suffice. -/
def shortest (b : Binary) : Numeral :=
  let magnitude := greatestPower b.mantissa b.exponent 640 (-325)
  ((List.range 17).findSome? fun n => onGrid? b magnitude (n + 1)).getD ⟨b.mantissa, 0⟩

/-- A decimal without zeros at its end. -/
def dropZeros : (steps : Nat) → Numeral → Numeral
  | 0, d => d
  | steps + 1, d =>
      if d.digits % 10 == 0 && d.digits != 0 then dropZeros steps ⟨d.digits / 10, d.exponent + 1⟩
      else d

end MarkupAudit.Decimal
