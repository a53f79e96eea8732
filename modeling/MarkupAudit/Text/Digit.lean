import MarkupAudit.Text.Basic

/-!
# Decimal digits

A decimal digit may belong to any script that writes numbers with ten digits in decimal places. Each
such script has its ten digits in a row, so the table below only lists where the zeros are.
-/

namespace MarkupAudit

namespace Text

/-- The zeros of all scripts, in ascending order. -/
def zeros : List Nat :=
  [0x30, 0x660, 0x6F0, 0x7C0, 0x966, 0x9E6, 0xA66, 0xAE6, 0xB66, 0xBE6, 0xC66, 0xCE6, 0xD66, 0xDE6,
   0xE50, 0xED0, 0xF20, 0x1040, 0x1090, 0x17E0, 0x1810, 0x1946, 0x19D0, 0x1A80, 0x1A90, 0x1B50,
   0x1BB0, 0x1C40, 0x1C50, 0xA620, 0xA8D0, 0xA900, 0xA9D0, 0xA9F0, 0xAA50, 0xABF0, 0xFF10, 0x104A0,
   0x10D30, 0x11066, 0x110F0, 0x11136, 0x111D0, 0x112F0, 0x11450, 0x114D0, 0x11650, 0x116C0,
   0x11730, 0x118E0, 0x11950, 0x11C50, 0x11D50, 0x11DA0, 0x16A60, 0x16AC0, 0x16B50, 0x1D7CE,
   0x1D7D8, 0x1D7E2, 0x1D7EC, 0x1D7F6, 0x1E140, 0x1E2F0, 0x1E950, 0x1FBF0]

/-- The value of a decimal digit of any script. -/
def digitValue? (c : Char) : Option Nat :=
  (zeros.find? fun first => first ≤ c.toNat && c.toNat < first + 10).map (c.toNat - ·)

/-- Whether a character is a decimal digit of any script. -/
def isDigit (c : Char) : Bool :=
  (digitValue? c).isSome

/-- The number that a run of digits writes; a character that is no digit counts as zero. -/
def natOfDigits (s : Text) : Nat :=
  s.foldl (fun n c => 10 * n + (digitValue? c).getD 0) 0

/-- The decimal digits of a number. -/
def ofNat (n : Nat) : Text :=
  Nat.toDigits 10 n

end Text

/-- A numeral that has too many digits to be read as a number. -/
structure NumeralTooLong where
  digits : Nat
  deriving DecidableEq, Repr

namespace NumeralTooLong

/-- The most digits a numeral may have. -/
def limit : Nat := 4300

/-- The fault in words. -/
def message (f : NumeralTooLong) : String :=
  "Exceeds the limit (4300 digits) for integer string conversion: value has " ++
    toString f.digits ++ " digits; use sys.set_int_max_str_digits() to increase the limit"

end NumeralTooLong

namespace Text

/-- Reads a run of digits as a number, unless there are too many of them. -/
def readNat (s : Text) : Except NumeralTooLong Nat :=
  if s.length ≤ NumeralTooLong.limit then .ok (natOfDigits s) else .error ⟨s.length⟩

end Text

end MarkupAudit
