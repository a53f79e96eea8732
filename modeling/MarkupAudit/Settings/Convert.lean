import MarkupAudit.Settings.Display
import MarkupAudit.Settings.Json

/-!
# Conversion of values

A setting keeps its kind: a new value is converted to the kind of the value it replaces. Some values
have no counterpart of the other kind, such as a number with too many digits to be written out; then the
caller keeps the value as it was given. A number that is too large for the other kind is an error
instead, and so is a value that is nested too deep to be written out.
-/

namespace MarkupAudit

namespace Convert

/-- Why a conversion fails of a value that has a counterpart of the other kind in principle. -/
inductive Fault where
  | infinite
  | tooLarge
  | nesting
  deriving DecidableEq, Repr

/-- The fault in words. -/
def Fault.message : Fault → String
  | .infinite => "cannot convert float infinity to integer"
  | .tooLarge => "int too large to convert to float"
  | .nesting => DisplayFault.nesting.message

/-- A blank that may surround a numeral. The separators of records are none. -/
def isPadding (c : Char) : Bool :=
  Text.isBlank c && !(0x1C ≤ c.toNat && c.toNat ≤ 0x1F)

/-- A text without the blanks around it. -/
def unpad (s : Text) : Text :=
  ((s.dropWhile isPadding).reverse.dropWhile isPadding).reverse

/-- The sign at the start of a text, and the rest. -/
def sign : Text → Bool × Text
  | '-' :: rest => (true, rest)
  | '+' :: rest => (false, rest)
  | s => (false, s)

/-- Takes out the underscores of a numeral. Each has to stand between two digits. -/
def dropUnderscores (afterDigit : Bool) : Text → Option Text
  | [] => some []
  | '_' :: c :: rest =>
      if afterDigit && Text.isDigit c then (dropUnderscores true rest).map (c :: ·) else none
  | ['_'] => none
  | c :: rest => (dropUnderscores (Text.isDigit c) rest).map (c :: ·)

/-- A number with a sign. -/
def signed (negative : Bool) (n : Nat) : Int :=
  if negative then -n else n

/-- Reads a whole number: a sign and decimal digits of any script. -/
def readInt? (s : Text) : Option Int := do
  let (negative, body) := sign (unpad s)
  let digits ← dropUnderscores false body
  if digits.isEmpty || !digits.all Text.isDigit then none
  else
    match Text.readNat digits with
    | .ok n => some (signed negative n)
    | .error _ => none

/-- Each decimal digit as an ASCII digit. -/
def asciiDigits (s : Text) : Text :=
  s.map fun c =>
    match Text.digitValue? c with
    | some n => Nat.digitChar n
    | none => c

/-- Whether a text is a word in lower case, whatever the case of its ASCII letters. -/
def isWord (word : String) (s : Text) : Bool :=
  (s.map fun c => if 'A' ≤ c && c ≤ 'Z' then Char.ofNat (c.toNat + 32) else c) == word.toList

/-- Reads a float: a sign, and digits with a point and an exponent, or a word for a number that is
not finite. -/
def readFloat? (s : Text) : Option Float := do
  let (negative, body) := sign (← dropUnderscores false (asciiDigits (unpad s)))
  let apply (x : Float) : Float := if negative then -x else x
  if isWord "nan" body then some (apply (0.0 / 0.0))
  else if isWord "inf" body || isWord "infinity" body then some (apply (1.0 / 0.0))
  else
    let (whole, rest) := Json.digits body
    let (places, rest) :=
      match rest with
      | '.' :: more => Json.digits more
      | _ => ([], rest)
    if whole.isEmpty && places.isEmpty then none
    else
      let (power?, rest) := Json.exponent rest
      if rest.isEmpty then
        some (Json.floatOf negative (Text.natOfDigits (whole ++ places))
          (power?.getD 0 - places.length))
      else none

/-- The whole number that is left when a finite float loses its fraction. -/
def truncate (negative : Bool) (b : Decimal.Binary) : Int :=
  signed negative <|
    if 0 ≤ b.exponent then b.mantissa * Nat.pow 2 b.exponent.toNat
    else b.mantissa / Nat.pow 2 (-b.exponent).toNat

/-- A value as a whole number. -/
def toInt? : Value → Except Fault (Option Value)
  | .scalar (.bool b) => .ok (some (.int (if b then 1 else 0)))
  | .scalar (.int n) => .ok (some (.int n))
  | .scalar (.float x) =>
      match Decimal.Parts.ofBits x.toBits with
      | .zero _ => .ok (some (.int 0))
      | .finite negative b => .ok (some (.int (truncate negative b)))
      | .infinite _ => .error .infinite
      | .undefined => .ok none
  | .scalar (.str s) => .ok ((s.text?.bind readInt?).map Value.int)
  | _ => .ok none

/-- A value as a float. -/
def toFloat? : Value → Except Fault (Option Value)
  | .scalar (.bool b) => .ok (some (.float (if b then 1.0 else 0.0)))
  | .scalar (.int n) =>
      let x := Json.floatOf (n < 0) n.natAbs 0
      match Decimal.Parts.ofBits x.toBits with
      | .infinite _ => .error .tooLarge
      | _ => .ok (some (.float x))
  | .scalar (.float x) => .ok (some (.float x))
  | .scalar (.str s) => .ok ((s.text?.bind readFloat?).map Value.float)
  | _ => .ok none

/-- A value as a string. -/
def toStr? (v : Value) : Except Fault (Option Value) :=
  match v.toCodes with
  | .ok s => .ok (some (.scalar (.str s)))
  | .error .numeral => .ok none
  | .error .nesting => .error .nesting

/-- A value as a list: the code points of a string, the keys of an object. -/
def toList? : Value → Option Value
  | .scalar (.str s) => some (.list (s.map fun p => .scalar (.str [p])))
  | .object entries => some (.list (entries.map fun e => .scalar e.1))
  | .list items => some (.list items)
  | _ => none

/-- A value as an entry of an object, if it has exactly two parts, the first of them a key. -/
def toEntry? (v : Value) : Option (Scalar × Value) :=
  match toList? v with
  | some (.list [.scalar key, value]) => some (key, value)
  | _ => none

/-- A value as an object: each item of a list is an entry. -/
def toObject? : Value → Option Value
  | .object entries => some (.object entries)
  | v =>
      match toList? v with
      | some (.list items) =>
          (items.mapM toEntry?).map fun pairs =>
            .object (pairs.foldl (fun entries (key, value) => Entries.put entries key value) [])
      | _ => none

/-- A value as a value of another kind, if it has a counterpart there. -/
def ofKind (kind : Value.Kind) (v : Value) : Except Fault (Option Value) :=
  match kind with
  | .null => .ok none
  | .bool => .ok (some (.bool v.isTruthy))
  | .int => toInt? v
  | .float => toFloat? v
  | .str => toStr? v
  | .list => .ok (toList? v)
  | .object => .ok (toObject? v)

/-- Whether a value may replace one of a kind as it is. A truth value counts as a whole number. -/
def fits (kind : Value.Kind) (v : Value) : Bool :=
  v.kind = kind || (kind = .int && v.kind = .bool)

end Convert

end MarkupAudit
