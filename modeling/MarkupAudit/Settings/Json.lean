import MarkupAudit.Settings.Value
import MarkupAudit.Text.Digit

/-!
# Reading settings text

Settings are written as JSON. Beyond the standard the words `NaN`, `Infinity` and `-Infinity` are
numbers, a repeated key takes its last value, and a number with a fraction or an exponent is a
float. A whole number with too many digits and lists or objects that are nested too deep are faults of
their own.
-/

namespace MarkupAudit

namespace Json

/-- What holds other values. -/
inductive Container where
  | list
  | object
  deriving DecidableEq, Repr

/-- Why a text cannot be read as a value. -/
inductive Fault where
  | invalid
  | numeral (fault : NumeralTooLong)
  | nesting (innermost : Container)
  deriving DecidableEq, Repr

/-- How many lists and objects may be open at once. The number holds for one interpreter and for a caller
at one depth of its stack. -/
def maxDepth : Nat := 989

/-- A blank between the parts of a value. -/
def isSpace (c : Char) : Bool :=
  c = ' ' || c = '\t' || c = '\n' || c = '\r'

/-- The text without the blanks at its start. -/
def skip (s : Text) : Text :=
  s.dropWhile isSpace

/-- The value of a hexadecimal digit. -/
def hexValue? (c : Char) : Option Nat :=
  if '0' ≤ c && c ≤ '9' then some (c.toNat - 48)
  else if 'a' ≤ c && c ≤ 'f' then some (c.toNat - 87)
  else if 'A' ≤ c && c ≤ 'F' then some (c.toNat - 55)
  else none

/-- Reads four hexadecimal digits. -/
def hex4? : Text → Option (Nat × Text)
  | a :: b :: c :: d :: rest => do
      let a ← hexValue? a
      let b ← hexValue? b
      let c ← hexValue? c
      let d ← hexValue? d
      return (((a * 16 + b) * 16 + c) * 16 + d, rest)
  | _ => none

/-- The character of a simple escape. -/
def escape? : Char → Option Char
  | '"' => some '"'
  | '\\' => some '\\'
  | '/' => some '/'
  | 'b' => some '\x08'
  | 'f' => some '\x0c'
  | 'n' => some '\n'
  | 'r' => some '\r'
  | 't' => some '\t'
  | _ => none

/-- Reads the code point of a `\u` escape, whose first four digits have been read as `unit`. Two units
that make up one character are read together; one of them alone stands for itself. -/
def codePoint? (unit : Nat) (rest : Text) : Option (CodePoint × Text) :=
  let alone := (CodePoint.ofNat? unit).map fun p => (p, rest)
  if 0xD800 ≤ unit && unit < 0xDC00 then
    match rest with
    | '\\' :: 'u' :: more =>
        match hex4? more with
        | some (low, after) =>
            if 0xDC00 ≤ low && low < 0xE000 then
              (CodePoint.ofNat? (0x10000 + (unit - 0xD800) * 0x400 + (low - 0xDC00))).map
                fun p => (p, after)
            else alone
        | none => alone
    | _ => alone
  else alone

/-- Reads the rest of a string behind its opening quotation mark, in at most `fuel` characters. -/
def string? : (fuel : Nat) → Text → Option (CodeText × Text)
  | 0, _ => none
  | _, [] => none
  | fuel + 1, c :: rest =>
      if c = '"' then some ([], rest)
      else if c = '\\' then
        match rest with
        | 'u' :: more =>
            match (hex4? more).bind fun (unit, more) => codePoint? unit more with
            | none => none
            | some (p, more) => (string? fuel more).map fun (s, after) => (p :: s, after)
        | e :: more =>
            match escape? e with
            | none => none
            | some d =>
                (string? fuel more).map fun (s, after) => (CodePoint.ofChar d :: s, after)
        | [] => none
      else if c.toNat < 0x20 then none
      else (string? fuel rest).map fun (s, after) => (CodePoint.ofChar c :: s, after)

/-- The digits at the start of a text, and the rest. -/
def digits (s : Text) : Text × Text :=
  (s.takeWhile Text.isAsciiDigit, s.dropWhile Text.isAsciiDigit)

/-- The float nearest to `mantissa * 10 ^ exponent`; far outside of the range of floats this is
infinity or zero. -/
def floatOf (negative : Bool) (mantissa : Nat) (exponent : Int) : Float :=
  let magnitude : Float :=
    let places : Int := (Nat.toDigits 10 mantissa).length
    if mantissa = 0 then 0.0
    else if places + exponent > 400 then 1.0 / 0.0
    else if places + exponent < -400 then 0.0
    else Float.ofScientific mantissa (exponent < 0) exponent.natAbs
  if negative then -magnitude else magnitude

/-- The fraction at the start of a text: its digits, and the rest. Without digits there is none. -/
def fraction (s : Text) : Text × Text :=
  match s with
  | '.' :: rest => if (digits rest).1.isEmpty then ([], s) else digits rest
  | _ => ([], s)

/-- The exponent at the start of a text, and the rest. Without digits there is none. -/
def exponent (s : Text) : Option Int × Text :=
  match s with
  | e :: rest =>
      if e = 'e' || e = 'E' then
        let (negative, rest) :=
          match rest with
          | '-' :: more => (true, more)
          | '+' :: more => (false, more)
          | _ => (false, rest)
        let (ds, after) := digits rest
        if ds.isEmpty then (none, s)
        else
          let n : Int := Text.natOfDigits ds
          (some (if negative then -n else n), after)
      else (none, s)
  | [] => (none, [])

/-- Reads a number behind its sign. -/
def number (negative : Bool) (s : Text) : Except Fault (Value × Text) :=
  let (whole, rest) :=
    match s with
    | '0' :: rest => (['0'], rest)
    | _ => digits s
  if whole.isEmpty then .error .invalid
  else
    let (places, rest) := fraction rest
    let (power?, rest) := exponent rest
    if places.isEmpty && power?.isNone then
      match Text.readNat whole with
      | .error fault => .error (.numeral fault)
      | .ok n => .ok (.int (if negative then -n else n), rest)
    else
      let mantissa := Text.natOfDigits (whole ++ places)
      .ok (.float (floatOf negative mantissa (power?.getD 0 - places.length)), rest)

/-- Reads a word or a number that is not a string, list or object. -/
def plain (s : Text) : Except Fault (Value × Text) :=
  match Text.after? "null".toList s, Text.after? "true".toList s, Text.after? "false".toList s,
    Text.after? "NaN".toList s, Text.after? "Infinity".toList s,
    Text.after? "-Infinity".toList s with
  | some rest, _, _, _, _, _ => .ok (.null, rest)
  | _, some rest, _, _, _, _ => .ok (.bool true, rest)
  | _, _, some rest, _, _, _ => .ok (.bool false, rest)
  | _, _, _, some rest, _, _ => .ok (.float (0.0 / 0.0), rest)
  | _, _, _, _, some rest, _ => .ok (.float (1.0 / 0.0), rest)
  | _, _, _, _, _, some rest => .ok (.float (-1.0 / 0.0), rest)
  | _, _, _, _, _, _ =>
      match s with
      | '-' :: rest => number true rest
      | _ => number false s

mutual

/-- Reads a value from the start of a text, inside `depth` lists and objects; `fuel` bounds the number
of steps. -/
def value : (fuel depth : Nat) → Text → Except Fault (Value × Text)
  | 0, _, _ => .error .invalid
  | fuel + 1, depth, s =>
      match s with
      | '"' :: rest =>
          match string? (rest.length + 1) rest with
          | none => .error .invalid
          | some (t, after) => .ok (.scalar (.str t), after)
      | '[' :: rest =>
          if maxDepth ≤ depth then .error (.nesting .list)
          else
            match skip rest with
            | ']' :: after => .ok (.list [], after)
            | more => (items fuel (depth + 1) more).map fun (vs, after) => (.list vs, after)
      | '\x7b' :: rest =>
          if maxDepth ≤ depth then .error (.nesting .object)
          else
            match skip rest with
            | '\x7d' :: after => .ok (.object [], after)
            | more =>
                (entries fuel (depth + 1) [] more).map fun (es, after) => (.object es, after)
      | _ => plain s

/-- Reads the items of a list up to and including the closing bracket. -/
def items : (fuel depth : Nat) → Text → Except Fault (List Value × Text)
  | 0, _, _ => .error .invalid
  | fuel + 1, depth, s =>
      match value fuel depth s with
      | .error fault => .error fault
      | .ok (v, rest) =>
          match skip rest with
          | ',' :: more =>
              (items fuel depth (skip more)).map fun (vs, after) => (v :: vs, after)
          | ']' :: after => .ok ([v], after)
          | _ => .error .invalid

/-- Reads the entries of an object up to and including the closing bracket, behind those already
read. -/
def entries : (fuel depth : Nat) → Entries → Text → Except Fault (Entries × Text)
  | 0, _, _, _ => .error .invalid
  | fuel + 1, depth, es, s =>
      match s with
      | '"' :: rest =>
          match string? (rest.length + 1) rest with
          | none => .error .invalid
          | some (key, rest) =>
              match skip rest with
              | ':' :: rest =>
                  match value fuel depth (skip rest) with
                  | .error fault => .error fault
                  | .ok (v, rest) =>
                      let es := es.put (.str key) v
                      match skip rest with
                      | ',' :: more => entries fuel depth es (skip more)
                      | '\x7d' :: after => .ok (es, after)
                      | _ => .error .invalid
              | _ => .error .invalid
      | _ => .error .invalid

end

/-- Reads a whole text as one value. A byte order mark at the start is a fault. -/
def parse (s : Text) : Except Fault Value :=
  match value (s.length + 2) 0 (skip s) with
  | .error fault => .error fault
  | .ok (v, rest) => if (skip rest).isEmpty then .ok v else .error .invalid

end Json

end MarkupAudit
