import MarkupAudit.Text.CharacterName.Lookup
import MarkupAudit.Text.CodePoint

/-!
# Escapes in string literals

The string that the body of a string literal stands for. A backslash before a character that has no
meaning there stays as it is. A code point may be written by its number even if it is no character.
-/

namespace MarkupAudit.Escape

/-- The value of a hexadecimal digit. -/
def hexValue? (c : Char) : Option Nat :=
  if '0' ≤ c && c ≤ '9' then some (c.toNat - 48)
  else if 'a' ≤ c && c ≤ 'f' then some (c.toNat - 87)
  else if 'A' ≤ c && c ≤ 'F' then some (c.toNat - 55)
  else none

/-- Reads exactly a number of hexadecimal digits. -/
def hex? : (count : Nat) → (value : Nat) → Text → Option (Nat × Text)
  | 0, value, s => some (value, s)
  | _ + 1, _, [] => none
  | n + 1, value, c :: s => (hexValue? c).bind fun d => hex? n (value * 16 + d) s

/-- Reads at most a number of octal digits. -/
def octal : (count : Nat) → (value : Nat) → Text → Nat × Text
  | 0, value, s => (value, s)
  | _ + 1, value, [] => (value, [])
  | n + 1, value, c :: s =>
      if '0' ≤ c && c ≤ '7' then octal n (value * 8 + (c.toNat - 48)) s else (value, c :: s)

/-- The character of an escape of one letter. -/
def simple? : Char → Option Char
  | '\\' => some '\\'
  | '\'' => some '\''
  | '"' => some '"'
  | 'a' => some '\x07'
  | 'b' => some '\x08'
  | 'f' => some '\x0c'
  | 'n' => some '\n'
  | 'r' => some '\r'
  | 't' => some '\t'
  | 'v' => some '\x0b'
  | _ => none

/-- The number of digits of an escape that writes a code point in hexadecimal. -/
def width? : Char → Option Nat
  | 'x' => some 2
  | 'u' => some 4
  | 'U' => some 8
  | _ => none

/-- The character of an escape that names it in braces. -/
def named? : Text → Option (Char × Text)
  | '\x7b' :: rest =>
      let name := rest.takeWhile (· ≠ '\x7d')
      match rest.dropWhile (· ≠ '\x7d') with
      | _ :: after => (CharacterName.find? name).map fun c => (c, after)
      | [] => none
  | _ => none

/-- The string that the body of a literal stands for, read in at most `fuel` steps. -/
def decode? : (fuel : Nat) → Text → Option CodeText
  | 0, _ => none
  | _, [] => some []
  | fuel + 1, '\\' :: rest =>
      let ahead (c : Char) (after : Text) : Option CodeText :=
        (decode? fuel after).map (CodePoint.ofChar c :: ·)
      match rest with
      | [] => ahead '\\' []
      | c :: more =>
          if c = '\n' then decode? fuel more
          else if c = 'N' then (named? more).bind fun (d, after) => ahead d after
          else if '0' ≤ c && c ≤ '7' then
            let (n, after) := octal 3 0 rest
            ahead (Char.ofNat n) after
          else
            match simple? c, width? c with
            | some d, _ => ahead d more
            | _, some width =>
                match hex? width 0 more with
                | none => none
                | some (n, after) =>
                    match CodePoint.ofNat? n with
                    | none => none
                    | some p => (decode? fuel after).map (p :: ·)
            | none, none =>
                (decode? fuel more).map fun s => CodePoint.ofChar '\\' :: CodePoint.ofChar c :: s
  | fuel + 1, c :: rest => (decode? fuel rest).map (CodePoint.ofChar c :: ·)

/-- The string that the body of a literal stands for. -/
def text? (body : Text) : Option CodeText :=
  decode? (body.length + 1) body

/-- Whether the body of a literal for bytes is well formed: each numeric escape has its two
digits. -/
def validBytes : Text → Bool
  | [] => true
  | '\\' :: 'x' :: a :: b :: rest =>
      (hexValue? a).isSome && (hexValue? b).isSome && validBytes rest
  | '\\' :: 'x' :: _ => false
  | '\\' :: _ :: rest => validBytes rest
  | _ :: rest => validBytes rest

end MarkupAudit.Escape
