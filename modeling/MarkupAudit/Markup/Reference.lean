import MarkupAudit.Markup.ReferenceTable
import MarkupAudit.Text.Digit
import MarkupAudit.Text.Ranges
import Std.Data.HashMap

/-!
# Character references

In the value of an attribute a character may be written by its name or its number. A reference that
stands for nothing is left as it is. A name may be followed at once by other text, and then the
longest known name at its start counts.
-/

namespace MarkupAudit.Reference

/-- Characters are hashed by their numbers. -/
local instance hashableChar : Hashable Char := ⟨fun c => hash c.toNat⟩

/-- What each name stands for, without its semicolon. -/
def names : Std.HashMap Text Text :=
  (Text.words nameTable.toList).foldl (fun m entry =>
    match Text.splitOn '>' entry with
    | [name, target] =>
        m.insert name ((Text.splitOn '+' target).map fun n => Char.ofNat (CharRanges.hex n))
    | _ => m) ∅

/-- The names that may be written without a semicolon. -/
def bareNames : Std.HashSet Text :=
  Std.HashSet.ofList (Text.words bareNameTable.toList)

/-- What a name stands for, with or without a semicolon at its end as written. -/
def named? (written : Text) : Option Text :=
  match written.getLast? with
  | some ';' => names[written.dropLast]?
  | _ => if bareNames.contains written then names[written]? else none

/-- The characters that the numbers from 128 on stand for where they name control characters. -/
def remapped : List Nat :=
  [0x20AC, 0x81, 0x201A, 0x192, 0x201E, 0x2026, 0x2020, 0x2021, 0x2C6, 0x2030, 0x160, 0x2039, 0x152,
   0x8D, 0x17D, 0x8F, 0x90, 0x2018, 0x2019, 0x201C, 0x201D, 0x2022, 0x2013, 0x2014, 0x2DC, 0x2122,
   0x161, 0x203A, 0x153, 0x9D, 0x17E, 0x178]

/-- Whether a number names no character that may stand in a page. -/
def isForbidden (n : Nat) : Bool :=
  (0x1 ≤ n && n ≤ 0x8) || n == 0xB || (0xE ≤ n && n ≤ 0x1F) || n == 0x7F ||
    (0xFDD0 ≤ n && n ≤ 0xFDEF) || 0xFFFE ≤ n % 0x10000

/-- What a number stands for. -/
def numbered (n : Nat) : Text :=
  if n = 0 then ['\ufffd']
  else if 0x80 ≤ n && n ≤ 0x9F then [Char.ofNat (remapped.getD (n - 0x80) n)]
  else if (0xD800 ≤ n && n ≤ 0xDFFF) || 0x10FFFF < n then ['\ufffd']
  else if isForbidden n then []
  else [Char.ofNat n]

/-- Whether a character is a hexadecimal digit. -/
def isHexDigit (c : Char) : Bool :=
  Text.isAsciiDigit c || ('a' ≤ c && c ≤ 'f') || ('A' ≤ c && c ≤ 'F')

/-- The value of a hexadecimal digit in either case. -/
def hexDigit (c : Char) : Nat :=
  if 'a' ≤ c && c ≤ 'f' then c.toNat - 87 else CharRanges.digit c

/-- Whether a character may stand in the name of a reference. -/
def isNameChar (c : Char) : Bool :=
  !(c = '\t' || c = '\n' || c = '\x0c' || c = ' ' || c = '<' || c = '&' || c = '#' || c = ';')

/-- The text without a semicolon at its start, if there is one. -/
def dropSemicolon (s : Text) : Text :=
  match s with
  | ';' :: rest => rest
  | _ => s

/-- The longest known name among the first `n` characters of a name, at least two, with the rest of
the name behind what it stands for. -/
def longest? (name : Text) : (n : Nat) → Option Text
  | 0 => none
  | 1 => none
  | n + 1 =>
      match named? (name.take (n + 1)) with
      | some s => some (s ++ name.drop (n + 1))
      | none => longest? name n

/-- What a name stands for as written: itself if it is not known. -/
def ofName (name : Text) : Text :=
  match named? name with
  | some s => s
  | none => (longest? name (name.length - 1)).getD ('&' :: name)

/-- Reads the reference at the head of a text, whose `&` has been read: what it stands for, and how
many characters it takes. -/
def read? (s : Text) : Except NumeralTooLong (Option (Text × Nat)) :=
  match s with
  | '#' :: x :: rest =>
      let hexDigits := rest.takeWhile isHexDigit
      if (x = 'x' || x = 'X') && !hexDigits.isEmpty then
        let after := rest.drop hexDigits.length
        let n := hexDigits.foldl (fun n c => n * 16 + hexDigit c) 0
        .ok (some (numbered n, 2 + hexDigits.length + (after.length - (dropSemicolon after).length)))
      else
        let digits := (x :: rest).takeWhile Text.isAsciiDigit
        if digits.isEmpty then .ok none
        else
          match Text.readNat digits with
          | .error fault => .error fault
          | .ok n =>
              let after := (x :: rest).drop digits.length
              .ok (some
                (numbered n, 1 + digits.length + (after.length - (dropSemicolon after).length)))
  | _ =>
      let name := (s.take 32).takeWhile isNameChar
      if name.isEmpty then .ok none
      else
        let written :=
          match s.drop name.length with
          | ';' :: _ => name ++ [';']
          | _ => name
        .ok (some (ofName written, written.length))

/-- Replaces the references in a text. `skip` counts the characters that belong to a reference
already replaced. -/
def replace (skip : Nat) : Text → Except NumeralTooLong Text
  | [] => .ok []
  | c :: s =>
      match skip with
      | n + 1 => replace n s
      | 0 =>
          if c = '&' then
            match read? s with
            | .error fault => .error fault
            | .ok none => (replace 0 s).map (c :: ·)
            | .ok (some (text, n)) => (replace n s).map (text ++ ·)
          else (replace 0 s).map (c :: ·)

/-- A text with its character references replaced by what they stand for. -/
def decode (s : Text) : Except NumeralTooLong Text :=
  replace 0 s

end MarkupAudit.Reference
