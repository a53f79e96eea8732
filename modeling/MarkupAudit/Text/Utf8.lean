import MarkupAudit.Text.Quoted

/-!
# UTF-8

Texts as bytes and back. Reading fails at the first byte sequence that is not the encoding of a
character; the fault names the bytes that were rejected and why. A string that holds halves of
surrogate pairs has no encoding; the fault names the first of them and those right behind it.
-/

namespace MarkupAudit

/-- The encoding of a text. -/
def Text.toUtf8 (s : Text) : List UInt8 :=
  s.flatMap String.utf8EncodeChar

namespace Utf8

/-- The code points at which writing stopped: the offset of the first, and all of them. -/
structure Unencodable where
  offset : Nat
  points : CodeText
  deriving DecidableEq, Repr

/-- The fault in words: a single code point is named, of several only the offsets. -/
def Unencodable.message (f : Unencodable) : String :=
  let place :=
    match f.points with
    | [p] => "character '\\u" ++ String.ofList (Text.hexWidth 4 p.val) ++ "' in position " ++
        toString f.offset
    | ps => "characters in position " ++ toString f.offset ++ "-" ++
        toString (f.offset + ps.length - 1)
  "'utf-8' codec can't encode " ++ place ++ ": surrogates not allowed"

/-- What stands in the way of encoding a string, which begins at an offset: its first code points in a
row that are no characters. -/
def unencodable? (offset : Nat) : CodeText → Option Unencodable
  | [] => none
  | p :: ps =>
      if p.char?.isSome then unencodable? (offset + 1) ps
      else some ⟨offset, p :: ps.takeWhile fun q => q.char?.isNone⟩

/-- Why bytes are not the encoding of a character. -/
inductive Reason where
  | startByte
  | continuation
  | truncated
  deriving DecidableEq, Repr

/-- A reason in words. -/
def Reason.message : Reason → String
  | .startByte => "invalid start byte"
  | .continuation => "invalid continuation byte"
  | .truncated => "unexpected end of data"

/-- The bytes at which reading stopped: the offset of the first, all of them, and the reason. -/
structure Fault where
  offset : Nat
  bytes : List UInt8
  reason : Reason
  deriving DecidableEq, Repr

/-- Two hexadecimal digits for a byte. -/
def hexByte (b : UInt8) : String :=
  String.ofList [Nat.digitChar (b.toNat / 16), Nat.digitChar (b.toNat % 16)]

/-- The fault in words: a single byte is named, of several only the offsets. -/
def Fault.message (f : Fault) : String :=
  let place :=
    match f.bytes with
    | [b] => "byte 0x" ++ hexByte b ++ " in position " ++ toString f.offset
    | bs => "bytes in position " ++ toString f.offset ++ "-" ++ toString (f.offset + bs.length - 1)
  "'utf-8' codec can't decode " ++ place ++ ": " ++ f.reason.message

/-- What the first bytes of an encoding say about the rest: the number of continuation bytes, the
bits that the first byte holds, and the range that the first continuation byte has to lie in. -/
structure Lead where
  more : Nat
  bits : Nat
  lo : UInt8
  hi : UInt8

/-- Reads the first byte of an encoding. Ranges are narrowed so that no overlong form, no surrogate
and nothing above the last character can be completed. -/
def lead? (b : UInt8) : Option Lead :=
  let n := b.toNat
  if n < 0x80 then some ⟨0, n, 0x80, 0xBF⟩
  else if n < 0xC2 then none
  else if n < 0xE0 then some ⟨1, n - 0xC0, 0x80, 0xBF⟩
  else if n < 0xF0 then
    some ⟨2, n - 0xE0, if n = 0xE0 then 0xA0 else 0x80, if n = 0xED then 0x9F else 0xBF⟩
  else if n < 0xF5 then
    some ⟨3, n - 0xF0, if n = 0xF0 then 0x90 else 0x80, if n = 0xF4 then 0x8F else 0xBF⟩
  else none

/-- A reader of UTF-8: the bytes of the character begun, latest first, and what is still to come. -/
structure State where
  seen : List UInt8
  value : Nat
  more : Nat
  lo : UInt8
  hi : UInt8

/-- Reads bytes from an offset on. -/
def decodeFrom (offset : Nat) : (pending : Option State) → List UInt8 → Except Fault Text
  | none, [] => .ok []
  | some st, [] => .error ⟨offset - st.seen.length, st.seen.reverse, .truncated⟩
  | none, b :: bytes =>
      match lead? b with
      | none => .error ⟨offset, [b], .startByte⟩
      | some l =>
          if l.more = 0 then
            match decodeFrom (offset + 1) none bytes with
            | .ok s => .ok (Char.ofNat l.bits :: s)
            | .error f => .error f
          else decodeFrom (offset + 1) (some ⟨[b], l.bits, l.more, l.lo, l.hi⟩) bytes
  | some st, b :: bytes =>
      if st.lo ≤ b && b ≤ st.hi then
        let value := st.value * 64 + (b.toNat - 0x80)
        if st.more = 1 then
          match decodeFrom (offset + 1) none bytes with
          | .ok s => .ok (Char.ofNat value :: s)
          | .error f => .error f
        else decodeFrom (offset + 1) (some ⟨b :: st.seen, value, st.more - 1, 0x80, 0xBF⟩) bytes
      else .error ⟨offset - st.seen.length, st.seen.reverse, .continuation⟩

/-- The text that bytes encode. -/
def decode (bytes : List UInt8) : Except Fault Text :=
  decodeFrom 0 none bytes

end Utf8

end MarkupAudit
