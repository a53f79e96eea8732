import MarkupAudit.Text.CharacterName.Alphabets
import MarkupAudit.Text.CharacterName.EastAsian
import MarkupAudit.Text.CharacterName.Further
import MarkupAudit.Text.CharacterName.Historic
import MarkupAudit.Text.CharacterName.Pictographs
import MarkupAudit.Text.CharacterName.Symbols
import MarkupAudit.Text.Ranges

/-!
# Looking characters up by name

A character is found by its name in one of the tables, whatever the case of the letters. Two large
groups have names by rule: syllables of Hangul are named by their parts, and ideographs by their code
points. Names of these two groups are written in capital letters only.
-/

namespace MarkupAudit.CharacterName

/-- A name in capital letters, as far as its letters are ASCII letters. -/
def capitals (name : Text) : Text :=
  name.map fun c => if 'a' ≤ c && c ≤ 'z' then Char.ofNat (c.toNat - 32) else c

/-- Searches the tokens of a table for a name. `code` and `words` belong to the entry that is being
read. -/
def search (wanted : List Text) (code : Nat) (words : List Text) : (tokens : List Text) → Option Nat
  | [] => if words = wanted then some code else none
  | [] :: rest => search wanted code words rest
  | (c :: cs) :: rest =>
      if 'a' ≤ c && c ≤ 'z' then
        if words = wanted then some code
        else
          search wanted (if cs.isEmpty then code + 1 else CharRanges.hex cs)
            (words.take (c.toNat - 97)) rest
      else search wanted code (words ++ [c :: cs]) rest

/-- The code point of a name in a table. -/
def inTable? (wanted : List Text) (table : String) : Option Nat :=
  search wanted 0 [] (Text.words table.toList)

/-- A group of characters that are named by a phrase and their code points. A padded code point may
have a zero at its start. -/
structure Numbered where
  phrase : String
  padded : Bool
  members : CharRanges

/-- The ideographs. -/
def ideographs : Numbered :=
  ⟨"CJK UNIFIED IDEOGRAPH-", true, CharRanges.ofTable
    "3400-4DBF 4E00-9FFF 20000-2A6DF 2A700-2B738 2B740-2B81D 2B820-2CEA1 2CEB0-2EBE0 30000-3134A"⟩

/-- The smaller groups of characters that are named by their code points. -/
def numbered : List Numbered :=
  [⟨"CJK COMPATIBILITY IDEOGRAPH-", false, CharRanges.ofTable "F900-FA6D FA70-FAD9 2F800-2FA1D"⟩,
   ⟨"KHITAN SMALL SCRIPT CHARACTER-", false, CharRanges.ofTable "18B00-18CD5"⟩,
   ⟨"NUSHU CHARACTER-", false, CharRanges.ofTable "1B170-1B2FB"⟩]

/-- Whether a character is a hexadecimal digit in capitals. -/
def isHexDigit (c : Char) : Bool :=
  Text.isAsciiDigit c || ('A' ≤ c && c ≤ 'F')

/-- The code point that a name of a numbered group ends with: four or five hexadecimal digits. -/
def Numbered.find? (g : Numbered) (name : Text) : Option Nat :=
  (Text.after? g.phrase.toList name).bind fun digits =>
    if (digits.length = 4 || digits.length = 5) && digits.all isHexDigit &&
        (g.padded || digits.head? ≠ some '0') && g.members.contains (Char.ofNat (CharRanges.hex digits)) then
      some (CharRanges.hex digits)
    else none

/-- The first sounds of a syllable of Hangul. -/
def initials : List Text :=
  ["G", "GG", "N", "D", "DD", "R", "M", "B", "BB", "S", "SS", "", "J", "JJ", "C", "K", "T", "P",
   "H"].map String.toList

/-- The vowels of a syllable of Hangul. -/
def vowels : List Text :=
  ["A", "AE", "YA", "YAE", "EO", "E", "YEO", "YE", "O", "WA", "WAE", "OE", "YO", "U", "WEO", "WE",
   "WI", "YU", "EU", "YI", "I"].map String.toList

/-- The last sounds of a syllable of Hangul. -/
def finals : List Text :=
  ["", "G", "GG", "GS", "N", "NJ", "NH", "D", "L", "LG", "LM", "LB", "LS", "LT", "LP", "LH", "M",
   "B", "BS", "S", "SS", "NG", "J", "C", "K", "T", "P", "H"].map String.toList

/-- The longest of some sounds that a text starts with: its number, and the rest. -/
def sound? (sounds : List Text) (s : Text) : Option (Nat × Text) :=
  sounds.zipIdx.foldl (fun best (sound, i) =>
    match Text.after? sound s, best with
    | some rest, none => some (i, rest)
    | some rest, some (_, shortest) =>
        if rest.length < shortest.length then some (i, rest) else best
    | none, _ => best) none

/-- The code point of a syllable by its parts. -/
def syllable? (name : Text) : Option Nat := do
  let s ← Text.after? "HANGUL SYLLABLE ".toList name
  let (l, s) ← sound? initials s
  let (v, s) ← sound? vowels s
  let (t, s) ← sound? finals s
  if s.isEmpty then some (0xAC00 + (l * 21 + v) * 28 + t) else none

/-- The character with a name. -/
def find? (name : Text) : Option Char :=
  let whole := capitals name
  let wanted := Text.splitOn ' ' whole
  (((syllable? name).orElse fun _ => ideographs.find? name).orElse fun _ =>
    (numbered.findSome? (·.find? whole)).orElse fun _ =>
      [alphabets, symbols, eastAsian, historic, pictographs, further].findSome?
        (inTable? wanted)).map Char.ofNat

end MarkupAudit.CharacterName
