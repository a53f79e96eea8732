import MarkupAudit.Text.Compatibility
import MarkupAudit.Text.Digit
import MarkupAudit.Text.Identifier

/-!
# Tokens

The code in a block is cut into tokens: names, reserved words, numbers, string literals and symbols.
A line break is a token of its own outside of brackets. What a number stands for is of no interest
to an audit, so a number is only checked; a string literal keeps its body as written.

The first line that holds more than a comment may not be indented, and brackets may be nested two
hundred deep.
-/

namespace MarkupAudit

/-- A string literal as written: what its letters ask for, and the text between its quotes. -/
structure StringLiteral where
  bytes : Bool
  raw : Bool
  formatted : Bool
  body : Text
  deriving DecidableEq, Repr

/-- A token of an expression. A fault stands where no token can be read; it is always the last. -/
inductive Token where
  | name (id : String)
  | word (reserved : String)
  | number
  | string (literal : StringLiteral)
  | symbol (text : String)
  | newline
  | fault
  deriving DecidableEq, Repr

namespace Token

/-- The words that cannot be names. -/
def reserved : List String :=
  ["False", "None", "True", "and", "as", "assert", "async", "await", "break", "class", "continue",
   "def", "del", "elif", "else", "except", "finally", "for", "from", "global", "if", "import", "in",
   "is", "lambda", "nonlocal", "not", "or", "pass", "raise", "return", "try", "while", "with",
   "yield"]

/-- The symbols of three characters. -/
def symbols3 : List String := ["**=", "...", "//=", "<<=", ">>="]

/-- The symbols of two characters. -/
def symbols2 : List String :=
  ["!=", "%=", "&=", "**", "*=", "+=", "-=", "->", "//", "/=", ":=", "<<", "<=", "<>", "==", ">=",
   ">>", "@=", "^=", "|="]

/-- The most brackets that may be open at once. -/
def maxDepth : Nat := 200

/-- A character that may start a word: a letter, the low line, or anything that is not ASCII, which
is checked once the word is complete. -/
def startsWord (c : Char) : Bool :=
  Text.isLetter c || c = '_' || 0x80 ≤ c.toNat

/-- A character that may continue a word. -/
def continuesWord (c : Char) : Bool :=
  startsWord c || Text.isAsciiDigit c

/-- A blank inside a line. -/
def isGap (c : Char) : Bool :=
  c = ' ' || c = '\t' || c = '\x0c'

/-! ### Numbers -/

/-- Reads digits in groups that single low lines divide: the digits, and the rest. Each group has at
least one digit. -/
def groups? (isDigit : Char → Bool) : (fuel : Nat) → Text → Option (Text × Text)
  | 0, _ => none
  | fuel + 1, s =>
      let ds := s.takeWhile isDigit
      if ds.isEmpty then none
      else
        match s.dropWhile isDigit with
        | '_' :: rest => (groups? isDigit fuel rest).map fun (more, after) => (ds ++ more, after)
        | rest => some (ds, rest)

/-- Decimal digits in groups. -/
def decimals? (s : Text) : Option (Text × Text) :=
  groups? Text.isAsciiDigit (s.length + 1) s

/-- Whether the end of a number is well set off from what follows: a word may follow at once only if
it begins as one that can stand behind a number. -/
def endsWell (rest : Text) : Bool :=
  match rest with
  | 'a' :: 'n' :: 'd' :: _ => true
  | 'e' :: 'l' :: 's' :: 'e' :: _ => true
  | 'f' :: 'o' :: 'r' :: _ => true
  | 'i' :: 'f' :: _ => true
  | 'i' :: 'n' :: _ => true
  | 'i' :: 's' :: _ => true
  | 'o' :: 'r' :: _ => true
  | 'n' :: 'o' :: 't' :: _ => true
  | c :: _ => !continuesWord c
  | [] => true

/-- The rest of a text behind a number that ends here, if it is well set off. -/
def finish? (rest : Text) : Option Text :=
  if endsWell rest then some rest else none

/-- The rest behind the mark of an imaginary number, if there is one, else behind the number. -/
def imaginary? (rest : Text) : Option Text :=
  match rest with
  | c :: more => if c = 'j' || c = 'J' then finish? more else finish? rest
  | [] => some []

/-- The rest behind an exponent, if there is one, and the mark of an imaginary number. A letter `e`
without digits behind it is not part of the number. -/
def exponent? (rest : Text) : Option Text :=
  match rest with
  | e :: more =>
      if e = 'e' || e = 'E' then
        match more with
        | c :: digits =>
            if c = '+' || c = '-' then (decimals? digits).bind fun (_, after) => imaginary? after
            else if Text.isAsciiDigit c then
              (decimals? more).bind fun (_, after) => imaginary? after
            else finish? rest
        | [] => finish? rest
      else imaginary? rest
  | [] => some []

/-- The rest behind the digits of a fraction, whose point has been read. -/
def fraction? (rest : Text) : Option Text :=
  match rest with
  | c :: _ =>
      if Text.isAsciiDigit c then (decimals? rest).bind fun (_, after) => exponent? after
      else exponent? rest
  | [] => some []

/-- Whether a character is a digit in a base up to sixteen. -/
def isDigitIn (base : Nat) (c : Char) : Bool :=
  if Text.isAsciiDigit c then c.toNat - 48 < base
  else base = 16 && (('a' ≤ c && c ≤ 'f') || ('A' ≤ c && c ≤ 'F'))

/-- The rest behind a number in a base other than ten, whose letter has been read. -/
def based? (base : Nat) (s : Text) : Option Text :=
  let digits := match s with
    | '_' :: rest => rest
    | _ => s
  match groups? (isDigitIn base) (s.length + 1) digits with
  | none => none
  | some (_, rest) =>
      match rest with
      | c :: _ => if Text.isAsciiDigit c then none else finish? rest
      | [] => some []

/-- The rest of a text behind the number at its head. A whole number other than zero may not start
with a zero, and may not have too many digits. -/
def number? (s : Text) : Option Text :=
  match s with
  | '.' :: rest => fraction? rest
  | '0' :: c :: rest =>
      if c = 'x' || c = 'X' then based? 16 rest
      else if c = 'o' || c = 'O' then based? 8 rest
      else if c = 'b' || c = 'B' then based? 2 rest
      else
        match decimals? s with
        | none => none
        | some (digits, after) =>
            match after with
            | '.' :: more => fraction? more
            | d :: _ =>
                if d = 'e' || d = 'E' || d = 'j' || d = 'J' then exponent? after
                else if digits.all (· = '0') then finish? after
                else none
            | [] => if digits.all (· = '0') then some [] else none
  | _ =>
      match decimals? s with
      | none => none
      | some (digits, after) =>
          match after with
          | '.' :: more => fraction? more
          | d :: more =>
              let floating :=
                d = 'j' || d = 'J' ||
                  ((d = 'e' || d = 'E') &&
                    match more with
                    | c :: _ => c = '+' || c = '-' || Text.isAsciiDigit c
                    | [] => false)
              if floating then exponent? after
              else if digits.length ≤ NumeralTooLong.limit then finish? after
              else none
          | [] => if digits.length ≤ NumeralTooLong.limit then some [] else none

/-! ### Strings -/

/-- The letters before a string literal, as far as they have been read. -/
structure Letters where
  bytes : Bool := false
  raw : Bool := false
  unicode : Bool := false
  formatted : Bool := false

/-- Takes one more letter, if it can stand with those before it. -/
def Letters.add? (l : Letters) (c : Char) : Option Letters :=
  if (c = 'b' || c = 'B') && !(l.bytes || l.unicode || l.formatted) then
    some { l with bytes := true }
  else if (c = 'u' || c = 'U') && !(l.bytes || l.unicode || l.raw || l.formatted) then
    some { l with unicode := true }
  else if (c = 'r' || c = 'R') && !(l.raw || l.unicode) then some { l with raw := true }
  else if (c = 'f' || c = 'F') && !(l.formatted || l.bytes || l.unicode) then
    some { l with formatted := true }
  else none

/-- The letters before a string literal and the text from its quotation mark on, if a text starts
with such letters. -/
def letters? (l : Letters) : Text → Option (Letters × Text)
  | [] => none
  | c :: rest =>
      if c = '\'' || c = '"' then some (l, c :: rest)
      else
        match l.add? c with
        | some l => letters? l rest
        | none => none

/-- Reads a string up to a single quotation mark: its body, and the rest. -/
def shortBody? (quote : Char) : Text → Option (Text × Text)
  | [] => none
  | '\\' :: c :: rest => (shortBody? quote rest).map fun (b, after) => ('\\' :: c :: b, after)
  | c :: rest =>
      if c = quote then some ([], rest)
      else if c = '\n' then none
      else (shortBody? quote rest).map fun (b, after) => (c :: b, after)

/-- Reads a string up to three quotation marks: its body, and the rest. -/
def longBody? (quote : Char) : Text → Option (Text × Text)
  | [] => none
  | '\\' :: c :: rest => (longBody? quote rest).map fun (b, after) => ('\\' :: c :: b, after)
  | c :: rest =>
      if c = quote && rest.take 2 = [quote, quote] then some ([], rest.drop 2)
      else (longBody? quote rest).map fun (b, after) => (c :: b, after)

/-- Reads a string literal from its quotation mark on: its body, and the rest. -/
def body? : Text → Option (Text × Text)
  | q :: a :: b :: rest =>
      if a = q && b = q then longBody? q rest
      else if a = q then some ([], b :: rest)
      else shortBody? q (a :: b :: rest)
  | q :: rest => shortBody? q rest
  | [] => none

/-! ### Lines and tokens -/

/-- Where the reading of tokens stands: the open brackets, the innermost first, and whether a line
has just begun. -/
structure LexState where
  brackets : List Char
  lineStart : Bool

/-- The closing bracket of an opening one. -/
def closing? : Char → Option Char
  | '(' => some ')'
  | '[' => some ']'
  | '\x7b' => some '\x7d'
  | _ => none

/-- Skips the blanks at the start of a line. Gives the column of what follows: that of the first
line if the start is continued over several lines by backslashes. -/
def indentation? (column : Nat) (continued : Nat) : Text → Option (Nat × Text)
  | [] => some (0, [])
  | '\\' :: '\n' :: c :: rest =>
      indentation? column (if continued = 0 then column else continued) (c :: rest)
  | '\\' :: _ => none
  | c :: rest =>
      if c = '\x0c' then indentation? 0 continued rest
      else if c = ' ' || c = '\t' then indentation? (column + 1) continued rest
      else some (if continued = 0 then column else continued, c :: rest)

/-- The symbol at the head of a text: the longest that fits, and the rest. -/
def longestSymbol (c : Char) (rest : Text) : String × Text :=
  let three := String.ofList (c :: rest.take 2)
  let two := String.ofList (c :: rest.take 1)
  if symbols3.contains three then (three, rest.drop 2)
  else if symbols2.contains two then (two, rest.drop 1)
  else (String.ofList [c], rest)

/-- Reads a name or reserved word from the head of a text. -/
def word? (s : Text) : Option (Token × Text) :=
  let chars := s.takeWhile continuesWord
  let rest := s.dropWhile continuesWord
  let text := String.ofList chars
  if chars.all (·.toNat < 0x80) then
    some (if reserved.contains text then .word text else .name text, rest)
  else if Text.isIdentifier chars then some (.name (String.ofList (Text.compatible chars)), rest)
  else none

/-- Reads a bracket, or any other symbol, from the head of a text. -/
def symbol? (brackets : List Char) (c : Char) (rest : Text) :
    Option (Token × List Char × Text) :=
  match closing? c with
  | some close =>
      if brackets.length < maxDepth then
        some (.symbol (String.ofList [c]), close :: brackets, rest)
      else none
  | none =>
      if c = ')' || c = ']' || c = '\x7d' then
        match brackets with
        | b :: more => if b = c then some (.symbol (String.ofList [c]), more, rest) else none
        | [] => none
      else
        let (text, rest) := longestSymbol c rest
        some (.symbol text, brackets, rest)

/-- Cuts a text into tokens; `fuel` bounds the number of steps. -/
def lex : (fuel : Nat) → LexState → Text → List Token
  | 0, _, _ => [.fault]
  | fuel + 1, st, s =>
      let finish : List Token := if st.brackets.isEmpty then [] else [.fault]
      if st.lineStart then
        match indentation? 0 0 s with
        | none => [.fault]
        | some (column, rest) =>
            match rest with
            | [] => finish
            | '\n' :: rest => lex fuel st rest
            | '#' :: rest =>
                match rest.dropWhile (· ≠ '\n') with
                | [] => finish
                | _ :: rest => lex fuel st rest
            | _ =>
                if column ≠ 0 && st.brackets.isEmpty then [.fault]
                else lex fuel { st with lineStart := false } rest
      else
        match s with
        | [] => finish
        | c :: rest =>
            if isGap c then lex fuel st rest
            else if c = '#' then lex fuel st (rest.dropWhile (· ≠ '\n'))
            else if c = '\n' then
              let more := lex fuel { st with lineStart := true } rest
              if st.brackets.isEmpty then .newline :: more else more
            else if c = '\\' then
              match rest with
              | '\n' :: d :: more => lex fuel st (d :: more)
              | _ => [.fault]
            else
              match letters? {} s with
              | some (l, quoted) =>
                  match body? quoted with
                  | none => [.fault]
                  | some (body, after) =>
                      .string ⟨l.bytes, l.raw, l.formatted, body⟩ :: lex fuel st after
              | none =>
                  if startsWord c then
                    match word? s with
                    | none => [.fault]
                    | some (t, after) => t :: lex fuel st after
                  else
                    let startsNumber :=
                      Text.isAsciiDigit c ||
                        (c = '.' &&
                          match rest with
                          | d :: _ => Text.isAsciiDigit d
                          | [] => false)
                    if startsNumber then
                      match number? s with
                      | none => [.fault]
                      | some after => .number :: lex fuel st after
                    else
                      match symbol? st.brackets c rest with
                      | none => [.fault]
                      | some (t, brackets, after) =>
                          t :: lex fuel { st with brackets := brackets } after

/-- Cuts the code of a block into tokens. Code with a null character is not code. -/
def ofCode (code : Text) : List Token :=
  if code.contains '\x00' then [.fault]
  else
    let s := Text.unifyBreaks code
    lex (2 * s.length + 2) ⟨[], true⟩ s

end Token

end MarkupAudit
