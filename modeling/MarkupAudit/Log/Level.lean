import MarkupAudit.Settings.Display

/-!
# Log levels

A level is a number: what is less serious than the level of a log is left out. Settings give levels as
numbers or by name; an unknown name stands for a default.
-/

namespace MarkupAudit.Log

/-- A level. A truth value counts as one or zero. -/
inductive Level where
  | number (n : Int)
  | flag (b : Bool)
  deriving DecidableEq, Repr

namespace Level

/-- The number of a level. -/
def value : Level → Int
  | .number n => n
  | .flag b => if b then 1 else 0

/-- The levels with a name of their own, and the other names of some. -/
def named : List (String × Int) :=
  [("CRITICAL", 50), ("FATAL", 50), ("ERROR", 40), ("WARNING", 30), ("WARN", 30), ("INFO", 20),
   ("DEBUG", 10), ("NOTSET", 0)]

/-- How a level is called in a log. -/
def label (n : Int) : String :=
  match named.find? fun l => l.2 == n with
  | some (name, _) => name
  | none => "Level " ++ toString n

/-- The level of a message about something that was left as it is. -/
def warning : Level := .number 30

/-- The level of a message about how the work goes on. -/
def info : Int := 20

/-- The level of a message about the end of the work. -/
def critical : Int := 50

/-- A letter in upper case, if that is made up of ASCII letters: besides the ASCII letters this holds
of the letter i without a dot, the long s, and ligatures. -/
def upperChar (c : Char) : Text :=
  if 'a' ≤ c && c ≤ 'z' then [Char.ofNat (c.toNat - 32)]
  else
    match c with
    | 'ı' => ['I']
    | 'ſ' => ['S']
    | 'ß' => ['S', 'S']
    | 'ﬀ' => ['F', 'F']
    | 'ﬁ' => ['F', 'I']
    | 'ﬂ' => ['F', 'L']
    | 'ﬃ' => ['F', 'F', 'I']
    | 'ﬄ' => ['F', 'F', 'L']
    | 'ﬅ' => ['S', 'T']
    | 'ﬆ' => ['S', 'T']
    | _ => [c]

/-- A name in upper case, as far as names of levels are concerned. -/
def upper (name : Text) : Text :=
  name.flatMap upperChar

end Level

/-- Why a value gives no level: it is a text that names none, or something else, which is shown if it can
be written out. -/
inductive LevelFault where
  | unknown (text : Text)
  | wrongKind (shown : Text)
  | display (fault : DisplayFault)
  deriving DecidableEq, Repr

/-- The fault in words. -/
def LevelFault.message : LevelFault → String
  | .unknown text => "Unknown level: " ++ String.ofList (Text.quoted text)
  | .wrongKind shown => "Level not an integer or a valid string: " ++ String.ofList shown
  | .display f => f.message

/-- The format of log lines. -/
def format : String := "%(levelname)s:%(name)s:%(message)s"

/-- The ways to write formats, as they are shown. -/
def styles : String :=
  "\x7b'%': (<class 'logging.PercentStyle'>, '%(levelname)s:%(name)s:%(message)s'), " ++
    "'\x7b': (<class 'logging.StrFormatStyle'>, '\x7blevelname\x7d:\x7bname\x7d:\x7bmessage\x7d'), " ++
    "'$': (<class 'logging.StringTemplateStyle'>, " ++
    "'$\x7blevelname\x7d:$\x7bname\x7d:$\x7bmessage\x7d')\x7d"

/-- What names stand for that are found where a level is looked for, but are not those of levels. -/
def otherNames : List (String × LevelFault) :=
  [("BASIC_FORMAT", .unknown format.toList), ("_STYLES", .wrongKind styles.toList)]

namespace Level

/-- The level that a name stands for. -/
def ofName (default : Int) (name : Text) : Except LevelFault Level :=
  let key := String.ofList (upper name)
  match otherNames.find? fun e => e.1 == key with
  | some (_, fault) => .error fault
  | none => .ok (.number (((named.find? fun l => l.1 == key).map (·.2)).getD default))

/-- The level that a value gives; null gives the default. -/
def ofValue (default : Int) : Value → Except LevelFault Level
  | .scalar (.str s) =>
      match s.text? with
      | some name => ofName default name
      | none => .ok (.number default)
  | .scalar .null => .ok (.number default)
  | .scalar (.int n) => .ok (.number n)
  | .scalar (.bool b) => .ok (.flag b)
  | other =>
      match other.display 0 with
      | .ok shown => .error (.wrongKind shown)
      | .error f => .error (.display f)

end Level

end MarkupAudit.Log
