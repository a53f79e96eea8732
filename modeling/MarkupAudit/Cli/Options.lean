import MarkupAudit.Settings.Convert

/-!
# Options of the command line

The words of a command line are options, values of options, and paths. A long option may be cut short
as long as it stays unique, its value may follow an equals sign, short options may be joined, and two
dashes end the options. Paths have to stand together in one place.
-/

namespace MarkupAudit.Cli

/-- What a command line asks for. -/
structure Options where
  paths : List Text := []
  autocorrect : Bool := false
  listRules : Bool := false
  exportTo : Option Text := none
  workers : Option Int := none
  config : Option Text := none
  rules : Option Text := none
  logLevel : Option Text := none
  deriving DecidableEq, Repr

/-- The options by name. -/
inductive OptionName where
  | help
  | autocorrect
  | exportTo
  | workers
  | config
  | rules
  | logLevel
  | listRules
  deriving DecidableEq, Repr

/-- Whether an option has a value. -/
def OptionName.hasValue : OptionName → Bool
  | .help | .autocorrect | .listRules => false
  | _ => true

/-- How options are spelled. -/
def spellings : List (Text × OptionName) :=
  [("-h", .help), ("--help", .help), ("-a", .autocorrect), ("--autocorrect", .autocorrect),
   ("--export", .exportTo), ("--workers", .workers), ("--config", .config), ("--rules", .rules),
   ("--log-level", .logLevel), ("--list-rules", .listRules)].map fun (s, n) => (s.toList, n)

/-- The option with exactly this spelling. -/
def exactly? (s : Text) : Option OptionName :=
  (spellings.find? fun e => e.1 == s).map (·.2)

/-- What ends the reading of a command line early. -/
inductive Stop where
  | help
  | misuse
  deriving DecidableEq, Repr

/-- A word of a command line by its role. -/
inductive Word where
  | argument (s : Text)
  | divider
  | option (spelling : Text) (name : OptionName) (value : Option Text)
  | unknown
  deriving DecidableEq, Repr

/-- Cuts a text at its first equals sign. -/
def cutEquals? (s : Text) : Option (Text × Text) :=
  if s.contains '=' then some (s.takeWhile (· ≠ '='), (s.dropWhile (· ≠ '=')).drop 1) else none

/-- Whether a text is a number with a minus sign: digits, perhaps with a point among them. A line
break may follow. -/
def isNegativeNumber (s : Text) : Bool :=
  let body := if s.getLast? = some '\n' then s.dropLast else s
  match body with
  | '-' :: rest =>
      let places := (rest.dropWhile Text.isDigit).drop 1
      (!rest.isEmpty && rest.all Text.isDigit) ||
        ((rest.dropWhile Text.isDigit).head? = some '.' && !places.isEmpty &&
          places.all Text.isDigit)
  | _ => false

/-- The options that a word can be short for, each with its value. -/
def candidates (s : Text) : List (Text × OptionName × Option Text) :=
  match s with
  | '-' :: '-' :: _ =>
      let (stem, value) :=
        match cutEquals? s with
        | some (stem, value) => (stem, some value)
        | none => (s, none)
      (spellings.filter fun e => stem.isPrefixOf e.1).map fun (spelling, name) =>
        (spelling, name, value)
  | _ =>
      (spellings.filter fun e => e.1 == s.take 2).map fun (spelling, name) =>
        (spelling, name, some (s.drop 2))

/-- The role of a word that stands before any divider. -/
def classify (s : Text) : Except Stop Word :=
  match s with
  | '-' :: _ :: _ =>
      match exactly? s, (cutEquals? s).bind fun (stem, value) =>
          (exactly? stem).map fun name => (stem, name, value) with
      | some name, _ => .ok (.option s name none)
      | none, some (stem, name, value) => .ok (.option stem name (some value))
      | none, none =>
          match candidates s with
          | [(spelling, name, value)] => .ok (.option spelling name value)
          | _ :: _ :: _ => .error .misuse
          | [] =>
              if isNegativeNumber s || s.contains ' ' then .ok (.argument s) else .ok .unknown
  | _ => .ok (.argument s)

/-- The roles of all words. Behind the divider all words are arguments. -/
def classifyAll : List Text → Except Stop (List Word)
  | [] => .ok []
  | s :: rest =>
      if s = ['-', '-'] then .ok (.divider :: rest.map Word.argument)
      else
        match classify s with
        | .error e => .error e
        | .ok w => (classifyAll rest).map (w :: ·)

/-- Applies an option without a value. -/
def switchOn (o : Options) : OptionName → Except Stop Options
  | .help => .error .help
  | .autocorrect => .ok { o with autocorrect := true }
  | .listRules => .ok { o with listRules := true }
  | _ => .ok o

/-- Withdraws an option that may have been given before. -/
def withdraw (o : Options) : OptionName → Options
  | .exportTo => { o with exportTo := none }
  | .workers => { o with workers := none }
  | .config => { o with config := none }
  | .rules => { o with rules := none }
  | .logLevel => { o with logLevel := none }
  | .help | .autocorrect | .listRules => o

/-- Applies an option with its value. The divider as a value withdraws the option, and the number of
workers has to be a whole number. -/
def assign (o : Options) (name : OptionName) (value : Text) : Except Stop Options :=
  if value = ['-', '-'] then .ok (withdraw o name)
  else
    match name with
    | .exportTo => .ok { o with exportTo := some value }
    | .config => .ok { o with config := some value }
    | .rules => .ok { o with rules := some value }
    | .logLevel => .ok { o with logLevel := some value }
    | .workers =>
        match Convert.readInt? value with
        | some n => .ok { o with workers := some n }
        | none => .error .misuse
    | _ => .ok o

/-- The short options that the letters behind a short option stand for. -/
def joined? (letters : Text) : Option (List OptionName) :=
  letters.mapM fun c => exactly? ['-', c]

/-- Applies options without values in turn. -/
def switchAll (o : Options) : List OptionName → Except Stop Options
  | [] => .ok o
  | name :: rest =>
      match switchOn o name with
      | .error e => .error e
      | .ok o => switchAll o rest

/-- Applies an option that has no value, with what follows it in the same word. -/
def applySwitch (o : Options) (spelling : Text) (name : OptionName) :
    (value : Option Text) → Except Stop Options
  | none => switchOn o name
  | some letters =>
      if letters.isEmpty || "--".toList.isPrefixOf spelling then .error .misuse
      else
        match joined? letters with
        | none => .error .misuse
        | some names => switchAll o (name :: names)

/-- The paths among some words. -/
def pathsOf (words : List Word) : List Text :=
  words.filterMap fun
    | .argument s => some s
    | _ => none

/-- A command line that is being read: the options so far, whether the paths have been read, and
whether there was a word that has no place. -/
structure Reading where
  options : Options := {}
  pathsRead : Bool := false
  misplaced : Bool := false

/-- Takes up a run of paths. -/
def Reading.takePaths (r : Reading) (run : List Word) : Reading :=
  if r.pathsRead then { r with misplaced := r.misplaced || !run.isEmpty }
  else { r with options := { r.options with paths := pathsOf run }, pathsRead := true }

/-- Joins each option that has a value with the argument behind it, unless its value stands in the
same word. -/
def joinValues : List Word → List Word
  | .option spelling name none :: .argument v :: rest =>
      if name.hasValue then .option spelling name (some v) :: joinValues rest
      else .option spelling name none :: joinValues (.argument v :: rest)
  | w :: rest => w :: joinValues rest
  | [] => []

/-- Applies an option. -/
def applyOption (o : Options) (spelling : Text) (name : OptionName) (value : Option Text) :
    Except Stop Options :=
  if name.hasValue then
    match value with
    | some v => assign o name v
    | none => .error .misuse
  else applySwitch o spelling name value

/-- Reads words; `run` holds the paths and dividers just read, latest first. -/
def readWords (r : Reading) (run : List Word) : List Word → Except Stop Reading
  | [] => .ok (r.takePaths run.reverse)
  | .argument s :: rest => readWords r (.argument s :: run) rest
  | .divider :: rest => readWords r (.divider :: run) rest
  | .unknown :: rest =>
      let r := if run.isEmpty then r else r.takePaths run.reverse
      readWords { r with misplaced := true } [] rest
  | .option spelling name value :: rest =>
      let r := if run.isEmpty then r else r.takePaths run.reverse
      match applyOption r.options spelling name value with
      | .error e => .error e
      | .ok o => readWords { r with options := o } [] rest

/-- Reads a command line. -/
def Options.parse (arguments : List Text) : Except Stop Options :=
  match classifyAll arguments with
  | .error e => .error e
  | .ok words =>
      match readWords {} [] (joinValues words) with
      | .error e => .error e
      | .ok r => if r.misplaced then .error .misuse else .ok r.options

end MarkupAudit.Cli
