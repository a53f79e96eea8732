import MarkupAudit.Expr.Basic
import MarkupAudit.Expr.Format
import MarkupAudit.Expr.Token

/-!
# Reading expressions

Expressions are read from tokens by recursive descent, one function for each level of the grammar.
The functions take a number that bounds how deep they may call each other; `Expr.parse` chooses it
large enough for the code it reads, so callers never see it.

The grammar itself bounds how many of its rules may be in progress at once. Each function is told how
many are, and counts those that it stands for on the way to the next: between an expression and the
atom at its head there are 22 rules. Code that needs too many rules is not read, which is a fault;
code that is not one expression, such as a statement, is not read either, which is no fault.
-/

namespace MarkupAudit

namespace ExprReader

/-- Why no expression is read: there is none, or too many rules of the grammar are in progress. -/
inductive Stop where
  | invalid
  | tooDeep
  deriving DecidableEq, Repr

/-- The outcome of reading: something, and the rest of the tokens. -/
abbrev Outcome (α : Type) := Except Stop (α × List Token)

/-- A reader of expressions: the expression at the head of the tokens, and the rest. -/
abbrev Reader := List Token → Outcome Expr

/-- There is nothing to be read. -/
abbrev refuse {α : Type} : Except Stop α := .error .invalid

/-- The most rules of the grammar that may be in progress at once. The number is that of one version of
the interpreter. -/
def maxRules : Nat := 6000

/-- Goes on if not too many rules are in progress. -/
def within {α : Type} (rules : Nat) (go : Except Stop α) : Except Stop α :=
  if rules ≤ maxRules then go else .error .tooDeep

/-- What is there, or a refusal. -/
def orRefuse {α : Type} : Option α → Except Stop α
  | some a => .ok a
  | none => refuse

/-- Items with commas between them, and perhaps one behind the last if `stop` holds there: the items,
whether there is a comma behind the last, and the rest. The first item has a reader of its own. -/
def sepList (first item : Reader) (stop : List Token → Bool) :
    (fuel : Nat) → List Token → Outcome (List Expr × Bool)
  | 0, _ => refuse
  | fuel + 1, ts =>
      match first ts with
      | .error f => .error f
      | .ok (e, .symbol "," :: more) =>
          if stop more then .ok (([e], true), more)
          else (sepList item item stop fuel more).map fun ((es, trailing), rest) =>
            ((e :: es, trailing), rest)
      | .ok (e, rest) => .ok (([e], false), rest)

/-- Operands with a token between each two. The first operand has a reader of its own. -/
def operands (between : Token) (first item : Reader) :
    (fuel : Nat) → List Token → Outcome (List Expr)
  | 0, _ => refuse
  | fuel + 1, ts =>
      match first ts with
      | .error f => .error f
      | .ok (e, []) => .ok ([e], [])
      | .ok (e, t :: more) =>
          if t = between then
            (operands between item item fuel more).map fun (es, rest) => (e :: es, rest)
          else .ok ([e], t :: more)

/-- Operands of operators that group to the left, behind the first operand. -/
def leftGrouped (symbols : List String) (item : Reader) :
    (fuel : Nat) → (left : Expr) → List Token → Outcome Expr
  | 0, _, _ => refuse
  | fuel + 1, left, ts =>
      match ts with
      | .symbol s :: more =>
          if symbols.contains s then
            match item more with
            | .error f => .error f
            | .ok (right, rest) =>
                leftGrouped symbols item fuel (.compound .binary [left, right]) rest
          else .ok (left, ts)
      | _ => .ok (left, ts)

/-- The rest behind an operator of comparison, if there is one. -/
def comparator? : List Token → Option (List Token)
  | .word "not" :: .word "in" :: rest => some rest
  | .word "in" :: rest => some rest
  | .word "is" :: .word "not" :: rest => some rest
  | .word "is" :: rest => some rest
  | .symbol s :: rest =>
      if ["==", "!=", "<=", "<", ">=", ">"].contains s then some rest else none
  | _ => none

/-- The further operands of a chain of comparisons. -/
def compared (item : Reader) : (fuel : Nat) → List Token → Outcome (List Expr)
  | 0, _ => refuse
  | fuel + 1, ts =>
      match comparator? ts with
      | none => .ok ([], ts)
      | some rest =>
          match item rest with
          | .error f => .error f
          | .ok (e, rest) => (compared item fuel rest).map fun (es, rest) => (e :: es, rest)

/-- The operators that group to the left, from the loosest level to the tightest. -/
def levels : List (List String) :=
  [["|"], ["^"], ["&"], ["<<", ">>"], ["+", "-"], ["*", "/", "//", "%", "@"]]

/-- Reads an operand of the tightest level with the operators of the given levels around it. -/
def grouped (operand : Reader) (fuel : Nat) : List (List String) → Reader
  | [], ts => operand ts
  | symbols :: tighter, ts =>
      match grouped operand fuel tighter ts with
      | .error f => .error f
      | .ok (left, rest) => leftGrouped symbols (grouped operand fuel tighter) fuel left rest

mutual

/-- Whether an expression may stand between `for` and `in`. -/
def isTarget : Expr → Bool
  | .name _ => true
  | .attribute _ _ => true
  | .compound .subscript _ => true
  | .compound .tuple parts => areTargets parts
  | .compound .list parts => areTargets parts
  | _ => false

/-- Whether all of some expressions may stand in a list of targets. -/
def areTargets : List Expr → Bool
  | [] => true
  | .compound .starred [e] :: es => isTarget e && areTargets es
  | e :: es => isTarget e && areTargets es

end

/-- Whether a comprehension goes on at the head of the tokens. -/
def atClause : List Token → Bool
  | .word "for" :: _ => true
  | .word "async" :: .word "for" :: _ => true
  | _ => false

/-- Whether the tokens begin with a given symbol. -/
def atSymbol (s : String) : List Token → Bool
  | .symbol t :: _ => s == t
  | _ => false

/-- The rest behind a given symbol. -/
def symbol (s : String) : List Token → Except Stop (List Token)
  | .symbol t :: rest => if s == t then .ok rest else refuse
  | _ => refuse

/-- What has been read, if a given symbol follows, with the rest behind that. -/
def closed (s : String) (e : Expr) (ts : List Token) : Outcome Expr :=
  (symbol s ts).map fun rest => (e, rest)

/-- One expression, or a tuple of several. -/
def tupleOf (es : List Expr) (trailing : Bool) : Expr :=
  match es, trailing with
  | [e], false => e
  | _, _ => .compound .tuple es

/-- Whether an expression is a starred item. -/
def isStarred : Expr → Bool
  | .compound .starred _ => true
  | _ => false

/-- Where the reading of the parameters of a function stands. -/
structure ParameterState where
  /-- Some parameter has been read. -/
  any : Bool := false
  /-- A slash has been read. -/
  slash : Bool := false
  /-- A parameter with a default has been read. -/
  defaulted : Bool := false
  /-- A star has been read. -/
  star : Bool := false
  /-- The star was bare, and no parameter has been read since. -/
  bare : Bool := false
  /-- Two stars have been read, so nothing may follow. -/
  closed : Bool := false
  /-- The defaults before the star, the latest first. -/
  defaults : List Expr := []
  /-- The defaults behind the star, the latest first. -/
  later : List Expr := []

/-- The parameters as an expression: first the defaults behind the star, then those before it. -/
def ParameterState.expr (st : ParameterState) : Expr :=
  .compound .parameters (st.later.reverse ++ st.defaults.reverse)

/-- Reads the parameters of a function up to and including the colon. -/
def parameters (default : Reader) :
    (fuel : Nat) → ParameterState → List Token → Outcome Expr
  | 0, _, _ => refuse
  | fuel + 1, st, ts =>
      let next (st : ParameterState) (rest : List Token) : Outcome Expr :=
        match rest with
        | .symbol "," :: more => parameters default fuel st more
        | .symbol ":" :: _ => parameters default fuel st rest
        | _ => refuse
      match ts with
      | .symbol ":" :: rest => if st.bare then refuse else .ok (st.expr, rest)
      | .symbol "/" :: rest =>
          if st.any && !st.slash && !st.star && !st.closed then next { st with slash := true } rest
          else refuse
      | .symbol "*" :: .name _ :: rest =>
          if st.star || st.closed then refuse else next { st with star := true } rest
      | .symbol "*" :: .symbol "," :: rest =>
          if st.star || st.closed then refuse
          else parameters default fuel { st with star := true, bare := true } rest
      | .symbol "**" :: .name _ :: rest =>
          if st.closed || st.bare then refuse else next { st with closed := true } rest
      | .name _ :: .symbol "=" :: rest =>
          if st.closed then refuse
          else
            match default rest with
            | .error f => .error f
            | .ok (e, rest) =>
                if st.star then next { st with bare := false, later := e :: st.later } rest
                else
                  next { st with any := true, defaulted := true, defaults := e :: st.defaults }
                    rest
      | .name _ :: rest =>
          if st.closed then refuse
          else if st.star then next { st with bare := false } rest
          else if st.defaulted then refuse
          else next { st with any := true } rest
      | _ => refuse

/-- The arguments of a call, as far as they have been read, the latest first. -/
structure CallState where
  args : List Expr := []
  keywords : List (Option String × Expr) := []
  /-- A keyword has been read, so no plain argument may follow. -/
  named : Bool := false
  /-- Two stars have been read, so no starred argument may follow. -/
  spread : Bool := false

/-- Reads the arguments of a call up to and including the closing bracket. -/
def arguments (value named : Reader) :
    (fuel : Nat) → CallState → List Token →
      Outcome (List Expr × List (Option String × Expr))
  | 0, _, _ => refuse
  | fuel + 1, st, ts =>
      let next (st : CallState) (rest : List Token) :
          Outcome (List Expr × List (Option String × Expr)) :=
        match rest with
        | .symbol "," :: more => arguments value named fuel st more
        | .symbol ")" :: _ => arguments value named fuel st rest
        | _ => refuse
      match ts with
      | .symbol ")" :: rest => .ok ((st.args.reverse, st.keywords.reverse), rest)
      | .symbol "*" :: rest =>
          if st.spread then refuse
          else
            match value rest with
            | .error f => .error f
            | .ok (e, rest) => next { st with args := .compound .starred [e] :: st.args } rest
      | .symbol "**" :: rest =>
          match value rest with
          | .error f => .error f
          | .ok (e, rest) =>
              next { st with named := true, spread := true, keywords := (none, e) :: st.keywords }
                rest
      | .name id :: .symbol "=" :: rest =>
          match value rest with
          | .error f => .error f
          | .ok (e, rest) =>
              next { st with named := true, keywords := (some id, e) :: st.keywords } rest
      | _ =>
          if st.named then refuse
          else
            match named ts with
            | .error f => .error f
            | .ok (e, rest) => next { st with args := e :: st.args } rest

/-- Whether the arguments of a call begin with a plain one. -/
def startsArgument : List Token → Bool
  | .symbol ")" :: _ => false
  | .symbol "*" :: _ => false
  | .symbol "**" :: _ => false
  | .name _ :: .symbol "=" :: _ => false
  | _ => true

/-- Reads a target, or several with commas between them, up to and including `in`. -/
def targets (primary : Reader) (fuel : Nat) (ts : List Token) : Outcome Expr :=
  let one : Reader := fun ts =>
    match ts with
    | .symbol "*" :: rest => (primary rest).map fun (e, rest) => (.compound .starred [e], rest)
    | _ => primary ts
  let stop : List Token → Bool := fun ts =>
    match ts with
    | .word "in" :: _ => true
    | _ => false
  match sepList one one stop fuel ts with
  | .error f => .error f
  | .ok ((es, trailing), .word "in" :: rest) =>
      if areTargets es then .ok (tupleOf es trailing, rest) else refuse
  | .ok _ => refuse

/-- Reads the conditions of a clause of a comprehension. -/
def conditions (condition : Reader) : (fuel : Nat) → List Token → Outcome (List Expr)
  | 0, _ => refuse
  | fuel + 1, ts =>
      match ts with
      | .word "if" :: rest =>
          match condition rest with
          | .error f => .error f
          | .ok (e, rest) =>
              (conditions condition fuel rest).map fun (es, rest) => (e :: es, rest)
      | _ => .ok ([], ts)

/-- Reads the clauses of a comprehension. -/
def clauses (primary source condition : Reader) : (fuel : Nat) → List Token → Outcome (List Expr)
  | 0, _ => refuse
  | fuel + 1, ts =>
      let clause (rest : List Token) : Outcome (List Expr) :=
        match targets primary fuel rest with
        | .error f => .error f
        | .ok (target, rest) =>
            match source rest with
            | .error f => .error f
            | .ok (iterated, rest) =>
                match conditions condition fuel rest with
                | .error f => .error f
                | .ok (tests, rest) =>
                    (clauses primary source condition fuel rest).map fun (more, rest) =>
                      (.compound .clause (target :: iterated :: tests) :: more, rest)
      match ts with
      | .word "async" :: .word "for" :: rest => clause rest
      | .word "for" :: rest => clause rest
      | _ => .ok ([], ts)

/-- Reads the literals at the head of the tokens. -/
def literals : List Token → List StringLiteral × List Token
  | .string l :: rest =>
      let (ls, after) := literals rest
      (l :: ls, after)
  | ts => ([], ts)

/-- The string of a literal that is not formatted. -/
def literalText? (l : StringLiteral) : Option CodeText :=
  if l.raw then some (CodeText.ofText l.body) else Escape.text? l.body

/-- The strings of all of some literals, in one. -/
def literalTexts? : List StringLiteral → Option CodeText
  | [] => some []
  | l :: ls =>
      match literalText? l, literalTexts? ls with
      | some s, some t => some (s ++ t)
      | _, _ => none

/-- The items of a dictionary display, up to and including the closing brace. -/
def dictItems (operand value : Reader) :
    (fuel : Nat) → List Token → Outcome (List (Option Expr × Expr))
  | 0, _ => refuse
  | fuel + 1, ts =>
      let next (entry : Option Expr × Expr) (rest : List Token) :
          Outcome (List (Option Expr × Expr)) :=
        match rest with
        | .symbol "," :: more =>
            (dictItems operand value fuel more).map fun (es, rest) => (entry :: es, rest)
        | .symbol "\x7d" :: more => .ok ([entry], more)
        | _ => refuse
      match ts with
      | .symbol "\x7d" :: rest => .ok ([], rest)
      | .symbol "**" :: rest =>
          match operand rest with
          | .error f => .error f
          | .ok (e, rest) => next (none, e) rest
      | _ =>
          match value ts with
          | .error f => .error f
          | .ok (key, rest) =>
              match (symbol ":" rest).bind value with
              | .error f => .error f
              | .ok (e, rest) => next (some key, e) rest

mutual

/-- Reads an expression: a function, or operators with perhaps a condition. -/
def expression : (fuel rules : Nat) → Reader
  | 0, _, _ => refuse
  | fuel + 1, rules, ts =>
      within rules <|
        match ts with
        | .word "lambda" :: rest =>
            match parameters (expression fuel (rules + 8)) fuel {} rest with
            | .error f => .error f
            | .ok (params, rest) =>
                (expression fuel (rules + 2) rest).map fun (body, rest) =>
                  (.compound .lambda [params, body], rest)
        | _ =>
            match disjunction fuel (rules + 1) ts with
            | .ok (body, .word "if" :: rest) =>
                match disjunction fuel (rules + 1) rest with
                | .ok (test, .word "else" :: rest) =>
                    (expression fuel (rules + 1) rest).map fun (alternative, rest) =>
                      (.conditional test body alternative, rest)
                | .ok _ => refuse
                | .error f => .error f
            | r => r

/-- Reads operands joined by `or`. -/
def disjunction : (fuel rules : Nat) → Reader
  | 0, _, _ => refuse
  | fuel + 1, rules, ts =>
      match operands (.word "or") (conjunction fuel (rules + 1)) (conjunction fuel (rules + 3)) fuel
          ts with
      | .error f => .error f
      | .ok ([e], rest) => .ok (e, rest)
      | .ok (es, rest) => .ok (.compound .boolean es, rest)

/-- Reads operands joined by `and`. -/
def conjunction : (fuel rules : Nat) → Reader
  | 0, _, _ => refuse
  | fuel + 1, rules, ts =>
      match operands (.word "and") (inversion fuel (rules + 1)) (inversion fuel (rules + 3)) fuel
          ts with
      | .error f => .error f
      | .ok ([e], rest) => .ok (e, rest)
      | .ok (es, rest) => .ok (.compound .boolean es, rest)

/-- Reads a negation or a chain of comparisons. -/
def inversion : (fuel rules : Nat) → Reader
  | 0, _, _ => refuse
  | fuel + 1, rules, ts =>
      within rules <|
        match ts with
        | .word "not" :: rest =>
            (inversion fuel (rules + 1) rest).map fun (e, rest) => (.compound .unary [e], rest)
        | _ =>
            match operation fuel (rules + 2) ts with
            | .error f => .error f
            | .ok (left, rest) =>
                match compared (operation fuel (rules + 5)) fuel rest with
                | .error f => .error f
                | .ok ([], rest) => .ok (left, rest)
                | .ok (es, rest) => .ok (.compound .comparison (left :: es), rest)

/-- Reads operands joined by operators that group to the left. -/
def operation : (fuel rules : Nat) → Reader
  | 0, _, _ => refuse
  | fuel + 1, rules, ts => grouped (factor fuel (rules + 12)) fuel levels ts

/-- Reads an operand with its signs and powers. -/
def factor : (fuel rules : Nat) → Reader
  | 0, _, _ => refuse
  | fuel + 1, rules, ts =>
      let sign (rest : List Token) : Outcome Expr :=
        (factor fuel (rules + 1) rest).map fun (e, rest) => (.compound .unary [e], rest)
      within rules <|
        match ts with
        | .symbol "+" :: rest => sign rest
        | .symbol "-" :: rest => sign rest
        | .symbol "~" :: rest => sign rest
        | _ =>
            let base : Outcome Expr :=
              match ts with
              | .word "await" :: rest =>
                  (primary fuel (rules + 4) rest).map fun (e, rest) =>
                    (Expr.compound .await [e], rest)
              | _ => primary fuel (rules + 4) ts
            match base with
            | .ok (e, .symbol "**" :: rest) =>
                (factor fuel (rules + 2) rest).map fun (power, rest) =>
                  (.compound .binary [e, power], rest)
            | r => r

/-- Reads an atom with the calls, subscripts and attributes behind it. -/
def primary : (fuel rules : Nat) → Reader
  | 0, _, _ => refuse
  | fuel + 1, rules, ts =>
      match atom fuel (rules + 1) ts with
      | .error f => .error f
      | .ok (e, rest) => trailers fuel rules e rest

/-- Reads the calls, subscripts and attributes behind an expression. -/
def trailers : (fuel rules : Nat) → Expr → Reader
  | 0, _, _, _ => refuse
  | fuel + 1, rules, e, ts =>
      match ts with
      | .symbol "." :: .name id :: rest => trailers fuel rules (.attribute e id) rest
      | .symbol "." :: _ => refuse
      | .symbol "(" :: rest =>
          match call fuel rules e rest with
          | .error f => .error f
          | .ok (e, rest) => trailers fuel rules e rest
      | .symbol "[" :: rest =>
          match slices fuel rules rest with
          | .error f => .error f
          | .ok (s, rest) => trailers fuel rules (.compound .subscript [e, s]) rest
      | _ => .ok (e, ts)

/-- Reads the arguments of a call: a comprehension alone, or arguments with commas between them. -/
def call : (fuel rules : Nat) → Expr → Reader
  | 0, _, _, _ => refuse
  | fuel + 1, rules, e, ts =>
      let further (st : CallState) (ts : List Token) : Outcome Expr :=
        (arguments (expression fuel (rules + 7)) (named fuel (rules + 6)) fuel st ts).map
          fun ((args, keywords), rest) => (.call e args keywords, rest)
      if startsArgument ts then
        match named fuel (rules + 2) ts with
        | .error f => .error f
        | .ok (first, rest) =>
            if atClause rest then
              match comprehension fuel (rules + 2) rest with
              | .error f => .error f
              | .ok (cs, rest) =>
                  closed ")" (.call e [.compound .generator (first :: cs)] []) rest
            else
              match rest with
              | .symbol "," :: more => further { args := [first] } more
              | .symbol ")" :: _ => further { args := [first] } rest
              | _ => refuse
      else further {} ts

/-- Reads the clauses of a comprehension. -/
def comprehension : (fuel rules : Nat) → List Token → Outcome (List Expr)
  | 0, _, _ => refuse
  | fuel + 1, rules, ts =>
      clauses (primary fuel (rules + 7)) (disjunction fuel (rules + 3))
        (disjunction fuel (rules + 5)) fuel ts

/-- Reads what stands in the brackets of a subscript, up to and including the closing one. -/
def slices : (fuel rules : Nat) → Reader
  | 0, _, _ => refuse
  | fuel + 1, rules, ts =>
      let item (rules : Nat) : Reader := fun ts =>
        match ts with
        | .symbol "*" :: rest =>
            (expression fuel (rules + 1) rest).map fun (e, rest) => (.compound .starred [e], rest)
        | _ => slice fuel rules ts
      match sepList (item (rules + 2)) (item (rules + 5)) (atSymbol "]") fuel ts with
      | .error f => .error f
      | .ok ((es, trailing), rest) =>
          let whole :=
            match es with
            | [.compound .starred _] => Expr.compound .tuple es
            | _ => tupleOf es trailing
          closed "]" whole rest

/-- Reads one subscript: an expression, or bounds with colons between them. -/
def slice : (fuel rules : Nat) → Reader
  | 0, _, _ => refuse
  | fuel + 1, rules, ts =>
      let bound (rules : Nat) (ts : List Token) : Outcome (List Expr) :=
        if atSymbol ":" ts || atSymbol "," ts || atSymbol "]" ts then .ok ([], ts)
        else (expression fuel rules ts).map fun (e, rest) => ([e], rest)
      let bounds (lower : List Expr) (rest : List Token) : Outcome Expr :=
        match bound (rules + 1) rest with
        | .error f => .error f
        | .ok (upper, .symbol ":" :: rest) =>
            (bound (rules + 2) rest).map fun (step, rest) =>
              (.compound .slice (lower ++ upper ++ step), rest)
        | .ok (upper, rest) => .ok (.compound .slice (lower ++ upper), rest)
      match ts with
      | .symbol ":" :: rest => bounds [] rest
      | .name _ :: .symbol ":=" :: _ => named fuel (rules + 1) ts
      | _ =>
          match expression fuel (rules + 1) ts with
          | .ok (e, .symbol ":" :: rest) => bounds [e] rest
          | r => r

/-- Reads an expression, or a name that an expression is bound to. -/
def named : (fuel rules : Nat) → Reader
  | 0, _, _ => refuse
  | fuel + 1, rules, ts =>
      match ts with
      | .name id :: .symbol ":=" :: rest =>
          (expression fuel (rules + 2) rest).map fun (e, rest) =>
            (.compound .assignment [.name id, e], rest)
      | _ => expression fuel (rules + 1) ts

/-- Reads an item of a display: an expression that may be bound, or a starred operand. -/
def starNamed : (fuel rules : Nat) → Reader
  | 0, _, _ => refuse
  | fuel + 1, rules, ts =>
      match ts with
      | .symbol "*" :: rest =>
          (operation fuel (rules + 1) rest).map fun (e, rest) => (.compound .starred [e], rest)
      | _ => named fuel (rules + 1) ts

/-- Reads an item of a bare tuple: an expression, or a starred operand. -/
def starExpression : (fuel rules : Nat) → Reader
  | 0, _, _ => refuse
  | fuel + 1, rules, ts =>
      match ts with
      | .symbol "*" :: rest =>
          (operation fuel (rules + 1) rest).map fun (e, rest) => (.compound .starred [e], rest)
      | _ => expression fuel (rules + 1) ts

/-- Reads what is yielded, behind the word for it. -/
def yielded : (fuel rules : Nat) → Reader
  | 0, _, _ => refuse
  | fuel + 1, rules, ts =>
      match ts with
      | .word "from" :: rest =>
          (expression fuel (rules + 1) rest).map fun (e, rest) => (.compound .yieldFrom [e], rest)
      | .symbol ")" :: _ => .ok (.compound .yield [], ts)
      | _ =>
          (sepList (starExpression fuel (rules + 2)) (starExpression fuel (rules + 4))
            (atSymbol ")") fuel ts).map fun ((es, trailing), rest) =>
              (.compound .yield [tupleOf es trailing], rest)

/-- Reads a display in brackets behind its first item: a comprehension over that item, or further
items. A single item in round brackets without a comma is that item. -/
def displayFrom :
    (fuel rules : Nat) → (close : String) → (all each : Form) → Expr → Reader
  | 0, _, _, _, _, _, _ => refuse
  | fuel + 1, rules, close, all, each, first, ts =>
      let starred := isStarred first
      let second := if all = .tuple then rules + 6 else rules + 5
      if atClause ts && !starred then
        match comprehension fuel (rules + 3) ts with
        | .error f => .error f
        | .ok (cs, rest) => closed close (.compound each (first :: cs)) rest
      else
        match ts with
        | .symbol "," :: more =>
            if atSymbol close more then closed close (.compound all [first]) more
            else
              match sepList (starNamed fuel second) (starNamed fuel (second + 1)) (atSymbol close)
                  fuel more with
              | .error f => .error f
              | .ok ((es, _), rest) => closed close (.compound all (first :: es)) rest
        | _ =>
            match symbol close ts with
            | .error f => .error f
            | .ok rest =>
                if all = .tuple then if starred then refuse else .ok (first, rest)
                else .ok (.compound all [first], rest)

/-- Reads a display in brackets behind the opening one. -/
def display : (fuel rules : Nat) → (close : String) → (all each : Form) → Reader
  | 0, _, _, _, _, _ => refuse
  | fuel + 1, rules, close, all, each, ts =>
      match starNamed fuel (if all = .tuple then rules + 4 else rules + 5) ts with
      | .error f => .error f
      | .ok (first, rest) => displayFrom fuel rules close all each first rest

/-- Reads an atom: a name, a constant, strings, or something in brackets. -/
def atom : (fuel rules : Nat) → Reader
  | 0, _, _ => refuse
  | fuel + 1, rules, ts =>
      within rules <|
        match ts with
        | .name id :: rest => .ok (.name id, rest)
        | .word "True" :: rest => .ok (.constant, rest)
        | .word "False" :: rest => .ok (.constant, rest)
        | .word "None" :: rest => .ok (.constant, rest)
        | .symbol "..." :: rest => .ok (.constant, rest)
        | .number :: rest => .ok (.constant, rest)
        | .string _ :: _ =>
            let (ls, rest) := literals ts
            within (rules + 2) ((strings fuel ls).map fun e => (e, rest))
        | .symbol "(" :: .symbol ")" :: rest => .ok (.compound .tuple [], rest)
        | .symbol "(" :: .word "yield" :: rest =>
            match yielded fuel (rules + 4) rest with
            | .error f => .error f
            | .ok (e, rest) => closed ")" e rest
        | .symbol "(" :: rest => display fuel rules ")" .tuple .generator rest
        | .symbol "[" :: .symbol "]" :: rest => .ok (.compound .list [], rest)
        | .symbol "[" :: rest => display fuel rules "]" .list .listComprehension rest
        | .symbol "\x7b" :: rest => braces fuel rules rest
        | _ => refuse

/-- Reads a dictionary or a set behind its opening brace. -/
def braces : (fuel rules : Nat) → Reader
  | 0, _, _ => refuse
  | fuel + 1, rules, ts =>
      let entries (read : List (Option Expr × Expr)) (ts : List Token) : Outcome Expr :=
        (dictItems (operation fuel (rules + 7)) (expression fuel (rules + 8)) fuel ts).map
          fun (es, rest) => (.dict (read ++ es), rest)
      match ts with
      | .symbol "\x7d" :: _ => entries [] ts
      | .symbol "**" :: _ => entries [] ts
      | .symbol "*" :: _ => display fuel rules "\x7d" .set .setComprehension ts
      | .name _ :: .symbol ":=" :: _ => display fuel rules "\x7d" .set .setComprehension ts
      | _ =>
          match expression fuel (rules + 7) ts with
          | .error f => .error f
          | .ok (key, .symbol ":" :: rest) =>
              match expression fuel (rules + 7) rest with
              | .error f => .error f
              | .ok (value, after) =>
                  if atClause after then
                    match comprehension fuel (rules + 3) after with
                    | .error f => .error f
                    | .ok (cs, after) =>
                        closed "\x7d" (.compound .dictComprehension (key :: value :: cs)) after
                  else
                    match after with
                    | .symbol "," :: more => entries [(some key, value)] more
                    | .symbol "\x7d" :: _ => entries [(some key, value)] after
                    | _ => refuse
          | .ok (first, rest) =>
              displayFrom fuel rules "\x7d" .set .setComprehension first rest

/-- Reads string literals that stand side by side as one constant, or as a formatted string if one
of them is formatted. Literals for bytes stand only with their like. -/
def strings : (fuel : Nat) → List StringLiteral → Except Stop Expr
  | 0, _ => refuse
  | fuel + 1, ls =>
      if ls.any (·.bytes) then
        let valid (l : StringLiteral) : Bool :=
          l.bytes && l.body.all (·.toNat < 0x80) && (l.raw || Escape.validBytes l.body)
        if ls.all valid then .ok .constant else refuse
      else if ls.any (·.formatted) then
        (joined fuel ls).map fun parts => .compound .joined parts
      else (orRefuse (literalTexts? ls)).map .str

/-- Reads the fields of formatted literals and checks the others. -/
def joined : (fuel : Nat) → List StringLiteral → Except Stop (List Expr)
  | 0, _ => refuse
  | _, [] => .ok []
  | fuel + 1, l :: ls =>
      let parts : Except Stop (List Expr) :=
        if l.formatted then (orRefuse (Field.ofBody? l.raw l.body)).bind (fieldExprs fuel)
        else (orRefuse (literalText? l)).map fun _ => []
      match parts with
      | .error f => .error f
      | .ok es => (joined fuel ls).map (es ++ ·)

/-- Reads the expressions of fields. The rules in progress are counted anew for each. -/
def fieldExprs : (fuel : Nat) → List Field → Except Stop (List Expr)
  | 0, _ => refuse
  | _, [] => .ok []
  | fuel + 1, .mk code format :: fs =>
      match starExpression fuel 3 (Token.ofCode ('(' :: code ++ [')'])) with
      | .error f => .error f
      | .ok (e, []) =>
          let formatExpr : Except Stop (List Expr) :=
            match format with
            | none => .ok []
            | some inner => (fieldExprs fuel inner).map fun es => [Expr.compound .joined es]
          match formatExpr with
          | .error f => .error f
          | .ok spec =>
              (fieldExprs fuel fs).map fun more => .compound .formatted (e :: spec) :: more
      | .ok _ => refuse

end

/-- Whether only line breaks are left. -/
def atEnd (ts : List Token) : Bool :=
  ts.all (· = .newline)

/-- Reads a whole list of tokens as one expression or a bare tuple of expressions. -/
def whole (fuel : Nat) (ts : List Token) : Except Stop Expr :=
  match sepList (expression fuel 3) (expression fuel 5) atEnd fuel ts with
  | .error f => .error f
  | .ok ((es, trailing), rest) => if atEnd rest then .ok (tupleOf es trailing) else refuse

end ExprReader

/-- Reads the code of a block as one expression. Blanks around it do not count. Code that is not an
expression gives none; an expression that is nested too deep is a fault. -/
def Expr.parse (code : Text) : Except DepthFault (Option Expr) :=
  let stripped := code.trim
  match ExprReader.whole (32 * (stripped.length + 4)) (Token.ofCode stripped) with
  | .error .invalid => .ok none
  | .error .tooDeep => .error .rules
  | .ok e => if e.height ≤ maxHeight then .ok (some e) else .error .height

end MarkupAudit
