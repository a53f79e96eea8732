import MarkupAudit.Report.Basic

/-!
# What the command line prints

The texts of the command line: how it is used, the list of rules, the findings, and the summary of a
run. How long a run took is only known when its output is printed, so it is left open.
-/

namespace MarkupAudit.Cli

/-- A piece of output: text, or the number of seconds that a run took. -/
inductive Output where
  | text (s : String)
  | seconds
  deriving DecidableEq, Repr

/-- Output as text, given how long the run took. -/
def Output.render (seconds : String) : List Output → String
  | [] => ""
  | .text s :: rest => s ++ render seconds rest
  | .seconds :: rest => seconds ++ render seconds rest

/-- A line of output. -/
def say (s : String) : Output :=
  .text (s ++ "\n")

/-- How the command is used. -/
def usage : List String :=
  ["usage: template-auditor [-h] [-a] [--export EXPORT] [--workers WORKERS]",
   "                        [--config CONFIG] [--rules RULES]",
   "                        [--log-level LOG_LEVEL] [--list-rules]",
   "                        [paths ...]"]

/-- How the command is used, in detail. -/
def help : List String :=
  usage ++
  ["",
   "Static accessibility audit of HTML templates with embedded code.",
   "",
   "positional arguments:",
   "  paths                 Template files or directories to audit.",
   "",
   "options:",
   "  -h, --help            show this help message and exit",
   "  -a, --autocorrect     Rewrite counter directives in place.",
   "  --export EXPORT       Save flat results to .csv or .xlsx.",
   "  --workers WORKERS     Number of worker processes.",
   "  --config CONFIG       JSON settings merged over the defaults.",
   "  --rules RULES         Comma-separated rule ids to run.",
   "  --log-level LOG_LEVEL",
   "                        Logging level (DEBUG, INFO, ...).",
   "  --list-rules          List the available rules and exit."]

/-- Blanks that fill a text up to a width. -/
def fill (width : Nat) (s : String) : String :=
  String.ofList (List.replicate (width - s.length) ' ')

/-- A text at the left of a field. -/
def left (width : Nat) (s : String) : String :=
  s ++ fill width s

/-- A text at the right of a field. -/
def right (width : Nat) (s : String) : String :=
  fill width s ++ s

/-- A line across the summary. -/
def rule (c : Char) : String :=
  String.ofList (List.replicate 70 c)

/-- A rule in the list of rules. -/
def ruleLine (e : Registration) : String :=
  left 50 e.rule.id ++ " " ++ (if e.rule.supportsCounter then "counter" else "-")

/-- A finding. -/
def findingLine (row : ReportRow) : String :=
  row.path ++ ":" ++ toString row.place.line ++ ":" ++ toString row.place.column ++ ": " ++
    row.rule ++ ": " ++ row.message

/-- A file that was skipped. -/
def skippedLine (entry : String × String) : String :=
  "⚠️  Skipped " ++ entry.1 ++ ": " ++ entry.2

/-- The counts by rule. -/
def ranking (r : Report) : List String :=
  if r.counts.isEmpty then []
  else
    (left 55 "RULE" ++ " | " ++ right 10 "COUNT") :: rule '-' ::
      r.ranking.map fun (id, count) => left 55 id ++ " | " ++ right 10 (toString count)

/-- The summary of a run. -/
def summary (r : Report) : List Output :=
  [say "", say (rule '='), say "📊 AUDIT SUMMARY", say (rule '='),
   say ("Files Analyzed:      " ++ toString r.totalFiles),
   say ("Files Skipped:       " ++ toString r.skipped.length),
   say ("Total Findings:      " ++ toString r.totalFindings),
   say ("Files Corrected:     " ++ toString r.correctedFiles),
   .text "Analysis Duration:   ", .seconds, .text " seconds\n", say (rule '-')] ++
  (ranking r).map say ++ [say (rule '='), say ""]

end MarkupAudit.Cli
