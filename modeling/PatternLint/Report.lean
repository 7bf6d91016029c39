import PatternLint.LintResult

/-! Results as they are shown.
The text report groups violations by severity, highest risk first, and closes with a summary; the
compact report has one line for each violation, and the JSON report the whole result. -/

namespace PatternLint

inductive ReportFormat where
  | text
  | json
  | compact
  | pretty
  deriving Repr, DecidableEq

namespace ReportFormat

def name : ReportFormat → String
  | .text => "text"
  | .json => "json"
  | .compact => "compact"
  | .pretty => "pretty"

def ofName? (s : String) : Option ReportFormat :=
  [text, json, compact, pretty].find? fun f => f.name == s

end ReportFormat

inductive Colour where
  | red
  | yellow
  | blue
  | green
  deriving Repr, DecidableEq

namespace Colour

def number : Colour → String
  | .red => "31"
  | .green => "32"
  | .yellow => "33"
  | .blue => "34"

def paint (c : Colour) (s : String) : String := "\x1b[" ++ c.number ++ "m" ++ s ++ "\x1b[0m"

end Colour

def Severity.colour : Severity → Colour
  | .error => .red
  | .warning => .yellow
  | .info => .blue

namespace LintResult

/-- The violations of one severity under a heading with their number; nothing without any. -/
def severityGroup (r : LintResult) (s : Severity) : String :=
  let group := r.bySeverity s
  if group.isEmpty then ""
  else
    s.colour.paint s.riskLabel ++ " (" ++ toString group.length ++ ")\n\n" ++
      String.join (group.map fun v => v.block ++ "\n")

def summary (r : LintResult) : String :=
  "Found " ++ toString (r.count .error) ++ " error(s), " ++ toString (r.count .warning) ++
    " warning(s), " ++ toString (r.count .info) ++ " info(s) in " ++ toString r.filesChecked ++
    " file(s)"

def summaryColour (r : LintResult) : Colour :=
  if 0 < r.count .error then .red else if 0 < r.count .warning then .yellow else .green

def skippedLine (r : LintResult) : String :=
  if 0 < r.filesSkipped then "Skipped " ++ toString r.filesSkipped ++ " unreadable file(s)\n"
  else ""

def textReport (r : LintResult) : String :=
  String.join (Severity.all.map r.severityGroup) ++ r.summaryColour.paint r.summary ++ "\n" ++
    r.skippedLine

def jsonReport (r : LintResult) : String := r.toJson.pretty 0 ++ "\n"

def compactReport (r : LintResult) : String :=
  String.join (r.violations.map fun v => v.display ++ "\n")

/-- Of the pretty report only the line that closes it, without the drawings of the sources. -/
def report (r : LintResult) : ReportFormat → String
  | .text => r.textReport
  | .json => r.jsonReport
  | .compact => r.compactReport
  | .pretty => r.summary ++ "\n"

end LintResult

end PatternLint
