import PatternLint.Command.Arguments
import PatternLint.RulePage
import PatternLint.Scan
import PatternLint.Settings
import PatternLint.StarterConfig

/-! Running commands.
A run reads the workspace and yields all that it changes: what it prints, the files it writes and
its exit code; a run that goes on for ever yields nothing.  A check fails with 1 when a violation
is severe enough or the analysis cannot start, with 2 when there are no rules to check, and with
101 when a search crashes. -/

namespace PatternLint

structure Outcome where
  exitCode : Nat
  stdout : String := ""
  stderr : String := ""
  writes : List (Path × String) := []
  deriving Repr, DecidableEq

def exitFailure : Nat := 1
def exitUnusable : Nat := 2
def exitCrash : Nat := 101

namespace Outcome

def success (stdout : String) : Outcome := { exitCode := 0, stdout }

/-- A failure with its complaint and, when there is one, what is behind it. -/
def failure (exitCode : Nat) (complaint : String) (cause : Option String) : Outcome where
  exitCode := exitCode
  stderr := "Error: " ++ complaint ++ "\n" ++
    match cause with
    | some c => "\nCaused by:\n    " ++ c ++ "\n"
    | none => ""

def ofSettingsError (exitCode : Nat) (e : SettingsError) : Outcome :=
  let (complaint, cause) := e.report
  failure exitCode complaint cause

def crashed : Outcome := { exitCode := exitCrash, stderr := "A search broke off.\n" }

end Outcome

def versionLine : String := "autosar-lint 0.3.0\n"

def usageText : String :=
  "Usage: autosar-lint [-v] [-c <CONFIG>] <COMMAND>\n\n" ++
  "Commands:\n" ++
  "  check [PATH]    Check the sources below a directory\n" ++
  "  list-rules      List the rules in force\n" ++
  "  explain <CODE>  Explain a rule\n" ++
  "  init            Write a configuration\n"

def Refusal.outcome : Refusal → Outcome
  | .help => .success usageText
  | .version => .success versionLine
  | .usage complaint =>
    { exitCode := exitUnusable, stderr := "error: " ++ complaint ++ "\n\n" ++ usageText }

namespace CheckOptions

def scanRequest (o : CheckOptions) (c : Config) : ScanRequest :=
  { root := o.path, exclude := o.exclude : ScanRequest }.withConfig c.analyzer

def threshold (o : CheckOptions) (c : Config) : Severity := o.failOn.getD c.failThreshold

def registry (o : CheckOptions) (w : Workspace) (s : Settings) : Except SettingsError Registry :=
  (s.preset o.preset).bind (s.effectiveRegistry w)

def conclude (o : CheckOptions) (c : Config) (r : LintResult) : Outcome where
  exitCode := if r.hasViolationsAt (o.threshold c) then exitFailure else 0
  stdout := r.report o.format

def settle (o : CheckOptions) (c : Config) : Except Abort LintResult → Option Outcome
  | .ok r => some (o.conclude c r)
  | .error .crash => some .crashed
  | .error .endless => none

def run (o : CheckOptions) (w : Workspace) (s : Settings) : Option Outcome :=
  match o.registry w s with
  | .error e => some (.ofSettingsError exitUnusable e)
  | .ok g =>
    match Scan.prepare w (o.scanRequest s.config) with
    | .error e => some (.failure exitFailure "Failed to build analyzer" (some e.message))
    | .ok scan => o.settle s.config (scan.attempt w g)

end CheckOptions

def listRules (w : Workspace) (s : Settings) (category : Option String)
    (severity : Option Severity) : Outcome :=
  match (s.preset none).bind (s.effectiveRegistry w) with
  | .error e => .ofSettingsError exitFailure e
  | .ok g => .success (g.table category severity)

def explain (w : Workspace) (s : Settings) (code : String) : Outcome :=
  match s.catalogRegistry w with
  | .error e => .ofSettingsError exitFailure e
  | .ok g =>
    match g.lookup? (trimmed code) with
    | some r => .success r.page
    | none =>
      .failure exitFailure
        ("Unknown rule code: " ++ trimmed code ++
          ". Run `autosar-lint list-rules` to see all codes.") none

/-- Writes a configuration into the current directory; one that exists is replaced only by
force. -/
def createConfig (w : Workspace) (force : Bool) : Outcome :=
  let path := (Path.mk ".").join ⟨configFileName⟩
  if w.contains path && !force then
    .failure exitFailure
      ("Configuration file already exists at " ++ path.spelling ++ ". Use --force to overwrite.")
      none
  else if !w.isWritable path then
    .failure exitFailure ("Failed to write " ++ path.spelling) none
  else
    { exitCode := 0
      stdout := "Created " ++ configFileName ++ "\n\nNext steps:\n  1. Edit " ++ configFileName ++
        " to configure rules\n  2. Run: autosar-lint check\n"
      writes := [(path, starterConfig)] }

namespace Invocation

def withSettings (i : Invocation) (w : Workspace) (next : Settings → Option Outcome) :
    Option Outcome :=
  match Settings.load w i.command.projectDir i.config with
  | .error e => some (.ofSettingsError exitFailure e)
  | .ok s => next s

def run (i : Invocation) (w : Workspace) : Option Outcome :=
  match i.command with
  | .check o => i.withSettings w (o.run w)
  | .listRules category severity =>
    i.withSettings w fun s => some (listRules w s category severity)
  | .explain code => i.withSettings w fun s => some (explain w s code)
  | .init force => some (createConfig w force)

end Invocation

def runArguments (w : Workspace) (args : List String) : Option Outcome :=
  match Invocation.parse w args with
  | .error refusal => some refusal.outcome
  | .ok i => i.run w

end PatternLint
