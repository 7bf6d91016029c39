import PatternLint.Path
import PatternLint.Pattern
import PatternLint.ReadError
import PatternLint.Severity
import PatternLint.Toml.Parser

/-! The configuration file.
Every setting may be left out and unknown ones are ignored, but a setting of the wrong type spoils
the whole file.  Severities are written exactly `error`, `warning` or `info` here. -/

namespace PatternLint

def defaultExtensions : List String := ["c", "cc", "cpp", "cxx", "h", "hh", "hpp", "hxx"]

def hasExtension (p : Path) (extensions : List String) : Bool :=
  p.extension?.any fun ext => extensions.any fun e => asciiLower e == asciiLower ext

structure AnalyzerConfig where
  root : Path
  exclude : List String
  extensions : List String
  respectGitignore : Bool
  deriving Repr, DecidableEq

def AnalyzerConfig.standard : AnalyzerConfig where
  root := ⟨"."⟩
  exclude := ["**/build/**", "**/third_party/**"]
  extensions := defaultExtensions
  respectGitignore := true

structure EngineConfig where
  backtrackLimit : Nat
  ruleFiles : List Path
  deriving Repr, DecidableEq

namespace EngineConfig

def standard : EngineConfig := ⟨defaultBacktrackLimit, []⟩

def patternOptions (e : EngineConfig) : PatternOptions := ⟨false, e.backtrackLimit⟩

end EngineConfig

structure RuleSetting where
  enabled : Bool
  severity : Option Severity
  deriving Repr, DecidableEq

structure Config where
  preset : Option String
  failOn : Option Severity
  analyzer : AnalyzerConfig
  engine : EngineConfig
  /-- Settings by rule code, no code twice. -/
  rules : List (String × RuleSetting)
  deriving Repr, DecidableEq

inductive ConfigError where
  | io (path : Path) (cause : ReadError)
  /-- The text is no configuration. -/
  | parse (text : String)
  deriving Repr, DecidableEq

def ConfigError.message : ConfigError → String
  | .io path cause => "Failed to read config file " ++ path.spelling ++ ": " ++ cause.message
  | .parse _ => "Failed to parse config"

namespace Config

def standard : Config := ⟨none, none, .standard, .standard, []⟩

def isRuleEnabled (c : Config) (code : String) : Bool :=
  ((c.rules.lookup code).map RuleSetting.enabled).getD true

def ruleSeverity (c : Config) (code : String) : Option Severity :=
  (c.rules.lookup code).bind RuleSetting.severity

def failThreshold (c : Config) : Severity := c.failOn.getD .error

open Toml

/-- A severity is a name, or a table whose one entry has that name and holds nothing. -/
def readSeverity : Value → Option Severity
  | .string s => Severity.ofName? s
  | .table [(s, .table [])] => Severity.ofName? s
  | .table [(s, .array [])] => Severity.ofName? s
  | _ => none

def readAnalyzer (v : Value) : Option AnalyzerConfig := do
  let r ← Record.ofValue? v
  let d := AnalyzerConfig.standard
  return {
    root := ← r.optional 0 "root" (fun v => v.string?.map Path.mk) d.root
    exclude := ← r.optional 1 "exclude" Value.strings? d.exclude
    extensions := ← r.optional 2 "extensions" Value.strings? d.extensions
    respectGitignore := ← r.optional 3 "respect_gitignore" Value.boolean? d.respectGitignore }

def readEngine (v : Value) : Option EngineConfig := do
  let r ← Record.ofValue? v
  let d := EngineConfig.standard
  return {
    backtrackLimit := ← r.optional 0 "backtrack_limit" Value.natural? d.backtrackLimit
    ruleFiles := ← r.optional 1 "rule_files" (fun v => v.strings?.map (·.map Path.mk)) d.ruleFiles }

def readRule (v : Value) : Option RuleSetting := do
  let r ← Record.ofValue? v
  return {
    enabled := ← r.optional 0 "enabled" Value.boolean? true
    severity := ← r.optional 1 "severity" (fun v => (readSeverity v).map some) none }

def readRules (v : Value) : Option (List (String × RuleSetting)) := do
  (← v.mapping?).mapM fun (code, v) => (readRule v).map fun s => (code, s)

def read? (v : Value) : Option Config := do
  let r ← Record.ofValue? v
  return {
    preset := ← r.optional 0 "preset" (fun v => v.string?.map some) none
    failOn := ← r.optional 1 "fail_on" (fun v => (readSeverity v).map some) none
    analyzer := ← r.optional 2 "analyzer" readAnalyzer .standard
    engine := ← r.optional 3 "engine" readEngine .standard
    rules := ← r.optional 4 "rules" readRules [] }

def parse (text : String) : Except ConfigError Config :=
  match (Toml.parse? text).bind read? with
  | some c => .ok c
  | none => .error (.parse text)

end Config

end PatternLint
