import PatternLint.Catalog.Preset
import PatternLint.Loading

/-! The configuration in force and the rules it leads to.
A configuration named outright is taken as it is.  Otherwise one in the project directory comes
before one among the user's settings, and without either everything is standard. -/

namespace PatternLint

inductive ConfigSource where
  | explicit (path : Path)
  | project (path : Path)
  | user (path : Path)
  | standard
  deriving Repr, DecidableEq

namespace ConfigSource

def path? : ConfigSource → Option Path
  | .explicit p | .project p | .user p => some p
  | .standard => none

/-- Names of a configuration in a project directory, the first found wins. -/
def projectNames : List String := ["autosar-lint.toml", ".autosar-lint.toml"]

def userDir? (w : Workspace) : Option Path :=
  match w.valueOf? "AUTOSAR_LINT_CONFIG_DIR" with
  | some dir => some ⟨dir⟩
  | none => w.home?.map (·.join ⟨".autosar-lint"⟩)

def locate (w : Workspace) (projectDir : Path) : Option Path → ConfigSource
  | some p => .explicit p
  | none =>
    match (projectNames.map fun n => projectDir.join ⟨n⟩).find? w.isFile with
    | some p => .project p
    | none =>
      match (userDir? w).map (·.join ⟨"config.toml"⟩) with
      | some p => if w.isFile p then .user p else .standard
      | none => .standard

end ConfigSource

structure Settings where
  config : Config
  source : ConfigSource
  deriving Repr, DecidableEq

inductive SettingsError where
  | config (path : Path) (cause : ConfigError)
  | preset (name : String)
  | builtin (cause : RuleError)
  | catalog (path : Path) (cause : CatalogError)
  | rules (cause : RuleError)
  deriving Repr, DecidableEq

namespace SettingsError

def report : SettingsError → String × Option String
  | .config path cause => ("Failed to load config: " ++ path.spelling, some cause.message)
  | .preset name => ("Invalid `preset` in configuration", some (Preset.unknownMessage name))
  | .builtin cause => ("Failed to compile the built-in catalog", some cause.message)
  | .catalog path cause => ("Failed to load rule catalog: " ++ path.spelling, some cause.message)
  | .rules cause => (cause.message, none)

end SettingsError

namespace Settings

def load (w : Workspace) (projectDir : Path) (explicit : Option Path) :
    Except SettingsError Settings :=
  let source := ConfigSource.locate w projectDir explicit
  match source.path? with
  | none => .ok ⟨.standard, source⟩
  | some p => ((Config.load w p).mapError (.config p)).map fun config => ⟨config, source⟩

def preset (s : Settings) (wanted : Option Preset) : Except SettingsError Preset :=
  match wanted, s.config.preset with
  | some p, _ => .ok p
  | none, none => .ok .strict
  | none, some name =>
    match Preset.parse? name with
    | some p => .ok p
    | none => .error (.preset name)

def patternOptions (s : Settings) : PatternOptions := s.config.engine.patternOptions

def ruleFiles (s : Settings) : List Path :=
  let base := (s.source.path?.bind Path.parent?).getD ⟨""⟩
  s.config.engine.ruleFiles.map base.join

def loadRuleFiles (w : Workspace) (options : PatternOptions) :
    List Path → Except SettingsError (List Rule)
  | [] => .ok []
  | p :: ps => do
    let rules ← (Catalog.loadFile w options p).mapError (.catalog p)
    return rules ++ (← loadRuleFiles w options ps)

def userRegistry (s : Settings) (w : Workspace) : Except SettingsError Registry := do
  let rules ← loadRuleFiles w s.patternOptions s.ruleFiles
  (Registry.ofRules rules).mapError .rules

def builtinRegistry (s : Settings) : Except SettingsError Registry :=
  (Builtin.registry s.patternOptions).mapError .builtin

def catalogRegistry (s : Settings) (w : Workspace) : Except SettingsError Registry := do
  let builtin ← s.builtinRegistry
  let user ← s.userRegistry w
  (builtin.merge user).mapError .rules

/-- The rules in force: those of the preset and the user's, as the configuration adjusts them. -/
def effectiveRegistry (s : Settings) (w : Workspace) (p : Preset) :
    Except SettingsError Registry := do
  let builtin ← s.builtinRegistry
  let user ← s.userRegistry w
  let merged ← ((p.restrict builtin).merge user).mapError .rules
  return merged.configured s.config

end Settings

end PatternLint
