import PatternLint.Catalog.Builtin

/-! Presets: the built-in rules from some severity on. -/

namespace PatternLint

inductive Preset where
  | strict
  | recommended
  | minimal
  deriving Repr, DecidableEq

namespace Preset

def all : List Preset := [.strict, .recommended, .minimal]

def name : Preset → String
  | .strict => "strict"
  | .recommended => "recommended"
  | .minimal => "minimal"

def minSeverity : Preset → Severity
  | .strict => .info
  | .recommended => .warning
  | .minimal => .error

def parse? (s : String) : Option Preset :=
  all.find? fun p => p.name == asciiLower (trimmed s)

def unknownMessage (s : String) : String :=
  "unknown preset `" ++ s ++ "`, expected: strict, recommended, minimal"

def restrict (p : Preset) (g : Registry) : Registry := g.filter fun r => p.minSeverity ≤ r.severity

def registry (p : Preset) (options : PatternOptions) : Except RuleError Registry :=
  (Builtin.registry options).map p.restrict

end Preset

end PatternLint
