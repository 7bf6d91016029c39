import PatternLint.Text.Blank

/-! The three severities, ordered by risk. -/

namespace PatternLint

inductive Severity where
  | info
  | warning
  | error
  deriving Repr, DecidableEq, Inhabited

namespace Severity

def all : List Severity := [.error, .warning, .info]

def rank : Severity → Nat
  | .info => 0
  | .warning => 1
  | .error => 2

instance : LE Severity := ⟨fun a b => a.rank ≤ b.rank⟩

instance (a b : Severity) : Decidable (a ≤ b) := inferInstanceAs (Decidable (a.rank ≤ b.rank))

def name : Severity → String
  | .info => "info"
  | .warning => "warning"
  | .error => "error"

def riskLabel : Severity → String
  | .error => "High Risk"
  | .warning => "Medium Risk"
  | .info => "Low Risk"

def ofName? (s : String) : Option Severity := all.find? fun v => v.name == s

/-- Reads a name in any mixture of ASCII cases, white space around it allowed. -/
def parse? (s : String) : Option Severity := ofName? (asciiLower (trimmed s))

def atOrBelow (s : Severity) : List Severity := all.filter fun v => v ≤ s

def unknownMessage (s : String) : String :=
  "unknown severity `" ++ s ++ "`, expected: error, warning, info"

end Severity

end PatternLint
