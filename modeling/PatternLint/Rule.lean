import PatternLint.Pattern
import PatternLint.Severity

/-! Rules: what to look for, and what to say about it. -/

namespace PatternLint

structure Rule where
  code : String
  severity : Severity
  category : String
  pattern : Pattern
  message : String
  description : String
  rationale : Option String
  remediation : Option String

inductive RuleError where
  | emptyCode (index : Nat)
  | unknownSeverity (code value : String)
  | invalidPattern (code : String) (cause : Pattern.PatternError)
  | duplicateCode (code : String)
  deriving Repr, DecidableEq

def RuleError.message : RuleError → String
  | .emptyCode index => "rules[" ++ toString index ++ "]: rule code must not be empty"
  | .unknownSeverity code value => code ++ ": " ++ Severity.unknownMessage value
  | .invalidPattern code _ => code ++ ": invalid pattern"
  | .duplicateCode code => code ++ ": duplicate rule code"

namespace Rule

def genericRemediation : String :=
  "Review the AUTOSAR C++14 guidelines for this rule and refactor the code to meet its " ++
    "requirements."

def remediationText (r : Rule) : String := r.remediation.getD genericRemediation

end Rule

end PatternLint
