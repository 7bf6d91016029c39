import PatternLint.Catalog.Preset
import PatternLint.Report

/-! What a command line asks for. -/

namespace PatternLint

structure CheckOptions where
  path : Option Path
  format : ReportFormat
  exclude : List String
  preset : Option Preset
  failOn : Option Severity
  deriving Repr, DecidableEq

inductive Command where
  | check (options : CheckOptions)
  | listRules (category : Option String) (severity : Option Severity)
  | explain (code : String)
  | init (force : Bool)
  deriving Repr, DecidableEq

def Command.projectDir : Command → Path
  | .check o => o.path.getD ⟨"."⟩
  | .listRules .. | .explain _ | .init _ => ⟨"."⟩

structure Invocation where
  config : Option Path
  verbose : Bool
  command : Command
  deriving Repr, DecidableEq

inductive Refusal where
  | help
  | version
  | usage (complaint : String)
  deriving Repr, DecidableEq

end PatternLint
