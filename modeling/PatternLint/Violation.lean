import PatternLint.Path
import PatternLint.Severity

/-! Where a finding is and what it says. -/

namespace PatternLint

/-- A place in a document: line and column count from 0, the column in characters; offset and
length are bytes. -/
structure Location where
  file : Path
  line : Nat
  column : Nat
  offset : Nat
  length : Nat
  deriving Repr, DecidableEq

structure Violation where
  code : String
  severity : Severity
  category : String
  location : Location
  message : String
  deriving Repr, DecidableEq

namespace Violation

def place (v : Violation) : String :=
  v.location.file.spelling ++ ":" ++ toString (v.location.line + 1) ++ ":" ++
    toString (v.location.column + 1)

def display (v : Violation) : String :=
  v.place ++ ": " ++ v.severity.name ++ " [" ++ v.code ++ "] " ++ v.message

def block (v : Violation) : String :=
  v.code ++ " at " ++ v.place ++ "\n" ++
  "  " ++ v.severity.name ++ " (" ++ v.severity.riskLabel ++ "): " ++ v.message ++ "\n" ++
  "  = category: " ++ v.category ++ "\n"

end Violation

structure SpanLabel where
  text : String
  offset : Nat
  length : Nat
  deriving Repr, DecidableEq

/-- A violation as a rich error message: headline, optional advice, and the labelled source. -/
structure Diagnostic where
  headline : String
  help : Option String
  label : SpanLabel
  deriving Repr, DecidableEq

namespace Violation

def diagnostic (v : Violation) (help : Option String) : Diagnostic where
  headline := "[" ++ v.code ++ "] " ++ v.message
  help := help
  label :=
    { text := v.severity.riskLabel ++ " " ++ v.code
      offset := v.location.offset
      length := v.location.length }

end Violation

end PatternLint
