import PatternLint.JsonValue
import PatternLint.Text.Names
import PatternLint.Violation

/-! Results of analyzing files, and their JSON form. -/

namespace PatternLint

structure LintResult where
  violations : List Violation
  filesChecked : Nat
  filesSkipped : Nat
  deriving Repr, DecidableEq

namespace LintResult

def empty : LintResult := ⟨[], 0, 0⟩

def append (a b : LintResult) : LintResult :=
  ⟨a.violations ++ b.violations, a.filesChecked + b.filesChecked, a.filesSkipped + b.filesSkipped⟩

instance : Append LintResult := ⟨append⟩

def hasViolationsAt (r : LintResult) (s : Severity) : Bool :=
  r.violations.any fun v => s ≤ v.severity

def hasErrors (r : LintResult) : Bool := r.hasViolationsAt .error

def bySeverity (r : LintResult) (s : Severity) : List Violation :=
  r.violations.filter fun v => v.severity == s

def count (r : LintResult) (s : Severity) : Nat := r.violations.countP fun v => v.severity == s

def counts (r : LintResult) : Nat × Nat × Nat := (r.count .error, r.count .warning, r.count .info)

def categoryCounts (r : LintResult) : List (String × Nat) :=
  nameCounts (r.violations.map Violation.category)

end LintResult

namespace Severity

def toJson (s : Severity) : JsonValue := .string s.name

def ofJson? : JsonValue → Option Severity
  | .string s => ofName? s
  | .object [(s, .null)] => ofName? s
  | _ => none

end Severity

namespace Location

def fieldNames : List String := ["file", "line", "column", "offset", "length"]

def toJson (l : Location) : JsonValue :=
  .object
    [("file", .string l.file.spelling), ("line", .integer l.line), ("column", .integer l.column),
      ("offset", .integer l.offset), ("length", .integer l.length)]

def ofJson? (v : JsonValue) : Option Location :=
  match v.fields? fieldNames with
  | some [some file, some line, some column, some offset, some length] => do
    return ⟨⟨← file.string?⟩, ← line.count?, ← column.count?, ← offset.count?, ← length.count?⟩
  | _ => none

end Location

namespace Violation

def fieldNames : List String := ["code", "severity", "category", "location", "message"]

def toJson (v : Violation) : JsonValue :=
  .object
    [("code", .string v.code), ("severity", v.severity.toJson), ("category", .string v.category),
      ("location", v.location.toJson), ("message", .string v.message)]

def ofJson? (v : JsonValue) : Option Violation :=
  match v.fields? fieldNames with
  | some [some code, some severity, some category, some location, some message] => do
    return ⟨← code.string?, ← Severity.ofJson? severity, ← category.string?,
      ← Location.ofJson? location, ← message.string?⟩
  | _ => none

end Violation

namespace LintResult

def fieldNames : List String := ["violations", "files_checked", "files_skipped"]

def toJson (r : LintResult) : JsonValue :=
  .object
    [("violations", .array (r.violations.map Violation.toJson)),
      ("files_checked", .integer r.filesChecked), ("files_skipped", .integer r.filesSkipped)]

def ofJson? (v : JsonValue) : Option LintResult :=
  match v.fields? fieldNames with
  | some [some (.array violations), some checked, skipped] => do
    let violations ← violations.mapM Violation.ofJson?
    let skipped ← match skipped with
      | some n => n.count?
      | none => some 0
    return ⟨violations, ← checked.count?, skipped⟩
  | _ => none

end LintResult

end PatternLint
