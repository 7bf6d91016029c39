import PatternLint.Match
import PatternLint.Registry
import PatternLint.Suppression.Directive
import PatternLint.Violation

/-! One pass over one document: every rule in the order of registration, every match in order,
less those that begin in a comment and those that a directive silences. -/

namespace PatternLint

/-- The pattern of a rule could not be evaluated, by a search that began at byte `offset`. -/
structure EvaluationError where
  code : String
  offset : Nat
  cause : Pattern.SearchError
  deriving Repr, DecidableEq

inductive Abort where
  | crash
  | endless
  deriving Repr, DecidableEq

/-- A search that backtracks too often costs its rule the findings; the others end everything. -/
def Pattern.SearchError.abort? : Pattern.SearchError → Option Abort
  | .backtrackLimit => none
  | .brokenReference => some .crash
  | .endless => some .endless

namespace Rule

def findMatches (r : Rule) (text : Source) : Except EvaluationError (List MatchSpan) :=
  (r.pattern.findMatches text).mapError fun e => ⟨r.code, e.offset, e.cause⟩

def abort? (r : Rule) (text : Source) : Option Abort :=
  match r.findMatches text with
  | .ok _ => none
  | .error e => e.cause.abort?

end Rule

namespace Document

def report? (d : Document) (r : Rule) (m : MatchSpan) : Option Violation :=
  if d.comments.covers m.start then none
  else
    let (line, column) := d.position m.start
    if d.isSuppressed line r.code then none
    else
      some
        { code := r.code
          severity := r.severity
          category := r.category
          location := ⟨d.path, line, column, m.start, m.length⟩
          message := r.message }

/-- The findings of one rule; a rule whose pattern cannot be evaluated has none. -/
def checkRule (d : Document) (r : Rule) : List Violation :=
  match r.findMatches d.text with
  | .ok spans => spans.filterMap (d.report? r)
  | .error _ => []

end Document

def Registry.analyze (g : Registry) (path : Path) (text : Source) : List Violation :=
  let d := Document.ofText path text
  g.rules.flatMap d.checkRule

/-- What the first rule that has no answer makes of the analysis. -/
def Registry.abort? (g : Registry) (text : Source) : Option Abort :=
  g.rules.findSome? fun r => r.abort? text

end PatternLint
