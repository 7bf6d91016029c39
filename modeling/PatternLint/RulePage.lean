import PatternLint.Registry
import PatternLint.Suppression.Directive

/-! Rules as they are shown: a table of many, and a page about one. -/

namespace PatternLint

/-- A text filled up with blanks on the right to at least `width` characters. -/
def padRight (width : Nat) (s : String) : String := s ++ "".pushn ' ' (width - s.length)

def tableRow (code severity category message : String) : String :=
  padRight 10 code ++ " " ++ padRight 8 severity ++ " " ++ padRight 28 category ++ " " ++ message ++
    "\n"

namespace Registry

/-- The rules of a category and a severity, either of which may be left open. -/
def select (g : Registry) (category : Option String) (severity : Option Severity) : List Rule :=
  g.rules.filter fun r => category.all (r.category == ·) && severity.all (r.severity == ·)

def table (g : Registry) (category : Option String) (severity : Option Severity) : String :=
  let rules := g.select category severity
  "Available rules (" ++ toString rules.length ++ " of " ++ toString g.size ++ "):\n\n" ++
    tableRow "Code" "Severity" "Category" "Message" ++ "".pushn '-' 100 ++ "\n" ++
    String.join (rules.map fun r => tableRow r.code r.severity.name r.category r.message) ++
    "\nCategories:\n" ++
    String.join (g.categories.map fun c =>
      "  " ++ c ++ " (" ++ toString (g.byCategory c).length ++ ")\n") ++
    "\nUse `autosar-lint explain <CODE>` for details, e.g.:\n  autosar-lint explain A5-1-1\n"

/-- The rule with a code, or else the first whose code differs from it in ASCII case only. -/
def lookup? (g : Registry) (code : String) : Option Rule :=
  (g.byCode? code).or (g.rules.find? fun r => asciiLower r.code == asciiLower code)

end Registry

namespace Rule

def directiveLines (r : Rule) (scope : DirectiveScope) : String :=
  String.join ((Directive.forms r.code scope).map fun d => "  " ++ String.ofList d.render ++ "\n")

def page (r : Rule) : String :=
  r.code ++ " (" ++ r.severity.name ++ ", " ++ r.severity.riskLabel ++ ")\n" ++
    "Category: " ++ r.category ++ "\n" ++
    "Message:  " ++ r.message ++ "\n" ++
    (if r.description.isEmpty then "" else "Detects:  " ++ r.description ++ "\n") ++
    "Pattern:  " ++ r.pattern.source ++ "\n" ++
    (match r.rationale with
      | some why => "\nRationale:\n  " ++ why ++ "\n"
      | none => "") ++
    "\nRemediation:\n  " ++ r.remediationText ++ "\n" ++
    "\nSuppress on the same line with any of:\n" ++ r.directiveLines .sameLine ++
    "\nSuppress from the line above with any of:\n" ++ r.directiveLines .nextLine

end Rule

end PatternLint
