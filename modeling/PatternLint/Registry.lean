import Std.Data.HashMap
import PatternLint.Config
import PatternLint.Rule
import PatternLint.Text.Names

/-! Ordered collections of rules.
The order of registration is the order of evaluation.  An index leads from a code to the position
of its rule; every operation that moves rules builds it anew. -/

namespace PatternLint

structure Registry where
  rules : List Rule
  index : Std.HashMap String Nat

namespace Registry

def empty : Registry := ⟨[], ∅⟩

/-- Indexes rules from position `i` on; refuses an empty code and a code seen before. -/
def indexFrom (i : Nat) (index : Std.HashMap String Nat) :
    List Rule → Except RuleError (Std.HashMap String Nat)
  | [] => .ok index
  | r :: rules =>
    if r.code.isEmpty then .error (.emptyCode i)
    else if index.contains r.code then .error (.duplicateCode r.code)
    else indexFrom (i + 1) (index.insert r.code i) rules

def ofRules (rules : List Rule) : Except RuleError Registry :=
  (indexFrom 0 ∅ rules).map fun index => ⟨rules, index⟩

def reindexed (rules : List Rule) : Registry :=
  ⟨rules, rules.zipIdx.foldl (fun m (r, i) => m.insert r.code i) ∅⟩

def size (g : Registry) : Nat := g.rules.length

def isEmpty (g : Registry) : Bool := g.rules.isEmpty

def codes (g : Registry) : List String := g.rules.map Rule.code

def byCode? (g : Registry) (code : String) : Option Rule :=
  g.index[code]?.bind fun i => g.rules[i]?

def byCategory (g : Registry) (category : String) : List Rule :=
  g.rules.filter fun r => r.category == category

def bySeverity (g : Registry) (severity : Severity) : List Rule :=
  g.rules.filter fun r => r.severity == severity

def categories (g : Registry) : List String := distinctSorted (g.rules.map Rule.category)

def filter (g : Registry) (keep : Rule → Bool) : Registry := reindexed (g.rules.filter keep)

def merge (g h : Registry) : Except RuleError Registry := ofRules (g.rules ++ h.rules)

/-- A rule under a configuration: gone when disabled, else with the severity it is given. -/
def adjust? (c : Config) (r : Rule) : Option Rule :=
  if c.isRuleEnabled r.code then
    some (match c.ruleSeverity r.code with
      | some severity => { r with severity }
      | none => r)
  else none

def configured (g : Registry) (c : Config) : Registry :=
  if c.rules.isEmpty then g else reindexed (g.rules.filterMap (adjust? c))

end Registry

end PatternLint
