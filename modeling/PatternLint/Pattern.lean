import PatternLint.Pattern.Machine
import PatternLint.Pattern.Reader

/-! Compiled patterns.
`^` and `$` stand for the ends of lines, letters are told apart by case.  A pattern without
look-around, references, atomic groups and word boundaries runs in linear time; any other
backtracks, and a search that exceeds the limit of the pattern fails. -/

namespace PatternLint

structure PatternOptions where
  dotMatchesNewline : Bool
  backtrackLimit : Nat
  deriving Repr, DecidableEq

def defaultBacktrackLimit : Nat := 1000000

def PatternOptions.standard : PatternOptions := ⟨false, defaultBacktrackLimit⟩

namespace Pattern

inductive Engine where
  | linear (program : Linear.Program)
  | backtracking (program : Machine.Program)

end Pattern

structure Pattern where
  source : String
  options : PatternOptions
  groupCount : Nat
  engine : Pattern.Engine

namespace Pattern

def openingFlags (options : PatternOptions) : String :=
  if options.dotMatchesNewline then "(?ms)" else "(?m)"

def compile (source : String) (options : PatternOptions) : Except PatternError Pattern := do
  let parsed ← parse ((openingFlags options).toList ++ source.toList)
  if parsed.node.isHard then
    let program ← Machine.compile parsed.groups parsed.node
    return ⟨source, options, parsed.groups, .backtracking program⟩
  else
    let program ← Linear.compile (parsed.node.write 0)
    return ⟨source, options, program.groups, .linear program⟩

/-- A match in character numbers, with the stretch that each group captured. -/
structure Hit where
  start : Nat
  stop : Nat
  groups : List (Option (Nat × Nat))
  deriving Repr, DecidableEq

def Hit.ofSlots? (groupCount : Nat) (slots : Slots) : Option Hit := do
  let ends (g : Nat) : Option (Nat × Nat) := do
    return (← (slots[2 * g]?).join, ← (slots[2 * g + 1]?).join)
  let (start, stop) ← ends 0
  return ⟨start, stop, (List.range groupCount).map fun g => ends (g + 1)⟩

inductive SearchError where
  /-- It would backtrack too often. -/
  | backtrackLimit
  /-- It asks for the text of a group that begins after its end. -/
  | brokenReference
  /-- It is repeated from the same place without end. -/
  | endless
  deriving Repr, DecidableEq

def searchFrom (p : Pattern) (t : Chars) (start : Nat) : Except SearchError (Option Hit) :=
  match p.engine with
  | .linear program =>
    .ok ((Linear.search program t start false).bind
      (Hit.ofSlots? p.groupCount))
  | .backtracking program =>
    match Machine.search program t p.options.backtrackLimit start with
    | .found slots => .ok (Hit.ofSlots? p.groupCount slots)
    | .absent => .ok none
    | .exceeded => .error .backtrackLimit
    | .broken => .error .brokenReference

end Pattern

end PatternLint
