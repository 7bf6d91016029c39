import PatternLint.Pattern.CharSet

/-! Conditions on a position that consume nothing. -/

namespace PatternLint.Pattern

inductive Anchor where
  | textStart
  | textEnd
  | lineStart
  | lineEnd
  | wordStart
  | wordEnd
  | wordBoundary
  | notWordBoundary
  deriving Repr, DecidableEq

namespace Anchor

/-- Whether the condition holds between `before` and `after`, the neighbours of a position. -/
def holds (a : Anchor) (before after : Option Char) : Bool :=
  match a with
  | .textStart => before.isNone
  | .textEnd => after.isNone
  | .lineStart => before.all (· == '\n')
  | .lineEnd => after.all (· == '\n')
  | .wordStart => !before.any isWordChar && after.any isWordChar
  | .wordEnd => before.any isWordChar && !after.any isWordChar
  | .wordBoundary => before.any isWordChar != after.any isWordChar
  | .notWordBoundary => before.any isWordChar == after.any isWordChar

def aboutWords : Anchor → Bool
  | .textStart | .textEnd | .lineStart | .lineEnd => false
  | _ => true

end Anchor

end PatternLint.Pattern
