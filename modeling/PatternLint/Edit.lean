import PatternLint.Text.Basic
import PatternLint.Violation

/-! Text edits that a tool may apply to a document. -/

namespace PatternLint

/-- Puts `newText` in the place of the bytes of `location`; an empty place inserts. -/
structure Replacement where
  location : Location
  newText : Source
  deriving Repr, DecidableEq

namespace Replacement

/-- The edited text, or nothing when the place is outside the text or cuts a character. -/
def edited? (r : Replacement) (s : Source) : Option Source := do
  let (head, _) ← s.splitAt? r.location.offset
  let (_, tail) ← s.splitAt? (r.location.offset + r.location.length)
  return head ++ r.newText ++ tail

end Replacement

structure Suggestion where
  message : String
  replacement : Replacement
  deriving Repr, DecidableEq

end PatternLint
