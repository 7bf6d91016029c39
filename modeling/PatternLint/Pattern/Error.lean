/-! Why a pattern is refused. -/

namespace PatternLint.Pattern

inductive PatternError where
  | unclosedGroup
  | unexpectedClose
  | tooDeep
  | badGroupName
  | badCondition
  | unknownFlag
  | trailingBackslash
  | badEscape
  | badHex
  | badClass
  | badRange
  | unknownProperty
  | missingGroup
  | mixedReferences
  | nothingToRepeat
  | badRepeat
  | variableLookBehind
  | tooLarge
  deriving Repr, DecidableEq

end PatternLint.Pattern
