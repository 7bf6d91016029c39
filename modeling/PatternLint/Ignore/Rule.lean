import PatternLint.Ignore.Pattern
import PatternLint.Text.Blank

/-! Ignore files: one rule a line, of which the last that applies decides. -/

namespace PatternLint.Ignore

structure Rule where
  alternatives : Alternatives
  /-- The rule keeps what it matches. -/
  keeps : Bool
  directoriesOnly : Bool
  deriving Repr, DecidableEq

inductive Verdict where
  | ignored
  | kept
  deriving Repr, DecidableEq

namespace Rule

def trimRight (s : List Char) : List Char := (s.reverse.dropWhile isBlank).reverse

/-- Takes the slash off a rule for directories, with a backslash before it. -/
def withoutSlash (body : List Char) : List Char × Bool :=
  match body.reverse with
  | '/' :: '\\' :: back => (back.reverse, true)
  | '/' :: back => (back.reverse, true)
  | _ => (body, false)

/-- A rule that names no directory holds at every depth, and what is below a directory does not
include the directory itself. -/
def anchored (isAbsolute : Bool) (body : List Char) : List Char :=
  let body :=
    if isAbsolute || body.contains '/' || body == ['*', '*'] then body
    else ['*', '*', '/'] ++ body
  if ['*', '*', '/'].isPrefixOf body.reverse then body ++ ['/', '*'] else body

/-- Reads a line; comments, blank lines and malformed patterns are no rules. -/
def parse? (line : List Char) : Option Rule := do
  guard (line.head? ≠ some '#')
  let line := if [' ', '\\'].isPrefixOf line.reverse then line else trimRight line
  guard (!line.isEmpty)
  let (keeps, isAbsolute, body) :=
    match line with
    | '\\' :: '!' :: s => (false, false, '!' :: s)
    | '\\' :: '#' :: s => (false, false, '#' :: s)
    | '!' :: '/' :: s => (true, true, s)
    | '!' :: s => (true, false, s)
    | '/' :: s => (false, true, s)
    | s => (false, false, s)
  let (body, directoriesOnly) := withoutSlash body
  let alternatives ← Ignore.parse? (anchored isAbsolute body)
  return ⟨alternatives, keeps, directoriesOnly⟩

def applies (r : Rule) (path : List UInt8) (isDirectory : Bool) : Bool :=
  (isDirectory || !r.directoriesOnly) && r.alternatives.any (Wildcard.accepts · path)

end Rule

def splitLines : List UInt8 → List (List UInt8)
  | [] => [[]]
  | b :: s =>
    if b = 10 then [] :: splitLines s
    else match splitLines s with
      | [] => [[b]]
      | l :: ls => (b :: l) :: ls

/-- The lines of an ignore file up to the first that is no text.  A carriage return before a line
feed belongs to the line end. -/
def readLines : List (List UInt8) → List (List Char)
  | [] => []
  | l :: ls =>
    match String.fromUTF8? ⟨l.toArray⟩ with
    | none => []
    | some s =>
      let line := s.toList
      let line := if !ls.isEmpty && line.getLast? == some '\r' then line.dropLast else line
      line :: readLines ls

/-- The rules of an ignore file, in order; byte order marks in front do not count. -/
def rules (bytes : ByteArray) : List Rule :=
  match readLines (splitLines bytes.toList) with
  | [] => []
  | l :: ls => (l.dropWhile (· == '\uFEFF') :: ls).filterMap Rule.parse?

def verdict? (rules : List Rule) (path : List UInt8) (isDirectory : Bool) : Option Verdict :=
  (rules.reverse.find? fun r => r.applies path isDirectory).map fun r =>
    if r.keeps then .kept else .ignored

end PatternLint.Ignore
