import PatternLint.Analysis
import PatternLint.PathMap

/-! The state of open documents and their violations.
A pass over a document replaces its violations as a whole and tells every listener.  While the
session is paused, texts are recorded but no pass runs. -/

namespace PatternLint

structure Session where
  registry : Registry
  extensions : List String
  /-- Current violations; documents without any are left out. -/
  documents : PathMap (List Violation)
  /-- Latest texts of the open documents. -/
  openTexts : PathMap Source
  paused : Bool
  /-- How many listeners there are; they are numbered from 0. -/
  listeners : Nat

inductive DocumentEvent where
  | opened (path : Path) (text : Source)
  | changed (path : Path) (text : Source)
  | closed (path : Path)
  | setPaused (paused : Bool)
  | rerunAll

structure Notification where
  listener : Nat
  path : Path
  violations : List Violation
  deriving Repr, DecidableEq

namespace Session

def start (registry : Registry) (extensions : List String) : Session :=
  ⟨registry, extensions, [], [], false, 0⟩

def subscribe (s : Session) : Session := { s with listeners := s.listeners + 1 }

def publish (s : Session) (path : Path) (violations : List Violation) :
    Session × List Notification :=
  let documents :=
    if violations.isEmpty then s.documents.erase path
    else PathMap.insert path violations s.documents
  ({ s with documents }, (List.range s.listeners).map fun n => ⟨n, path, violations⟩)

def runPass (s : Session) (path : Path) : Session × List Notification :=
  match s.openTexts.get? path with
  | none => (s, [])
  | some text => s.publish path (s.registry.analyze path text)

/-- Records the text of a document and runs a pass unless paused; documents with other extensions
are ignored. -/
def analyze (s : Session) (path : Path) (text : Source) : Session × List Notification :=
  if hasExtension path s.extensions then
    let s := { s with openTexts := PathMap.insert path text s.openTexts }
    if s.paused then (s, []) else s.runPass path
  else (s, [])

def setPaused (s : Session) (paused : Bool) : Session := { s with paused }

/-- Runs a pass over each document in turn, those without a recorded text apart. -/
def runPasses (s : Session) : List Path → Session × List Notification
  | [] => (s, [])
  | p :: ps =>
    let (s, told) := s.runPass p
    let (s, more) := runPasses s ps
    (s, told ++ more)

def rerun (s : Session) (paths : List Path) : Session × List Notification :=
  (s.setPaused false).runPasses paths

/-- Forgets a document and tells every listener that it has no violations. -/
def close (s : Session) (path : Path) : Session × List Notification :=
  { s with openTexts := s.openTexts.erase path }.publish path []

def handle (s : Session) : DocumentEvent → Session × List Notification
  | .opened path text => s.analyze path text
  | .changed path text => s.analyze path text
  | .closed path => s.close path
  | .setPaused paused => (s.setPaused paused, [])
  | .rerunAll => s.rerun s.openTexts.keys

def handleAll (s : Session) : List DocumentEvent → Session × List Notification
  | [] => (s, [])
  | e :: es =>
    let (s, told) := s.handle e
    let (s, more) := handleAll s es
    (s, told ++ more)

def rule? (s : Session) (code : String) : Option Rule := s.registry.byCode? code

def openDocuments (s : Session) : List Path := s.openTexts.keys

def violations (s : Session) (path : Path) : List Violation := (s.documents.get? path).getD []

def allViolations (s : Session) : List Violation := s.documents.values.flatten

def byCategory (s : Session) (category : String) : List Violation :=
  s.allViolations.filter fun v => v.category == category

def bySeverity (s : Session) (severity : Severity) : List Violation :=
  s.allViolations.filter fun v => v.severity == severity

def categories (s : Session) : List String :=
  distinctSorted (s.allViolations.map Violation.category)

def categoryCounts (s : Session) : List (String × Nat) :=
  nameCounts (s.allViolations.map Violation.category)

def total (s : Session) : Nat := s.documents.values.foldl (fun n vs => n + vs.length) 0

def debugText (s : Session) : String :=
  "Session \x7b rules: " ++ toString s.registry.size ++
    ", documents: " ++ toString s.documents.length ++
    ", open: " ++ toString s.openTexts.length ++
    ", paused: " ++ (if s.paused then "true" else "false") ++
    ", listeners: " ++ toString s.listeners ++ " \x7d"

end Session

end PatternLint
