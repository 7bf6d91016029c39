import PatternLint.Analysis
import PatternLint.Glob
import PatternLint.LintResult
import PatternLint.Walk

/-! Analyzing every document below a directory.
A scan is prepared from what was asked for and from the configuration, which fills the gaps and
adds its exclusions.  It visits the files of a walk that have a wanted extension and that no
exclusion names, in the order of their paths. -/

namespace PatternLint

/-- What is asked of a scan; the rest comes from the configuration or is standard. -/
structure ScanRequest where
  root : Option Path := none
  exclude : List String := []
  extensions : Option (List String) := none
  respectGitignore : Option Bool := none
  deriving Repr, DecidableEq

def ScanRequest.withConfig (r : ScanRequest) (c : AnalyzerConfig) : ScanRequest where
  root := r.root.or (some c.root)
  exclude := r.exclude ++ c.exclude
  extensions := r.extensions.or (some c.extensions)
  respectGitignore := r.respectGitignore.or (some c.respectGitignore)

inductive ScanError where
  | rootNotFound (path : Path)
  | invalidExclusion (cause : GlobError)
  deriving Repr, DecidableEq

def ScanError.message : ScanError → String
  | .rootNotFound path => "Root directory not found: " ++ path.spelling
  | .invalidExclusion _ => "Invalid glob pattern"

structure Scan where
  /-- An absolute path. -/
  root : Path
  exclusions : List Glob
  extensions : List String
  respectGitignore : Bool

namespace Scan

/-- The root has to be a directory and the exclusions well formed, in this order. -/
def prepare (w : Workspace) (r : ScanRequest) : Except ScanError Scan := do
  let root := w.absolute (r.root.getD ⟨"."⟩)
  if !w.isDirectory root then throw (.rootNotFound root)
  let exclusions ← (r.exclude.mapM Glob.parse).mapError .invalidExclusion
  return {
    root := root
    exclusions := exclusions
    extensions := r.extensions.getD defaultExtensions
    respectGitignore := r.respectGitignore.getD true }

/-- Whether an exclusion names the path, as it was walked or as seen from the root. -/
def excludes (s : Scan) (p : Path) : Bool :=
  let relative := (p.relativeTo? s.root).getD p
  s.exclusions.any fun g => g.acceptsPath p || g.acceptsPath relative

def selects (s : Scan) (p : Path) : Bool := hasExtension p s.extensions && !s.excludes p

def walked (s : Scan) (w : Workspace) : List Path :=
  match w.find s.root with
  | .ok dir => (Walk.start w s.respectGitignore s.root).files dir
  | .error _ => []

def files (s : Scan) (w : Workspace) : List Path :=
  ((s.walked w).filter s.selects).mergeSort fun p q => p.order q != .gt

def checkFile (w : Workspace) (g : Registry) (p : Path) : Except ReadError (List Violation) := do
  return g.analyze p (← w.readText p).toList

/-- The result of one file; a file that cannot be read as text counts as skipped. -/
def fileResult (w : Workspace) (g : Registry) (p : Path) : LintResult :=
  match checkFile w g p with
  | .ok violations => ⟨violations, 1, 0⟩
  | .error _ => ⟨[], 0, 1⟩

def abortAt? (w : Workspace) (g : Registry) (p : Path) : Option Abort :=
  match w.readText p with
  | .ok text => g.abort? text.toList
  | .error _ => none

def run (s : Scan) (w : Workspace) (g : Registry) : LintResult :=
  (s.files w).foldl (fun sum p => sum ++ fileResult w g p) .empty

/-- What a scan returns, if it returns: the first analysis without an end or with a crash is its
last. -/
def attempt (s : Scan) (w : Workspace) (g : Registry) : Except Abort LintResult :=
  match (s.files w).findSome? (abortAt? w g) with
  | none => .ok (s.run w g)
  | some abort => .error abort

end Scan

end PatternLint
