import PatternLint.FileTree

/-! Where a command runs: the files it can see, its current directory and its variables. -/

namespace PatternLint

structure Workspace where
  files : FileTree
  /-- An absolute path. -/
  currentDir : Path
  environment : List (String × String)

namespace Workspace

def absolute (w : Workspace) (p : Path) : Path := w.currentDir.join p

def find (w : Workspace) (p : Path) : Except ReadError FileTree :=
  if p.spelling.isEmpty then .error .notFound else w.files.find (w.absolute p)

def find? (w : Workspace) (p : Path) : Option FileTree := (w.find p).toOption

def isFile (w : Workspace) (p : Path) : Bool := (w.find? p).any FileTree.isFile

def isDirectory (w : Workspace) (p : Path) : Bool := (w.find? p).any FileTree.isDirectory

def contains (w : Workspace) (p : Path) : Bool := (w.find? p).isSome

def readText (w : Workspace) (p : Path) : Except ReadError String := do (← w.find p).text

def valueOf? (w : Workspace) (name : String) : Option String := w.environment.lookup name

def home? (w : Workspace) : Option Path :=
  (w.valueOf? "HOME").bind fun h => if h.isEmpty then none else some ⟨h⟩

/-- Whether a file could be written: its directory exists and it is no directory itself. -/
def isWritable (w : Workspace) (p : Path) : Bool :=
  !w.isDirectory p && p.parent?.any (fun dir => dir.spelling.isEmpty || w.isDirectory dir)

def write (w : Workspace) (p : Path) (text : String) : Workspace :=
  { w with files := .put (.ofText text) (w.absolute p).resolvedNames w.files }

end Workspace

end PatternLint
