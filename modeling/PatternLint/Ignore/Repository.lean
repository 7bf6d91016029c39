import PatternLint.Ignore.Rule
import PatternLint.Workspace

/-! The rules that belong to a repository as a whole.
They are in `info/exclude` below the directory `.git`.  Where `.git` is a file, its first line
points to a directory that names the common directory of the repository, and they are there. -/

namespace PatternLint.Ignore

def firstLine? (bytes : ByteArray) : Option (List Char) :=
  if bytes.isEmpty then none else (readLines (splitLines bytes.toList)).head?

def rulesIn : Option FileTree → List Rule
  | some (.file (.ok bytes)) => rules bytes
  | _ => []

def rulesAt (t : FileTree) (steps : List String) : List Rule :=
  rulesIn (t.follow [] (steps.map Component.name)).toOption

def pointerMark : List Char := "gitdir: ".toList

/-- The common directory of the repository that a pointer file leads to.  Its name is seen from the
repository when it begins with a dot. -/
def commonDir? (w : Workspace) (pointer : ByteArray) : Option Path := do
  let line ← firstLine? pointer
  guard (pointerMark.isPrefixOf line)
  let dir : Path := ⟨String.ofList (line.drop pointerMark.length)⟩
  match ← w.find? (dir.join ⟨"commondir"⟩) with
  | .file (.ok bytes) =>
    let line ← firstLine? bytes
    let name : Path := ⟨String.ofList line⟩
    return if line.head? = some '.' then dir.join name else name
  | _ => none

def repositoryRules (w : Workspace) (dir : FileTree) : List Rule :=
  match dir.entries.lookup ".git" with
  | some (.file (.error _)) => []
  | some (.file (.ok bytes)) =>
    rulesIn ((commonDir? w bytes).bind fun common => w.find? (common.join ⟨"info/exclude"⟩))
  | _ => rulesAt dir [".git", "info", "exclude"]

end PatternLint.Ignore
