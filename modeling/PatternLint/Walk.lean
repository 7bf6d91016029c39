import PatternLint.Ignore.UserRules

/-! Walking a directory under ignore files.
Each directory may bring three lists of rules.  A name is judged from its own directory outwards
up to the root of the file tree, each kind of list on its own: the nearest list that says anything
speaks for its kind, and the kinds are then asked in order.  Directories that are ignored are not
entered, hidden files are walked like others, and the start of a walk is never judged. -/

namespace PatternLint

structure IgnoreLevel where
  plain : List Ignore.Rule
  shared : List Ignore.Rule
  repository : List Ignore.Rule

/-- The ignore files of a directory; those of version control only where they are respected. -/
def IgnoreLevel.ofDirectory (w : Workspace) (respectGitignore : Bool) (dir : FileTree) :
    IgnoreLevel where
  plain := Ignore.rulesAt dir [".ignore"]
  shared := if respectGitignore then Ignore.rulesAt dir [".gitignore"] else []
  repository := if respectGitignore then Ignore.repositoryRules w dir else []

/-- A directory whose rules are in force, and the way from it to the current one. -/
structure IgnoreScope where
  level : IgnoreLevel
  below : List UInt8

structure Walk where
  levelOf : FileTree → IgnoreLevel
  user : List Ignore.Rule
  userView : Path → List UInt8
  path : Path
  /-- Nearest directory first. -/
  scopes : List IgnoreScope

namespace Walk

def judge (s : Walk) (kind : IgnoreLevel → List Ignore.Rule) (name : String)
    (isDirectory : Bool) : Option Ignore.Verdict :=
  s.scopes.findSome? fun scope =>
    Ignore.verdict? (kind scope.level) (scope.below ++ name.toUTF8.toList) isDirectory

def verdict? (s : Walk) (name : String) (isDirectory : Bool) : Option Ignore.Verdict :=
  (((s.judge IgnoreLevel.plain name isDirectory).or
    (s.judge IgnoreLevel.shared name isDirectory)).or
    (s.judge IgnoreLevel.repository name isDirectory)).or
    (Ignore.verdict? s.user (s.userView (s.path.join ⟨name⟩)) isDirectory)

def ignores (s : Walk) (name : String) (isDirectory : Bool) : Bool :=
  s.verdict? name isDirectory == some .ignored

def step (s : Walk) (name : String) : Walk :=
  { s with
    path := s.path.join ⟨name⟩
    scopes := s.scopes.map fun scope =>
      { scope with below := scope.below ++ name.toUTF8.toList ++ [Wildcard.slash] } }

def enter (s : Walk) (dir : FileTree) : Walk :=
  { s with scopes := ⟨s.levelOf dir, []⟩ :: s.scopes }

mutual

def files (s : Walk) : FileTree → List Path
  | .file _ => [s.path]
  | .other => []
  | .directory entries => filesIn (s.enter (.directory entries)) entries

def filesIn (s : Walk) : List (String × FileTree) → List Path
  | [] => []
  | (name, t) :: entries =>
    (if s.ignores name t.isDirectory then [] else files (s.step name) t) ++ filesIn s entries

end

/-- The scopes of the directories that are passed on the way down from `dir`. -/
def outerScopes (levelOf : FileTree → IgnoreLevel) :
    List String → FileTree → List IgnoreScope
  | [], _ => []
  | name :: names, dir =>
    let below := ("/".intercalate (name :: names) ++ "/").toUTF8.toList
    outerScopes levelOf names ((dir.entries.lookup name).getD .empty) ++ [⟨levelOf dir, below⟩]

def start (w : Workspace) (respectGitignore : Bool) (root : Path) : Walk where
  levelOf := .ofDirectory w respectGitignore
  user := Ignore.userRules w
  userView := Ignore.userView w
  path := root
  scopes := outerScopes (.ofDirectory w respectGitignore) root.resolvedNames w.files

end Walk

end PatternLint
