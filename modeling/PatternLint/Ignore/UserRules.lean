import PatternLint.Ignore.Repository
import PatternLint.Match

/-! The user's own ignore file, which holds for every directory. -/

namespace PatternLint.Ignore

def settingsDir? (w : Workspace) : Option Path :=
  match w.valueOf? "XDG_CONFIG_HOME" with
  | some dir => if dir.isEmpty then defaultDir else some ⟨dir⟩
  | none => defaultDir
where
  defaultDir : Option Path := w.home?.map (·.join ⟨".config"⟩)

/-- The setting that names an ignore file of the user; blanks are those of ASCII. -/
def excludesFilePattern : String :=
  "(?i)^[\\t-\\r ]*excludesfile[\\t-\\r ]*=[\\t-\\r ]*\"?[\\t-\\r ]*([^\\t-\\r ]+?)" ++
    "[\\t-\\r ]*\"?[\\t-\\r ]*$"

def expandHome (w : Workspace) (name : String) : Path :=
  match w.home? with
  | none => ⟨name⟩
  | some home =>
    ⟨String.ofList (name.toList.flatMap fun c => if c = '~' then home.spelling.toList else [c])⟩

/-- The ignore file that a settings file names.  The file is searched byte by byte; only the name
has to be text. -/
def namedFile? (w : Workspace) (settings : Path) : Option Path := do
  match ← w.find? settings with
  | .directory _ | .other | .file (.error _) => none
  | .file (.ok bytes) =>
    let text := bytes.toList.map fun b => Char.ofNat b.toNat
    let pattern ← (Pattern.compile excludesFilePattern .standard).toOption
    let spans ← (pattern.findMatches text).toOption
    let name ← (← spans.head?).groups.head?.join
    let name ← String.fromUTF8? ⟨(name.map fun c => UInt8.ofNat c.toNat).toArray⟩
    return expandHome w name

/-- The settings files of the user: the one that a variable names, or the usual ones. -/
def userSettings (w : Workspace) : List Path :=
  match w.valueOf? "GIT_CONFIG_GLOBAL" with
  | some name => [⟨name⟩]
  | none =>
    w.home?.toList.map (·.join ⟨".gitconfig"⟩) ++
      (settingsDir? w).toList.map (·.join ⟨"git/config"⟩)

def systemSettings (w : Workspace) : Path :=
  ⟨(w.valueOf? "GIT_CONFIG_SYSTEM").getD "/etc/gitconfig"⟩

def settingsPlaces (w : Workspace) : List Path := userSettings w ++ [systemSettings w]

/-- The ignore file named in the settings, or the one beside the user's own. -/
def userFile? (w : Workspace) : Option Path :=
  ((settingsPlaces w).findSome? (namedFile? w)).or
    ((settingsDir? w).map fun dir => dir.join ⟨"git/ignore"⟩)

def userRules (w : Workspace) : List Rule := rulesIn ((userFile? w).bind w.find?)

/-- How the user's rules see an absolute path: from the current directory when it is below. -/
def userView (w : Workspace) (p : Path) : List UInt8 :=
  let s := p.spelling.toList
  let base := w.currentDir.spelling.toList
  let s :=
    if base.isPrefixOf s then
      match s.drop base.length with
      | '/' :: below => below
      | below => below
    else s
  (String.ofList s).toUTF8.toList

end PatternLint.Ignore
