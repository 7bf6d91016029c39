import PatternLint.Command.Sources

/-! The command line program: gathers files, runs the command on them and carries out what the run
amounts to. -/

namespace PatternLint

def consultedVariables : List String :=
  ["HOME", "XDG_CONFIG_HOME", "GIT_CONFIG_GLOBAL", "GIT_CONFIG_SYSTEM", Arguments.configVariable,
    "AUTOSAR_LINT_CONFIG_DIR"]

def readVariables : IO (List (String × String)) :=
  consultedVariables.filterMapM fun name => do
    return (← IO.getEnv name).map fun value => (name, value)

def readContent (path : String) : IO FileContent := do
  try return .ok (← IO.FS.readBinFile path)
  catch _ => return .error .denied

/-- What is at a path on disk; directories are read to the bottom when `deep`. -/
partial def readTree (deep : Bool) (path : String) : IO (Option FileTree) := do
  try
    let place ← IO.FS.realPath path
    if ← place.isDir then
      if !deep then return some .empty
      let entries ← place.readDir
      let children ← entries.toList.filterMapM fun e => do
        match (← e.path.symlinkMetadata).type with
        | .dir | .file => return (← readTree deep e.path.toString).map fun t => (e.fileName, t)
        | _ => return some (e.fileName, .other)
      return some (.directory children)
    else return some (.file (← readContent place.toString))
  catch _ => return none

def gather (deep : Bool) (w : Workspace) (paths : List Path) : IO Workspace :=
  paths.foldlM (fun w p => do
    let path := w.absolute p
    match ← readTree deep path.spelling with
    | some t => return { w with files := .put t path.resolvedNames w.files }
    | none => return w) w

def gatherFor (i : Invocation) (w : Workspace) : IO Workspace := do
  let w ← gather false w (⟨configFileName⟩ :: i.configPlaces w)
  let s := i.settings w
  let w ← gather false w s.ruleFiles
  match i.scanRoot? w s with
  | none => return w
  | some root =>
    let w ← gather false w (Ignore.settingsPlaces w)
    let w ← gather false w (Ignore.userFile? w).toList
    let w ← gather true w [root]
    let w ← gather false w (Ignore.outerPlaces root.resolvedNames.dropLast)
    let pointers := Ignore.pointers root.resolvedNames w.files ++
      ((w.find? root).map Ignore.pointersBelow).getD []
    let w ← gather false w (Ignore.pointedPlaces pointers)
    gather false w (Ignore.pointedRules w pointers)

def emptyWorkspace : IO Workspace := do
  let here : Path := ⟨(← IO.currentDir).toString⟩
  let bare := FileTree.put .empty here.resolvedNames .empty
  return ⟨bare, here, ← readVariables⟩

partial def wait : IO UInt32 := do
  IO.sleep 1000
  wait

def execute (args : List String) : IO UInt32 := do
  let w ← emptyWorkspace
  let outcome? ← match Invocation.parse w args with
    | .error refusal => pure (some refusal.outcome)
    | .ok i => i.run <$> gatherFor i w
  let some outcome := outcome? | wait
  outcome.writes.forM fun (p, text) => IO.FS.writeFile (w.absolute p).spelling text
  IO.print outcome.stdout
  IO.eprint outcome.stderr
  return UInt32.ofNat outcome.exitCode

end PatternLint

def main (args : List String) : IO UInt32 := PatternLint.execute args
