import PatternLint.Command.Run

/-! The files that a command may look at, so that they can be gathered before it runs.
First come the places where a configuration may be; once those are known, the configuration says
where the rest is. -/

namespace PatternLint

namespace Invocation

def configPlaces (i : Invocation) (w : Workspace) : List Path :=
  match i.config with
  | some p => [p]
  | none =>
    (ConfigSource.projectNames.map fun n => i.command.projectDir.join ⟨n⟩) ++
      (ConfigSource.userDir? w).toList.map (·.join ⟨"config.toml"⟩)

def scanRoot? (i : Invocation) (w : Workspace) (s : Settings) : Option Path :=
  match i.command with
  | .check o => some (w.absolute ((o.scanRequest s.config).root.getD ⟨"."⟩))
  | .listRules .. | .explain _ | .init _ => none

def settings (i : Invocation) (w : Workspace) : Settings :=
  match Settings.load w i.command.projectDir i.config with
  | .ok s => s
  | .error _ => ⟨.standard, .standard⟩

end Invocation

namespace Ignore

def fileNames : List String := [".ignore", ".gitignore", ".git", ".git/info/exclude"]

def outerPlaces (names : List String) : List Path :=
  (List.range (names.length + 1)).flatMap fun n =>
    fileNames.map fun f => ⟨"/" ++ "/".intercalate (names.take n ++ [f])⟩

def pointers : List String → FileTree → List ByteArray
  | names, dir =>
    let here := match dir.entries.lookup ".git" with
      | some (.file (.ok bytes)) => [bytes]
      | _ => []
    match names with
    | [] => here
    | name :: names => here ++ pointers names ((dir.entries.lookup name).getD .empty)

mutual

def pointersBelow : FileTree → List ByteArray
  | .file _ | .other => []
  | .directory entries => pointersAmong entries

def pointersAmong : List (String × FileTree) → List ByteArray
  | [] => []
  | (name, t) :: entries =>
    (match t with
      | .file (.ok bytes) => if name = ".git" then [bytes] else []
      | _ => []) ++ pointersBelow t ++ pointersAmong entries

end

def pointedPlaces (pointers : List ByteArray) : List Path :=
  pointers.filterMap fun bytes => do
    let line ← firstLine? bytes
    guard (pointerMark.isPrefixOf line)
    return (⟨String.ofList (line.drop pointerMark.length)⟩ : Path).join ⟨"commondir"⟩

def pointedRules (w : Workspace) (pointers : List ByteArray) : List Path :=
  (pointers.filterMap (commonDir? w)).map (·.join ⟨"info/exclude"⟩)

end Ignore

end PatternLint
