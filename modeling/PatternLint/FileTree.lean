import PatternLint.Path
import PatternLint.ReadError

/-! Files and directories as one value.
A path is followed step by step: `..` leads back to the directory that was left, so every step on
the way has to exist, and only a directory can be stepped through.  The content of a file is its
bytes, unless it may not be read; links and devices stand among the entries of a directory, but
nothing leads through them. -/

namespace PatternLint

abbrev FileContent := Except ReadError ByteArray

inductive FileTree where
  | file (content : FileContent)
  /-- Neither a file nor a directory. -/
  | other
  | directory (entries : List (String × FileTree))
  deriving Inhabited

namespace FileTree

def empty : FileTree := .directory []

def ofText (text : String) : FileTree := .file (.ok text.toUTF8)

def entries : FileTree → List (String × FileTree)
  | .file _ | .other => []
  | .directory es => es

def isFile : FileTree → Bool
  | .file _ => true
  | .other | .directory _ => false

def isDirectory : FileTree → Bool
  | .file _ | .other => false
  | .directory _ => true

/-- Follows steps from `here`; `above` holds the directories that enclose it, nearest first. -/
def follow (above : List FileTree) (here : FileTree) :
    List Component → Except ReadError FileTree
  | [] => .ok here
  | step :: steps =>
    match here with
    | .file _ | .other => .error .notDirectory
    | .directory es =>
      match step with
      | .root | .here => follow above here steps
      | .up =>
        match above with
        | [] => follow [] here steps
        | dir :: dirs => follow dirs dir steps
      | .name n =>
        match es.lookup n with
        | none => .error .notFound
        | some t => follow (here :: above) t steps

def asksDirectory (p : Path) : Bool :=
  match (Path.pieces p.spelling.toList).reverse with
  | last :: _ :: _ => last == [] || last == ['.']
  | _ => false

def find (t : FileTree) (p : Path) : Except ReadError FileTree := do
  let found ← t.follow [] p.components
  if asksDirectory p && found.isFile then throw .notDirectory
  return found

def text (t : FileTree) : Except ReadError String :=
  match t with
  | .directory _ => .error .isDirectory
  | .other => .error .noDevice
  | .file content => do
    match String.fromUTF8? (← content) with
    | some s => .ok s
    | none => .error .notUtf8

def put (node : FileTree) : List String → FileTree → FileTree
  | [], _ => node
  | n :: ns, t =>
    let es := t.entries
    let child := put node ns ((es.lookup n).getD empty)
    if es.any (fun e => e.1 == n) then
      .directory (es.map fun e => if e.1 == n then (n, child) else e)
    else .directory (es ++ [(n, child)])

end FileTree

end PatternLint
