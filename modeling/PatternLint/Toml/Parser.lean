import PatternLint.Toml.Text

/-! Reading a TOML document.
Tables grow in three ways: a header defines one, the front part of a header or of a dotted key
makes those on the way.  What a header has defined stays closed to dotted keys and to a second
header, and a table made by dotted keys stays closed to headers. -/

namespace PatternLint.Toml

inductive Origin where
  /-- Defined by its own header. -/
  | defined
  /-- On the way to a header. -/
  | passed
  /-- On the way of a dotted key. -/
  | dotted
  deriving DecidableEq

inductive Item where
  | value (v : Value)
  | table (origin : Origin) (entries : List (String × Item))
  /-- A list of tables written with doubled brackets, the last one first. -/
  | tables (latest : List (String × Item)) (earlier : List (List (String × Item)))

abbrev Entries := List (String × Item)

namespace Entries

def set (k : String) (i : Item) : Entries → Entries
  | [] => [(k, i)]
  | e :: es => if e.1 = k then (k, i) :: es else e :: set k i es

def erase (k : String) (es : Entries) : Entries := es.filter fun e => e.1 ≠ k

/-- Changes the table that a path leads to, making the tables on the way.  `f` is told the origin
of that table. -/
def descend (byKey : Bool) (f : Origin → Entries → Option Entries) :
    List String → Origin → Entries → Option Entries
  | [], origin, es => f origin es
  | k :: ks, _, es =>
    match es.lookup k with
    | none => do
      let made : Origin := if byKey then .dotted else .passed
      return set k (.table made (← descend byKey f ks made [])) es
    | some (.value _) => none
    | some (.tables latest earlier) => do
      return set k (.tables (← descend byKey f ks .defined latest) earlier) es
    | some (.table origin inner) => do
      guard !(byKey && origin == .defined)
      return set k (.table origin (← descend byKey f ks origin inner)) es

def insertKey (path : List String) (k : String) (v : Value) (es : Entries) : Option Entries :=
  descend true (fun origin es =>
    if (path.isEmpty || origin == .dotted) && (es.lookup k).isNone then
      some (es ++ [(k, .value v)])
    else none) path .defined es

end Entries

mutual
def Item.toValue : Item → Value
  | .value v => v
  | .table _ es => .table (finish es)
  | .tables latest earlier => .array ((Value.table (finish latest) :: finishAll earlier).reverse)

def finish : List (String × Item) → List (String × Value)
  | [] => []
  | (k, i) :: es => (k, i.toValue) :: finish es

def finishAll : List (List (String × Item)) → List Value
  | [] => []
  | es :: rest => .table (finish es) :: finishAll rest
end

/-- Arrays and inline tables may be nested, and keys dotted, to less than this depth. -/
def maxDepth : Nat := 80

def isBareKeyChar (c : Char) : Bool := c.isAlphanum || c == '_' || c == '-'

def simpleKey? (s : List Char) : Option (String × List Char) :=
  match s with
  | '"' :: r => basic? [] r
  | '\'' :: r => literal? [] r
  | _ =>
    let name := s.takeWhile isBareKeyChar
    if name.isEmpty then none else some (String.ofList name, s.dropWhile isBareKeyChar)

def key? (s : List Char) : Option (List String × List Char) := do
  let (k, r) ← simpleKey? (dropBlanks s)
  match dropBlanks r with
  | '.' :: r =>
    if r.length < s.length then
      let (ks, rest) ← key? r
      return (k :: ks, rest)
    else none
  | r => return ([k], r)
termination_by s.length

def splitKey? (ks : List String) : Option (List String × String) := do
  guard (ks.length < maxDepth)
  return (ks.dropLast, ← ks.getLast?)

def comment? (s : List Char) : Option (List Char) :=
  let rest := s.dropWhile isPlain
  if rest.isEmpty || (newline? rest).isSome then some rest else none

def dropArraySpace (s : List Char) : Option (List Char) :=
  match dropLines s with
  | '#' :: r => do
    let rest ← comment? r
    if rest.length < s.length then dropArraySpace rest else none
  | r => some r
termination_by s.length

abbrev Reader := List Char → Option (Value × List Char)

def arrayItems (value : Reader) (acc : List Value) (s : List Char) :
    Option (Value × List Char) := do
  match ← dropArraySpace s with
  | ']' :: r => return (.array acc.reverse, r)
  | r =>
    let (v, r) ← value r
    match ← dropArraySpace r with
    | ',' :: r => if r.length < s.length then arrayItems value (v :: acc) r else none
    | ']' :: r => return (.array (v :: acc).reverse, r)
    | _ => none
termination_by s.length

def keyValue? (value : Reader) (s : List Char) : Option (List String × Value × List Char) := do
  let (ks, r) ← key? s
  let r ← expect '=' r
  let (v, r) ← value (dropBlanks r)
  return (ks, v, r)

def inlineItems (value : Reader) (acc : Entries) (s : List Char) : Option (Value × List Char) := do
  let (ks, v, r) ← keyValue? value s
  let (path, k) ← splitKey? ks
  let acc ← Entries.insertKey path k v acc
  match dropBlanks r with
  | ',' :: r => if r.length < s.length then inlineItems value acc r else none
  | '}' :: r => return (.table (finish acc), r)
  | _ => none
termination_by s.length

def readValue : (depth : Nat) → Reader
  | 0, _ => none
  | depth + 1, s =>
    match s with
    | '[' :: r => if depth = 0 then none else arrayItems (readValue depth) [] r
    | '{' :: r =>
      if depth = 0 then none
      else
        match dropBlanks r with
        | '}' :: r => some (.table [], r)
        | r => inlineItems (readValue depth) [] r
    | '"' :: _ | '\'' :: _ => (readString s).map fun (t, r) => (.string t, r)
    | _ => readScalar s

/-- The document so far: finished tables, and the one that lines are being added to. -/
structure Draft where
  root : Entries
  current : Entries
  path : List String
  isList : Bool

namespace Draft

def close (d : Draft) : Option Entries :=
  match splitKey? d.path with
  | none => some d.current
  | some (path, k) =>
    Entries.descend false (fun _ es =>
      if d.isList then
        match es.lookup k with
        | none => some (Entries.set k (.tables d.current []) es)
        | some (.tables latest earlier) =>
          some (Entries.set k (.tables d.current (latest :: earlier)) es)
        | some _ => none
      else some (Entries.set k (.table .defined d.current) es)) path .defined d.root

def openTable (root : Entries) (ks : List String) : Option Draft := do
  let (path, k) ← splitKey? ks
  let found ← lookupAt root path k
  match found with
  | none => return ⟨← Entries.descend false (fun _ es => some es) path .defined root, [], ks, false⟩
  | some (.table .passed es) =>
    return ⟨← Entries.descend false (fun _ es => some (Entries.erase k es)) path .defined root,
      es, ks, false⟩
  | some _ => none
where
  /-- The item that a header names, through the latest of lists of tables. -/
  lookupAt (es : Entries) : List String → String → Option (Option Item)
    | [], k => some (es.lookup k)
    | p :: ps, k =>
      match es.lookup p with
      | none => some none
      | some (.value _) => none
      | some (.table _ inner) => lookupAt inner ps k
      | some (.tables latest _) => lookupAt latest ps k

def openListed (root : Entries) (ks : List String) : Option Draft := do
  let (path, k) ← splitKey? ks
  let root ← Entries.descend false (fun _ es =>
    match es.lookup k with
    | none | some (.tables ..) => some es
    | some _ => none) path .defined root
  return ⟨root, [], ks, true⟩

def lineEnd? (s : List Char) : Option (List Char) :=
  let after (r : List Char) : Option (List Char) := if r.isEmpty then some r else newline? r
  match dropBlanks s with
  | '#' :: r => (comment? r).bind after
  | r => after r

def line (d : Draft) (s : List Char) : Option (Draft × List Char) :=
  match s with
  | '[' :: '[' :: r => do
    let (ks, r) ← key? r
    let r ← lineEnd? (← expect ']' (← expect ']' r))
    return (← openListed (← d.close) ks, r)
  | '[' :: r => do
    let (ks, r) ← key? r
    let r ← lineEnd? (← expect ']' r)
    return (← openTable (← d.close) ks, r)
  | _ => do
    let (ks, v, r) ← keyValue? (readValue maxDepth) s
    let (path, k) ← splitKey? ks
    let current ← Entries.insertKey path k v d.current
    return ({ d with current }, ← lineEnd? r)

def lines (d : Draft) (s : List Char) : Option Entries :=
  match dropLines s with
  | [] => d.close
  | '#' :: r => do
    let rest ← comment? r
    if rest.length < s.length then lines d rest else none
  | r => do
    let (d, rest) ← d.line r
    if rest.length < s.length then lines d rest else none
termination_by s.length

end Draft

def parse? (text : String) : Option Value :=
  let s := match text.toList with
    | '\uFEFF' :: r => r
    | r => r
  (Draft.lines ⟨[], [], [], false⟩ s).map fun es => .table (finish es)

end PatternLint.Toml
