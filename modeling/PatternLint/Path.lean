/-! Slash-separated paths.
A path keeps the spelling it was given, while equality of documents and their order go by its
components: repeated slashes, inner `.` steps and a trailing slash do not count. -/

namespace PatternLint

inductive Component where
  | root
  | here
  | up
  | name (s : String)
  deriving Repr, DecidableEq

namespace Component

def rank : Component → Nat
  | .root => 0
  | .here => 1
  | .up => 2
  | .name _ => 3

/-- The root comes first, then `.`, `..` and the names in the order of their characters. -/
def order : Component → Component → Ordering
  | .name a, .name b => compare a b
  | a, b => compare a.rank b.rank

def text : Component → String
  | .root => "/"
  | .here => "."
  | .up => ".."
  | .name s => s

end Component

structure Path where
  spelling : String
  deriving Repr, DecidableEq, Inhabited

namespace Path

def pieces : List Char → List (List Char)
  | [] => [[]]
  | c :: s =>
    if c = '/' then [] :: pieces s
    else match pieces s with
      | [] => [[c]]
      | p :: ps => (c :: p) :: ps

def componentsOf (s : List Char) : List Component :=
  let steps (ps : List (List Char)) : List Component :=
    ps.filterMap fun p =>
      if p = [] ∨ p = ['.'] then none
      else if p = ['.', '.'] then some .up
      else some (.name (String.ofList p))
  match pieces s with
  | [] => []
  | first :: rest =>
    if first = [] then (if rest = [] then [] else .root :: steps rest)
    else if first = ['.'] then .here :: steps rest
    else steps (first :: rest)

def components (p : Path) : List Component := componentsOf p.spelling.toList

def orderComponents : List Component → List Component → Ordering
  | [], [] => .eq
  | [], _ :: _ => .lt
  | _ :: _, [] => .gt
  | a :: as, b :: bs => (Component.order a b).then (orderComponents as bs)

def order (p q : Path) : Ordering := orderComponents p.components q.components

def same (p q : Path) : Bool := p.components == q.components

def isAbsolute (p : Path) : Bool := p.spelling.startsWith "/"

def spell : List Component → String
  | [] => ""
  | .root :: rest => "/" ++ spellSteps rest
  | rest => spellSteps rest
where
  spellSteps (cs : List Component) : String := "/".intercalate (cs.map Component.text)

def join (p q : Path) : Path :=
  if q.isAbsolute then q
  else if p.spelling.isEmpty || p.spelling.endsWith "/" then ⟨p.spelling ++ q.spelling⟩
  else ⟨p.spelling ++ "/" ++ q.spelling⟩

def fileName? (p : Path) : Option String :=
  match p.components.getLast? with
  | some (.name s) => some s
  | _ => none

/-- Drops pieces that are no steps, from the end of a path given last piece first; the first piece
of a path stays. -/
def dropIdle : List (List Char) → List (List Char)
  | [] => []
  | [first] => [first]
  | p :: ps => if p = [] ∨ p = ['.'] then dropIdle ps else p :: ps

/-- The path without its last step, in the spelling it has; the root and the empty path have
none. -/
def parent? (p : Path) : Option Path :=
  match p.components.getLast? with
  | none | some .root => none
  | some _ =>
    match dropIdle ((dropIdle (pieces p.spelling.toList).reverse).drop 1) with
    | [[]] => some ⟨"/"⟩
    | back => some ⟨"/".intercalate (back.reverse.map String.ofList)⟩

/-- What follows the last dot of the file name, unless that dot is its first character. -/
def extension? (p : Path) : Option String :=
  p.fileName?.bind fun name =>
    let back := name.toList.reverse
    let after := back.takeWhile (· ≠ '.')
    match back.dropWhile (· ≠ '.') with
    | _ :: _ :: _ => some (String.ofList after.reverse)
    | _ => none

/-- One step from a place given by its names, last one first; `..` takes the last name away. -/
def stepFrom (back : List String) : Component → List String
  | .name n => n :: back
  | .up => back.drop 1
  | .root | .here => back

/-- The names on the way to an absolute path once every `..` is carried out. -/
def resolvedNames (p : Path) : List String := (p.components.foldl stepFrom []).reverse

def relativeTo? (p base : Path) : Option Path :=
  let cs := p.components
  let bs := base.components
  if bs.isPrefixOf cs then some ⟨spell (cs.drop bs.length)⟩ else none

end Path

end PatternLint
