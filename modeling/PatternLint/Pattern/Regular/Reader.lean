import PatternLint.Pattern.Regular.Bracket
import PatternLint.Pattern.Regular.Tree

/-! Reading the regular notation.
Flags given inside a group hold until its end.  The nesting of groups, rows, choices, repetitions
and sets together is limited. -/

namespace PatternLint.Pattern.Regular

structure Flags where
  anyCase : Bool
  multiLine : Bool
  dotAll : Bool
  swapGreed : Bool

/-- What is left to read, the flags in force and the number of groups opened so far. -/
structure Cursor where
  rest : List Char
  flags : Flags
  groups : Nat

structure Part where
  tree : Regular
  depth : Nat
  repeatable : Bool

namespace Part

def leaf (tree : Regular) : Part := ⟨tree, 0, true⟩

def deepest (parts : List Part) : Nat := parts.foldl (fun d p => max d p.depth) 0

def join (build : List Regular → Regular) : List Part → Part
  | [] => .leaf .empty
  | [p] => p
  | parts => ⟨build (parts.map Part.tree), deepest parts + 1, true⟩

end Part

namespace Cursor

abbrev Result := Except PatternError (Part × Cursor)

def moveTo (c : Cursor) (rest : List Char) : Cursor := { c with rest }

def literalOf (c : Cursor) (x : Char) : Regular :=
  if c.flags.anyCase then .ofSet (CharSet.ofChar x).foldCase else .literal [x]

def maxRepeat : Nat := 0xFFFFFFFF

def count? (s : List Char) : Option (Nat × List Char) :=
  let digits := s.takeWhile Char.isDigit
  let n := digits.foldl (fun n d => 10 * n + (d.toNat - '0'.toNat)) 0
  if digits.isEmpty || maxRepeat < n then none else some (n, s.drop digits.length)

def bounds? (s : List Char) : Option (Nat × Option Nat × List Char) := do
  match ← count? s with
  | (lo, '}' :: rest) => some (lo, some lo, rest)
  | (lo, ',' :: '}' :: rest) => some (lo, none, rest)
  | (lo, ',' :: r) =>
    match ← count? r with
    | (hi, '}' :: rest) => if lo ≤ hi then some (lo, some hi, rest) else none
    | _ => none
  | _ => none

def repeatLast (c : Cursor) (lo : Nat) (hi : Option Nat) (rest : List Char) :
    List Part → Except PatternError (List Part × Cursor)
  | [] => .error .nothingToRepeat
  | p :: parts =>
    if !p.repeatable then .error .nothingToRepeat
    else
      let (isLazy, rest) := match rest with
        | '?' :: r => (true, r)
        | r => (false, r)
      let tree := loopOf lo hi (isLazy == c.flags.swapGreed) p.tree
      .ok (⟨tree, p.depth + 1, true⟩ :: parts, c.moveTo rest)

def setFlag (f : Flags) (value : Bool) : Char → Option Flags
  | 'i' => some { f with anyCase := value }
  | 'm' => some { f with multiLine := value }
  | 's' => some { f with dotAll := value }
  | 'U' => some { f with swapGreed := value }
  | _ => none

/-- The flags of a group, from after its `?`: the new flags, whether a body follows, the rest. -/
def readFlags (f : Flags) (value : Bool) : List Char →
    Except PatternError (Flags × Bool × List Char)
  | [] => .error .unclosedGroup
  | ')' :: r => .ok (f, false, r)
  | ':' :: r => .ok (f, true, r)
  | '-' :: r => if value then readFlags f false r else .error .unknownFlag
  | x :: r =>
    match setFlag f value x with
    | some f => readFlags f value r
    | none => .error .unknownFlag

def group (inner : Cursor → Result) (c : Cursor) : Result := do
  let body (c : Cursor) : Result := do
    let (p, c) ← inner c
    match c.rest with
    | ')' :: r => return (⟨p.tree, p.depth + 1, true⟩, c.moveTo r)
    | _ => throw .unclosedGroup
  match c.rest with
  | '?' :: r =>
    let (flags, hasBody, rest) ← readFlags c.flags true r
    if hasBody then
      let (p, after) ← body { c with flags, rest }
      return (p, { after with flags := c.flags })
    else return (⟨.empty, 0, false⟩, { c with flags, rest })
  | _ =>
    let index := c.groups + 1
    let (p, after) ← body { c with groups := index }
    return (⟨.capture index p.tree, p.depth, true⟩, { after with flags := c.flags })

def maxDepth : Nat := 250

def leaf (c : Cursor) (x : Char) (r : List Char) : Result :=
  match x with
  | '[' => do
    let (members, depth, rest) ← readSet c.flags.anyCase maxDepth r
    return (⟨.ofSet members, depth, true⟩, c.moveTo rest)
  | '\\' => do
    match ← escape c.flags.anyCase r with
    | (.char y, rest) => return (.leaf (c.literalOf y), c.moveTo rest)
    | (.set s, rest) => return (.leaf (.ofSet s), c.moveTo rest)
  | '.' =>
    let members := if c.flags.dotAll then CharSet.full else CharSet.newline.complement
    .ok (.leaf (.set members), c.moveTo r)
  | '^' => .ok (.leaf (.anchor (if c.flags.multiLine then .lineStart else .textStart)), c.moveTo r)
  | '$' => .ok (.leaf (.anchor (if c.flags.multiLine then .lineEnd else .textEnd)), c.moveTo r)
  | x => .ok (.leaf (c.literalOf x), c.moveTo r)

def parts (inner : Option (Cursor → Result)) :
    (fuel : Nat) → List Part → Cursor → Except PatternError (List Part × Cursor)
  | 0, acc, c => .ok (acc, c)
  | fuel + 1, acc, c =>
    match c.rest with
    | [] | '|' :: _ | ')' :: _ => .ok (acc, c)
    | '(' :: r =>
      match inner with
      | some inner => do
        let (p, c) ← group inner (c.moveTo r)
        parts inner fuel (p :: acc) c
      | none => .error .tooDeep
    | '?' :: r => do
      let (acc, c) ← c.repeatLast 0 (some 1) r acc
      parts inner fuel acc c
    | '*' :: r => do
      let (acc, c) ← c.repeatLast 0 none r acc
      parts inner fuel acc c
    | '+' :: r => do
      let (acc, c) ← c.repeatLast 1 none r acc
      parts inner fuel acc c
    | '{' :: r =>
      match bounds? r with
      | some (lo, hi, rest) => do
        let (acc, c) ← c.repeatLast lo hi rest acc
        parts inner fuel acc c
      | none => .error .badRepeat
    | x :: r => do
      let (p, c) ← c.leaf x r
      parts inner fuel (p :: acc) c

def row (inner : Option (Cursor → Result)) (c : Cursor) : Result := do
  let (acc, c) ← parts inner (c.rest.length + 1) [] c
  return (Part.join seqOf acc.reverse, c)

def moreRows (inner : Option (Cursor → Result)) : (fuel : Nat) → List Part → Cursor → Result
  | 0, acc, c => .ok (Part.join altOf acc.reverse, c)
  | fuel + 1, acc, c =>
    match c.rest with
    | '|' :: r => do
      let (p, c) ← row inner (c.moveTo r)
      moreRows inner fuel (p :: acc) c
    | _ => .ok (Part.join altOf acc.reverse, c)

def rows (inner : Option (Cursor → Result)) (c : Cursor) : Result := do
  let (p, c) ← row inner c
  moreRows inner (c.rest.length + 1) [p] c

/-- The reader for what stands inside a group, when `depth` more levels are left. -/
def level : (depth : Nat) → Option (Cursor → Result)
  | 0 => none
  | depth + 1 => some (rows (level depth))

end Cursor

def read (text : List Char) : Except PatternError Regular := do
  let c : Cursor := ⟨text, ⟨false, false, false, false⟩, 0⟩
  let (p, c) ← Cursor.rows (Cursor.level Cursor.maxDepth) c
  if !c.rest.isEmpty then throw .unexpectedClose
  if Cursor.maxDepth < p.depth then throw .tooDeep
  return p.tree

end PatternLint.Pattern.Regular
