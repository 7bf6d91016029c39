import PatternLint.Pattern.CaseFold
import PatternLint.Pattern.Error
import PatternLint.Pattern.Unicode.Property

/-! Bracketed sets of characters in the regular notation.
A set holds characters, ranges, nested sets, named sets such as `[:alpha:]`, `\d` or `\p{Greek}`,
and the operations `&&`, `--` and `~~`, all of one precedence.  Where letters are taken without
regard to case, each set is closed under case before it is complemented. -/

namespace PatternLint.Pattern.Regular

def isSpecial (c : Char) : Bool := "\\.+*?()|[]\x7b\x7d^$#&-~".toList.contains c

def closeThenNegate (anyCase negated : Bool) (s : CharSet) : CharSet :=
  let s := if anyCase then s.foldCase else s
  if negated then s.complement else s

/-- The set of a letter escape such as `\d`; a capital letter means the complement. -/
def letterSet? : Char → Option CharSet
  | 'd' => some .digit
  | 'D' => some CharSet.digit.complement
  | 's' => some .space
  | 'S' => some CharSet.space.complement
  | 'w' => some .word
  | 'W' => some CharSet.word.complement
  | _ => none

def cutAt? (mark : List Char) : List Char → Option (List Char × List Char)
  | [] => none
  | c :: s =>
    if mark.isPrefixOf (c :: s) then some ([], (c :: s).drop mark.length)
    else (cutAt? mark s).map fun (before, after) => (c :: before, after)

def property? (text : List Char) : Option CharSet :=
  match cutAt? ['!', '='] text <|> cutAt? [':'] text <|> cutAt? ['='] text with
  | some (name, value) => Unicode.valued? name value
  | none => Unicode.named? text

def propertyEscape (anyCase negated : Bool) (s : List Char) :
    Except PatternError (CharSet × List Char) :=
  let found (members? : Option CharSet) (rest : List Char) :
      Except PatternError (CharSet × List Char) :=
    match members? with
    | some members => .ok (closeThenNegate anyCase negated members, rest)
    | none => .error .unknownProperty
  match s with
  | [] => .error .badEscape
  | '{' :: r =>
    match cutAt? ['}'] r with
    | some (text, rest) => found (property? text) rest
    | none => .error .badEscape
  | c :: r => if c = '\\' then .error .badEscape else found (Unicode.named? [c]) r

inductive Escaped where
  | char (c : Char)
  | set (s : CharSet)

def escape (anyCase : Bool) : List Char → Except PatternError (Escaped × List Char)
  | [] => .error .trailingBackslash
  | c :: r =>
    if c = 'p' ∨ c = 'P' then do
      let (s, rest) ← propertyEscape anyCase (c = 'P') r
      return (.set s, rest)
    else
      match letterSet? c with
      | some s => .ok (.set s, r)
      | none => if isSpecial c then .ok (.char c, r) else .error .badEscape

inductive SetOp where
  | inter
  | diff
  | symmDiff

def SetOp.run : SetOp → CharSet → CharSet → CharSet
  | .inter => CharSet.inter
  | .diff => CharSet.diff
  | .symmDiff => CharSet.symmDiff

/-- The named set between `[:` and `:]`, from after its first bracket, and the rest. -/
def namedSet? (anyCase : Bool) (s : List Char) : Option (CharSet × List Char) :=
  match s with
  | ':' :: r =>
    let (negated, r) := match r with
      | '^' :: r => (true, r)
      | r => (false, r)
    match r.drop (r.takeWhile (· ≠ ':')).length with
    | ':' :: ']' :: rest =>
      (CharSet.named? (String.ofList (r.takeWhile (· ≠ ':')))).map fun members =>
        (closeThenNegate anyCase negated members, rest)
    | _ => none
  | _ => none

/-- What has been read of a set: the items of the current part, their number and the depth of
their nesting, and the operation that waits for them with the depth of its first operand. -/
structure Items where
  ranges : List (Nat × Nat)
  count : Nat
  depth : Nat
  pending : Option (SetOp × CharSet × Nat)

namespace Items

def none : Items := ⟨[], 0, 0, .none⟩

def add (p : Items) (s : CharSet) (depth : Nat) : Items :=
  { p with
    ranges := s.ranges.toList ++ p.ranges
    count := p.count + 1
    depth := max depth p.depth }

def addRange (p : Items) (a b : Char) : Items :=
  { p with ranges := (a.toNat, b.toNat) :: p.ranges, count := p.count + 1 }

/-- The value so far and the depth of its nesting; the operands of an operation are closed under
case first. -/
def value (anyCase : Bool) (p : Items) : CharSet × Nat :=
  let depth := if p.count ≤ 1 then p.depth else p.depth + 1
  match p.pending with
  | .none => (CharSet.ofRanges p.ranges, depth)
  | some (op, left, leftDepth) =>
    (op.run left (closeThenNegate anyCase false (CharSet.ofRanges p.ranges)),
      max leftDepth depth + 1)

def operator (anyCase : Bool) (op : SetOp) (p : Items) : Items :=
  let (left, depth) := p.value anyCase
  ⟨[], 0, 0, some (op, closeThenNegate anyCase false left, depth)⟩

end Items

/-- Reads `-` signs and, if there are none, one `]` at the start of a set as themselves. -/
def leadingItems : List Char → Items × List Char
  | '-' :: r =>
    let dashes := r.takeWhile (· == '-')
    (⟨[('-'.toNat, '-'.toNat)], dashes.length + 1, 0, none⟩, r.drop dashes.length)
  | ']' :: r => (Items.none.addRange ']' ']', r)
  | r => (.none, r)

def setAtom (anyCase : Bool) : List Char → Except PatternError (Escaped × List Char)
  | [] => .error .badClass
  | '\\' :: r => escape anyCase r
  | c :: r => .ok (.char c, r)

def setItem (anyCase : Bool) (p : Items) (s : List Char) :
    Except PatternError (Items × List Char) := do
  let (first, rest) ← setAtom anyCase s
  let single : Items := match first with
    | .char c => p.addRange c c
    | .set s => p.add s 0
  match rest with
  | '-' :: ']' :: _ | '-' :: '-' :: _ => return (single, rest)
  | '-' :: r =>
    match first, ← setAtom anyCase r with
    | .char a, (.char b, rest) => if a ≤ b then return (p.addRange a b, rest) else throw .badRange
    | _, _ => throw .badRange
  | _ => return (single, rest)

/-- The items of a set up to its closing bracket; `nested` reads an inner set from after its
opening bracket. -/
def setItems (anyCase : Bool)
    (nested : List Char → Except PatternError (CharSet × Nat × List Char)) :
    (fuel : Nat) → Items → List Char → Except PatternError (CharSet × Nat × List Char)
  | 0, _, _ => .error .badClass
  | fuel + 1, p, s =>
    match s with
    | [] => .error .badClass
    | '[' :: r =>
      match namedSet? anyCase r with
      | some (members, rest) => setItems anyCase nested fuel (p.add members 0) rest
      | none => do
        let (members, depth, rest) ← nested r
        setItems anyCase nested fuel (p.add members depth) rest
    | ']' :: r =>
      let (members, depth) := p.value anyCase
      .ok (members, depth, r)
    | '&' :: '&' :: r => setItems anyCase nested fuel (p.operator anyCase .inter) r
    | '-' :: '-' :: r => setItems anyCase nested fuel (p.operator anyCase .diff) r
    | '~' :: '~' :: r => setItems anyCase nested fuel (p.operator anyCase .symmDiff) r
    | s => do
      let (p, rest) ← setItem anyCase p s
      setItems anyCase nested fuel p rest

/-- A set from after its opening bracket, through its closing one: its members, the depth of its
nesting, and the rest.  Sets may be nested `levels` deep. -/
def readSet (anyCase : Bool) : (levels : Nat) → List Char →
    Except PatternError (CharSet × Nat × List Char)
  | 0, _ => .error .tooDeep
  | levels + 1, s => do
    let (negated, s) := match s with
      | '^' :: r => (true, r)
      | r => (false, r)
    let (items, s) := leadingItems s
    let (members, depth, rest) ← setItems anyCase (readSet anyCase levels) (s.length + 1) items s
    return (closeThenNegate anyCase negated members, depth + 1, rest)

end PatternLint.Pattern.Regular
