import PatternLint.Pattern.Error
import PatternLint.Pattern.Hex
import PatternLint.Pattern.Node
import PatternLint.Pattern.Unicode.Property

/-! Reading a pattern.
The reader goes once through the pattern.  Flags set in the middle of a group stay in force after
it, a `{` that begins no repetition stands for itself, and numbered references are refused once a
group has a name.  Sets of characters are kept in the regular notation. -/

namespace PatternLint.Pattern

structure Flags where
  ignoreCase : Bool
  multiLine : Bool
  dotAll : Bool
  swapGreed : Bool
  extended : Bool

structure Cursor where
  rest : List Char
  flags : Flags
  groups : Nat
  names : List (String × Nat)
  numbered : Bool

namespace Cursor

abbrev Result := Except PatternError (Node × Cursor)

def moveTo (c : Cursor) (rest : List Char) : Cursor := { c with rest }

def dropComment : List Char → Option (List Char)
  | [] => none
  | [c] => if c = ')' then some [] else none
  | c :: d :: r =>
    if c = ')' then some (d :: r)
    else if c = '\\' then dropComment r
    else dropComment (d :: r)

/-- Drops comment groups and, where the flag asks for it, blanks and line comments. -/
def dropSpace (extended : Bool) : (fuel : Nat) → List Char → Except PatternError (List Char)
  | 0, s => .ok s
  | fuel + 1, s =>
    match s with
    | '(' :: '?' :: '#' :: r =>
      match dropComment r with
      | some rest => dropSpace extended fuel rest
      | none => .error .unclosedGroup
    | '#' :: r =>
      if extended then dropSpace extended fuel ((r.dropWhile (· ≠ '\n')).drop 1) else .ok s
    | c :: r =>
      if extended && (c == ' ' || c == '\r' || c == '\n' || c == '\t') then
        dropSpace extended fuel r
      else .ok s
    | [] => .ok s

def skip (c : Cursor) : Except PatternError Cursor := do
  return c.moveTo (← dropSpace c.flags.extended c.rest.length c.rest)

def decimal? (s : List Char) : Option (Nat × List Char) :=
  let ds := s.takeWhile Char.isDigit
  let n := ds.foldl (fun n c => 10 * n + (c.toNat - '0'.toNat)) 0
  if ds.isEmpty || Node.unbounded < n then none else some (n, s.dropWhile Char.isDigit)

def bounds? (extended : Bool) (s : List Char) : Option (Nat × Nat × List Char) := do
  let space (s : List Char) : Option (List Char) := (dropSpace extended s.length s).toOption
  let s ← space s
  let (lo, s) ← match s with
    | ',' :: _ => some (0, s)
    | _ => decimal? s
  let s ← space s
  match s with
  | '}' :: r => some (lo, lo, r)
  | ',' :: r =>
    let r ← space r
    let (hi, r) := (decimal? r).getD (Node.unbounded, r)
    match ← space r with
    | '}' :: r => some (lo, hi, r)
    | _ => none
  | _ => none

def isRepeatable : Node → Bool
  | .empty | .anchor _ | .look .. => false
  | _ => true

/-- Applies a quantifier that has been read, with the marks `?` and `+` that may follow it. -/
def quantify (c : Cursor) (n : Node) (lo hi : Nat) : Result := do
  if !isRepeatable n then throw .nothingToRepeat
  let c ← c.skip
  let (lazyMark, rest) := match c.rest with
    | '?' :: r => (true, r)
    | r => (false, r)
  let looped := Node.loop lo hi (lazyMark == c.flags.swapGreed) n
  match rest with
  | '+' :: r => return (.atomic looped, c.moveTo r)
  | r => return (looped, c.moveTo r)

def reference (c : Cursor) (index : Nat) : Result :=
  if index ≤ c.groups then .ok (.backref index, c) else .error .missingGroup

def numberedReference (c : Cursor) (s : List Char) : Result :=
  match decimal? s with
  | some (n, rest) => ({ c with numbered := true }.moveTo rest).reference n
  | none => .error .missingGroup

def isNameChar (c : Char) : Bool :=
  if c.toNat < 0x80 then c.isAlphanum || c == '_' else Unicode.alphanumeric.contains c

def name? (close : Char) (s : List Char) : Option (String × List Char) :=
  let name := s.takeWhile isNameChar
  match s.drop name.length with
  | c :: rest => if c = close ∧ name ≠ [] then some (String.ofList name, rest) else none
  | [] => none

/-- A reference by name, by number or by distance, from after its opening mark.  Distance 1 is the
group opened last. -/
def namedReference (c : Cursor) (close : Char) (relative : Bool) (s : List Char) : Result :=
  match s, relative with
  | '-' :: r, true =>
    match name? close r with
    | some (name, rest) =>
      match decimal? name.toList with
      | some (0, []) => (c.moveTo rest).reference 0
      | some (n, []) =>
        if n ≤ c.groups + 1 then (c.moveTo rest).reference (c.groups + 1 - n)
        else .error .missingGroup
      | _ => .error .badGroupName
    | none => .error .badGroupName
  | _, _ =>
    match name? close s with
    | some (name, rest) =>
      match c.names.lookup name with
      | some n => (c.moveTo rest).reference n
      | none =>
        match decimal? name.toList with
        | some (n, []) => (c.moveTo rest).reference n
        | _ => .error .badGroupName
    | none => .error .badGroupName

/-- The body of a hexadecimal escape: exactly `digits` digits, or one to eight in braces. -/
def hexEscape (digits : Nat) (s : List Char) : Except PatternError (Char × List Char) :=
  let plain := s.take digits
  if plain.length = digits ∧ plain.all isHexDigit then
    finish plain (s.drop digits)
  else
    match s with
    | '{' :: r =>
      let ds := r.takeWhile isHexDigit
      match r.dropWhile isHexDigit with
      | '}' :: rest => if 1 ≤ ds.length ∧ ds.length ≤ 8 then finish ds rest else .error .badHex
      | _ => .error .badHex
    | _ => .error .badHex
where
  finish (ds rest : List Char) : Except PatternError (Char × List Char) :=
    match charOfCode? (hexNumber ds) with
    | some c => .ok (c, rest)
    | none => .error .badHex

def controlChar? : Char → Option Char
  | 'a' => some '\x07'
  | 'b' => some '\x08'
  | 'f' => some '\x0c'
  | 'n' => some '\n'
  | 'r' => some '\r'
  | 't' => some '\t'
  | 'v' => some '\x0b'
  | 'e' => some '\x1b'
  | _ => none

def propertyText (letter : Char) (s : List Char) : Except PatternError (List Char × List Char) :=
  match s with
  | [] => .error .badEscape
  | '{' :: r =>
    let name := r.takeWhile (· ≠ '}')
    match r.drop name.length with
    | _ :: rest => .ok ('\\' :: letter :: '{' :: name ++ ['}'], rest)
    | [] => .error .unknownProperty
  | c :: r => .ok (['\\', letter, c], r)

/-- Escapes that mean the same inside and outside of brackets, from the character after `\`. -/
def commonEscape (c : Cursor) (x : Char) (r : List Char) : Result :=
  let anyCase := c.flags.ignoreCase
  if ['d', 'D', 's', 'S', 'w', 'W'].contains x then .ok (.regular ['\\', x] anyCase, c.moveTo r)
  else if x = 'h' then .ok (.regular "[0-9A-Fa-f]".toList false, c.moveTo r)
  else if x = 'H' then .ok (.regular "[^0-9A-Fa-f]".toList false, c.moveTo r)
  else if x = 'x' then literally (hexEscape 2 r)
  else if x = 'u' then literally (hexEscape 4 r)
  else if x = 'U' then literally (hexEscape 8 r)
  else if x = 'p' ∨ x = 'P' then
    (propertyText x r).map fun (text, rest) => (.regular text anyCase, c.moveTo rest)
  else
    match controlChar? x with
    | some y => .ok (.literal y false, c.moveTo r)
    | none => if x.isAlpha then .error .badEscape else .ok (.literal x false, c.moveTo r)
where
  literally (x : Except PatternError (Char × List Char)) : Result :=
    x.map fun (y, rest) => (.literal y c.flags.ignoreCase, c.moveTo rest)

def classEscape (c : Cursor) : List Char → Result
  | [] => .error .trailingBackslash
  | x :: r =>
    if x.isDigit then .error .badClass
    else if ['k', 'A', 'z', 'B', 'K', 'G'].contains x then .ok (.literal x false, c.moveTo r)
    else c.commonEscape x r

def quotedInClass (x : Char) : List Char :=
  if "\\.+*?()|[]\x7b\x7d^$#&-~".toList.contains x then ['\\', x] else [x]

/-- The text of a class up to the bracket that balances the opening one, its last character first,
and the rest. -/
def classText (c : Cursor) : (fuel nest : Nat) → List Char → List Char →
    Except PatternError (List Char × List Char)
  | 0, _, _, _ => .error .badClass
  | _ + 1, _, [], _ => .error .badClass
  | fuel + 1, nest, x :: r, acc =>
    if x = '\\' then do
      match ← c.classEscape r with
      | (.literal y _, c') => classText c fuel nest c'.rest ((quotedInClass y).reverse ++ acc)
      | (.regular text _, c') => classText c fuel nest c'.rest (text.reverse ++ acc)
      | _ => throw .badClass
    else if x = '[' then classText c fuel (nest + 1) r (x :: acc)
    else if x = ']' then
      match nest with
      | 0 => .ok (x :: acc, r)
      | nest + 1 => classText c fuel nest r (x :: acc)
    else classText c fuel nest r (x :: acc)

def bracket (c : Cursor) (s : List Char) : Result := do
  let (acc, s) := match s with
    | '^' :: r => (['^', '['], r)
    | r => (['['], r)
  let (acc, s) := match s with
    | ']' :: r => (']' :: acc, r)
    | r => (acc, r)
  let (text, rest) ← classText c (s.length + 1) 0 s acc
  return (.regular text.reverse c.flags.ignoreCase, c.moveTo rest)

def escape (c : Cursor) : List Char → Result
  | [] => .error .trailingBackslash
  | x :: r =>
    let boundary (a : Anchor) : Result :=
      match r with
      | '{' :: _ => .error .badEscape
      | _ => .ok (.anchor a, c.moveTo r)
    if x.isDigit then c.numberedReference (x :: r)
    else
      match x with
      | 'k' =>
        match r with
        | '\'' :: r => c.namedReference '\'' true r
        | '<' :: r => c.namedReference '>' true r
        | _ => .error .badGroupName
      | 'A' => .ok (.anchor .textStart, c.moveTo r)
      | 'z' => .ok (.anchor .textEnd, c.moveTo r)
      | 'b' => boundary .wordBoundary
      | 'B' => boundary .notWordBoundary
      | '<' => .ok (.anchor .wordStart, c.moveTo r)
      | '>' => .ok (.anchor .wordEnd, c.moveTo r)
      | 'K' => .ok (.keepOut, c.moveTo r)
      | 'G' => .ok (.searchStart, c.moveTo r)
      | _ => c.commonEscape x r

def setFlag (f : Flags) (value : Bool) : Char → Option Flags
  | 'i' => some { f with ignoreCase := value }
  | 'm' => some { f with multiLine := value }
  | 's' => some { f with dotAll := value }
  | 'U' => some { f with swapGreed := value }
  | 'x' => some { f with extended := value }
  | 'u' => if value then some f else none
  | _ => none

/-- The flags of a group: the new flags, whether a body follows, the rest.  `length` is that of the
text after the `?`; nothing at all there, or a lone `-`, is refused. -/
def flagGroup (length fuel : Nat) (f : Flags) (negative : Bool) (s : List Char) :
    Except PatternError (Flags × Bool × List Char) :=
  match fuel with
  | 0 => .error .unclosedGroup
  | fuel + 1 => do
    let s ← dropSpace f.extended s.length s
    let atFirst := s.length == length
    let afterDash := negative && s.length + 1 == length
    match s with
    | [] => .error .unclosedGroup
    | ')' :: r => if atFirst || afterDash then .error .unknownFlag else .ok (f, false, r)
    | ':' :: r => if afterDash then .error .unknownFlag else .ok (f, true, r)
    | '-' :: r => if negative then .error .unknownFlag else flagGroup length fuel f true r
    | x :: r =>
      match setFlag f (!negative) x with
      | some f => flagGroup length fuel f negative r
      | none => .error .unknownFlag

def close (c : Cursor) : Except PatternError Cursor :=
  match c.rest with
  | ')' :: r => .ok (c.moveTo r)
  | [] => .error .unclosedGroup
  | _ => .error .unexpectedClose

/-- The two branches that a text after a condition stands for: the first alternative and the
others. -/
def branches : Node → Node × Node
  | .alt (yes :: [no]) => (yes, no)
  | .alt (yes :: no) => (yes, .alt no)
  | yes => (yes, .empty)

def asCondition : Node → Node
  | .backref i => .hasGroup i
  | n => n

/-- A conditional group, from after its `(?(`; `inner` reads what stands inside a group. -/
def conditionalGroup (inner : Cursor → Result) (c : Cursor) : Result := do
  let (condition, c) ← match c.rest with
    | [] => throw .unclosedGroup
    | '\'' :: r => c.namedReference '\'' true r
    | '<' :: r => c.namedReference '>' true r
    | x :: r => if x.isDigit then c.numberedReference (x :: r) else inner c
  let c ← c.close
  let (body, after) ← inner c
  let condition' := asCondition condition
  if after.rest.length = c.rest.length then
    match condition with
    | .backref _ => return (condition', ← after.close)
    | _ => throw .badCondition
  else
    let after ← after.close
    match branches body with
    | (.empty, .empty) => return (condition', after)
    | (yes, no) => return (.conditional condition' yes no, after)

def group (inner : Cursor → Result) (c : Cursor) : Result := do
  let c ← c.skip
  let body (c : Cursor) : Result := do
    let (n, c) ← inner c
    return (n, ← c.close)
  let capture (c : Cursor) : Result := do
    let index := c.groups + 1
    let (n, c) ← body { c with groups := index }
    return (.group index n, c)
  let named (r : List Char) : Result := do
    match name? '>' r with
    | some (name, rest) =>
      let c := { c with names := (name, c.groups + 1) :: c.names }
      capture (c.moveTo rest)
    | none => throw .badGroupName
  match c.rest with
  | '?' :: '=' :: r => return (← body (c.moveTo r)).map (.look false false) id
  | '?' :: '!' :: r => return (← body (c.moveTo r)).map (.look false true) id
  | '?' :: '<' :: '=' :: r => return (← body (c.moveTo r)).map (.look true false) id
  | '?' :: '<' :: '!' :: r => return (← body (c.moveTo r)).map (.look true true) id
  | '?' :: '<' :: r => named r
  | '?' :: 'P' :: '<' :: r => named r
  | '?' :: 'P' :: '=' :: r => c.namedReference ')' false r
  | '?' :: '>' :: r => return (← body (c.moveTo r)).map .atomic id
  | '?' :: '(' :: r => conditionalGroup inner (c.moveTo r)
  | '?' :: r =>
    let (flags, hasBody, rest) ← flagGroup r.length (r.length + 1) c.flags false r
    if hasBody then
      let (n, after) ← body { c with flags, rest }
      return (n, { after with flags := c.flags })
    else return (.empty, { c with flags, rest })
  | _ => capture c

/-- One item of a pattern before any repetition; reads nothing where none can begin. -/
def atom (inner : Option (Cursor → Result)) (c : Cursor) : Result := do
  let c ← c.skip
  match c.rest with
  | [] => return (.empty, c)
  | x :: r =>
    match x with
    | '.' => return (.any c.flags.dotAll, c.moveTo r)
    | '^' =>
      return (.anchor (if c.flags.multiLine then .lineStart else .textStart), c.moveTo r)
    | '$' =>
      return (.anchor (if c.flags.multiLine then .lineEnd else .textEnd), c.moveTo r)
    | '(' =>
      match inner with
      | some inner => group inner (c.moveTo r)
      | none => throw .tooDeep
    | '\\' => c.escape r
    | '+' | '*' | '?' | '|' | ')' => return (.empty, c)
    | '[' => c.bracket r
    | _ => return (.literal x c.flags.ignoreCase, c.moveTo r)

def piece (inner : Option (Cursor → Result)) (c : Cursor) : Result := do
  let (n, c) ← atom inner c
  let c ← c.skip
  match c.rest with
  | '?' :: r => (c.moveTo r).quantify n 0 1
  | '*' :: r => (c.moveTo r).quantify n 0 Node.unbounded
  | '+' :: r => (c.moveTo r).quantify n 1 Node.unbounded
  | '{' :: r =>
    match bounds? c.flags.extended r with
    | some (lo, hi, rest) => (c.moveTo rest).quantify n lo hi
    | none => return (n, c)
  | _ => return (n, c)

def pieces (inner : Option (Cursor → Result)) : (fuel : Nat) → List Node → Cursor → Result
  | 0, acc, c => .ok (ofParts acc.reverse, c)
  | fuel + 1, acc, c => do
    if c.rest.isEmpty then return (ofParts acc.reverse, c)
    let (n, next) ← piece inner c
    if next.rest.length = c.rest.length then return (ofParts acc.reverse, next)
    match n with
    | .empty => pieces inner fuel acc next
    | n => pieces inner fuel (n :: acc) next
where
  ofParts : List Node → Node
    | [] => .empty
    | [n] => n
    | ns => .seq ns

def moreChoices (inner : Option (Cursor → Result)) : (fuel : Nat) → List Node → Cursor → Result
  | 0, acc, c => .ok (.alt acc.reverse, c)
  | fuel + 1, acc, c =>
    match c.rest with
    | '|' :: r => do
      let (n, c) ← pieces inner (r.length + 1) [] (c.moveTo r)
      moreChoices inner fuel (n :: acc) (← c.skip)
    | _ => .ok (.alt acc.reverse, c)

/-- Alternatives; without any, names and numbered references may not have met. -/
def choices (inner : Option (Cursor → Result)) (c : Cursor) : Result := do
  let (n, c) ← pieces inner (c.rest.length + 1) [] c
  let c ← c.skip
  match c.rest with
  | '|' :: _ => moreChoices inner (c.rest.length + 1) [n] c
  | _ =>
    if c.numbered && !c.names.isEmpty then throw .mixedReferences
    return (n, c)

def maxDepth : Nat := 64

/-- The reader for what stands inside a group, when `depth` more levels are left. -/
def level : (depth : Nat) → Option (Cursor → Result)
  | 0 => none
  | depth + 1 => some (choices (level depth))

end Cursor

structure Parsed where
  node : Node
  groups : Nat

def parse (source : List Char) : Except PatternError Parsed := do
  let c : Cursor :=
    { rest := source
      flags := ⟨false, false, false, false, false⟩
      groups := 0
      names := []
      numbered := false }
  let (node, c) ← Cursor.choices (Cursor.level (Cursor.maxDepth - 1)) c
  if c.rest.isEmpty then return ⟨node, c.groups⟩
  throw .unexpectedClose

end PatternLint.Pattern
