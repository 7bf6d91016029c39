import PatternLint.Pattern.Anchor

/-! Regular expressions in a reduced form.
The functions `ofSet`, `seqOf`, `altOf` and `loopOf` build it: rows are flat, neighbouring literals
are joined, choices between single characters are sets, and what the choices have in common at
their front stands before them. -/

namespace PatternLint.Pattern

inductive Regular where
  | empty
  /-- A row of characters, at least one. -/
  | literal (chars : List Char)
  /-- One character of a set; the empty set never matches. -/
  | set (s : CharSet)
  | anchor (a : Anchor)
  /-- At least `lo` and, if given, at most `hi` repetitions. -/
  | loop (lo : Nat) (hi : Option Nat) (greedy : Bool) (body : Regular)
  /-- A capturing group with its number. -/
  | capture (index : Nat) (body : Regular)
  | seq (parts : List Regular)
  /-- The first alternative that leads to a match wins. -/
  | alt (choices : List Regular)
  deriving Inhabited

namespace Regular

mutual
def same : Regular → Regular → Bool
  | .empty, .empty => true
  | .literal a, .literal b => a == b
  | .set s, .set t => s == t
  | .anchor a, .anchor b => a == b
  | .loop lo hi greedy r, .loop lo' hi' greedy' r' =>
    lo == lo' && hi == hi' && greedy == greedy' && r.same r'
  | .capture i r, .capture j r' => i == j && r.same r'
  | .seq rs, .seq rs' => allSame rs rs'
  | .alt rs, .alt rs' => allSame rs rs'
  | _, _ => false

def allSame : List Regular → List Regular → Bool
  | [], [] => true
  | r :: rs, s :: ss => r.same s && allSame rs ss
  | _, _ => false
end

mutual
/-- Least number of characters that a match consumes; unknown where some part can never match. -/
def minSize? : Regular → Option Nat
  | .empty | .anchor _ => some 0
  | .literal cs => some cs.length
  | .set s => if s.ranges.isEmpty then none else some 1
  | .loop lo _ _ r => r.minSize?.map (lo * ·)
  | .capture _ r => r.minSize?
  | .seq rs => minSizeSum? rs
  | .alt rs => minSizeLeast? rs

def minSizeSum? : List Regular → Option Nat
  | [] => some 0
  | r :: rs => do return (← r.minSize?) + (← minSizeSum? rs)

def minSizeLeast? : List Regular → Option Nat
  | [] => none
  | [r] => r.minSize?
  | r :: s :: rs => do return min (← r.minSize?) (← minSizeLeast? (s :: rs))
end

def consumes (r : Regular) : Bool := r.minSize?.any (0 < ·)

mutual
def consumesNothing : Regular → Bool
  | .empty | .anchor _ => true
  | .literal _ | .set _ => false
  | .loop _ _ _ r => r.consumesNothing
  | .capture _ r => r.consumesNothing
  | .seq rs => allConsumeNothing rs
  | .alt rs => allConsumeNothing rs

def allConsumeNothing : List Regular → Bool
  | [] => true
  | r :: rs => r.consumesNothing && allConsumeNothing rs
end

mutual
def lastGroup : Regular → Nat
  | .empty | .literal _ | .set _ | .anchor _ => 0
  | .loop _ _ _ r => r.lastGroup
  | .capture i r => max i r.lastGroup
  | .seq rs => lastGroupOf rs
  | .alt rs => lastGroupOf rs

def lastGroupOf : List Regular → Nat
  | [] => 0
  | r :: rs => max r.lastGroup (lastGroupOf rs)
end

def ofSet (s : CharSet) : Regular :=
  match s.ranges.toList with
  | [(a, b)] => if a = b then .literal [Char.ofNat a] else .set s
  | _ => .set s

/-- A loop.  What consumes nothing need not be repeated, and no repetition at all is empty. -/
def loopOf (lo : Nat) (hi : Option Nat) (greedy : Bool) (body : Regular) : Regular :=
  let (lo, hi) := if body.consumesNothing then (min lo 1, some (min (hi.getD 1) 1)) else (lo, hi)
  if lo = 0 ∧ hi = some 0 then .empty
  else if lo = 1 ∧ hi = some 1 then body
  else .loop lo hi greedy body

def joinLiterals : List Regular → List Regular
  | [] => []
  | .literal cs :: rest =>
    match joinLiterals rest with
    | .literal ds :: rest => .literal (cs ++ ds) :: rest
    | rest => .literal cs :: rest
  | r :: rest => r :: joinLiterals rest

def seqOf (parts : List Regular) : Regular :=
  let flat := parts.flatMap fun
    | .empty => []
    | .seq rs => rs
    | r => [r]
  match joinLiterals flat with
  | [] => .empty
  | [r] => r
  | rs => .seq rs

def commonFront : List Regular → List Regular → Nat
  | r :: rs, s :: ss => if r.same s then commonFront rs ss + 1 else 0
  | _, _ => 0

def rows? (choices : List Regular) : Option (List (List Regular)) :=
  choices.mapM fun
    | .seq rs => some rs
    | _ => none

def sharedFront (choices : List Regular) : Nat :=
  match rows? choices with
  | some (first :: rest) =>
    rest.foldl (fun n row => min n (commonFront first row)) first.length
  | _ => 0

def unionOfSets? (choices : List Regular) : Option CharSet :=
  let ranges? : Regular → Option (List (Nat × Nat))
    | .set s => some s.ranges.toList
    | _ => none
  (choices.mapM ranges?).map fun rs => CharSet.ofRanges rs.flatten

def unionOfChars? (choices : List Regular) : Option CharSet :=
  let code? : Regular → Option (Nat × Nat)
    | .literal [c] => some (c.toNat, c.toNat)
    | _ => none
  (choices.mapM code?).map CharSet.ofRanges

def altWith : (fuel : Nat) → List Regular → Regular
  | 0, choices => .alt choices
  | fuel + 1, choices =>
    let flat := choices.flatMap fun
      | .alt rs => rs
      | r => [r]
    match flat with
    | [] => .set .empty
    | [r] => r
    | _ =>
      match unionOfChars? flat <|> unionOfSets? flat with
      | some s => ofSet s
      | none =>
        match sharedFront flat, rows? flat with
        | n + 1, some rows =>
          let front := (rows.headD []).take (n + 1)
          seqOf (front ++ [altWith fuel (rows.map fun row => seqOf (row.drop (n + 1)))])
        | _, _ => .alt flat

mutual
def nodes : Regular → Nat
  | .empty | .literal _ | .set _ | .anchor _ => 1
  | .loop _ _ _ r => r.nodes + 1
  | .capture _ r => r.nodes + 1
  | .seq rs => nodesOf rs + 1
  | .alt rs => nodesOf rs + 1

def nodesOf : List Regular → Nat
  | [] => 0
  | r :: rs => r.nodes + nodesOf rs
end

def altOf (choices : List Regular) : Regular := altWith (nodesOf choices + 1) choices

end Regular

end PatternLint.Pattern
