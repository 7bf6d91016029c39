import PatternLint.Pattern.Regular.Tree
import PatternLint.Pattern.Regular.Utf8
import Std.Data.HashMap

/-! How much room an expression takes as an automaton on bytes.
An expression is laid out twice, once to be run forwards and once backwards, with every counted
repetition written out.  A state takes 32 bytes, each way out of a choice 4 more, and each range
of a state with several of them 8 more.  States for equal ends of characters are shared as far as
a table of limited size remembers them.  An expression may take ten mebibytes either way. -/

namespace PatternLint.Pattern.Regular

/-- States laid out so far, and the bytes they take beyond their own size. -/
structure Layout where
  states : Nat
  extra : Nat

namespace Layout

def bytes (l : Layout) : Nat := 32 * l.states + l.extra

def maxBytes : Nat := 0xA00000

def fits (l : Layout) : Bool := l.bytes ≤ maxBytes

def add (l : Layout) (states extra : Nat) : Layout := ⟨l.states + states, l.extra + extra⟩

def times (step : Layout → Layout) : Nat → Layout → Layout
  | 0, l => l
  | n + 1, l => if l.fits then times step n (step l) else l

def mix (h : UInt64) (n : Nat) : UInt64 := (h ^^^ n.toUInt64) * 0x100000001B3

def hashStart : UInt64 := 0xCBF29CE484222325

/-! ### Backwards: one state for a byte range and the state that follows it -/

abbrev Step := Nat × Nat × Nat

def stepHash (s : Step) : UInt64 := mix (mix (mix hashStart s.2.2) s.1) s.2.1

def stepPlaces : Nat := 1000

abbrev StepTable := Std.HashMap Nat (Step × Nat)

/-- Lays a row of byte ranges out; gives the table and the first state of the row. -/
def layRow (table : StepTable) (next : Nat) : List ByteRange → Layout → StepTable × Layout
  | [], l => (table, l)
  | (a, b) :: row, l =>
    let key : Step := (a, b, next)
    let place := (stepHash key).toNat % stepPlaces
    match table[place]? with
    | some (found, state) =>
      if found == key then layRow table state row l
      else layRow (table.insert place (key, l.states)) l.states row (l.add 1 0)
    | none => layRow (table.insert place (key, l.states)) l.states row (l.add 1 0)

def layRowsBackward (rows : List (List ByteRange)) (l : Layout) : Layout :=
  let last := l.states + 1
  let start : StepTable × Layout := (∅, l.add 2 0)
  (rows.foldl (fun (table, l) row => layRow table last row (l.add 0 4)) start).2

/-! ### Forwards: one state for all byte ranges that may stand at one place -/

/-- A state that may still get byte ranges: those it has, and the last one, whose end is open. -/
structure OpenState where
  steps : List Step
  last : Option ByteRange

namespace OpenState

def close (s : OpenState) (next : Nat) : OpenState :=
  match s.last with
  | some (a, b) => ⟨s.steps ++ [(a, b, next)], none⟩
  | none => s

end OpenState

structure Shared where
  table : Std.HashMap Nat (List Step × Nat)
  layout : Layout

def statePlaces : Nat := 10000

def Shared.state (b : Shared) (steps : List Step) : Shared × Nat :=
  let hash := steps.foldl (fun h s => mix (mix (mix h s.1) s.2.1) s.2.2) hashStart
  let place := hash.toNat % statePlaces
  let fresh : Shared × Nat :=
    (⟨b.table.insert place (steps, b.layout.states), b.layout.add 1 (8 * steps.length)⟩,
      b.layout.states)
  match b.table[place]? with
  | some (found, state) => if found == steps then (b, state) else fresh
  | none => fresh

/-- Lays the open states out from the innermost one; gives the state that they begin with. -/
def closeAll (final : Nat) : List OpenState → Shared → Shared × Nat
  | [], b => (b, final)
  | s :: inner, b =>
    let (b, next) := closeAll final inner b
    b.state (s.close next).steps

/-- How many byte ranges of a row are those that the open states ended with. -/
def keptLength : List ByteRange → List OpenState → Nat
  | r :: row, s :: states => if s.last == some r then keptLength row states + 1 else 0
  | _, _ => 0

def closeAfter (final n : Nat) (states : List OpenState) (b : Shared) :
    List OpenState × Shared :=
  let (b, next) := closeAll final (states.drop (n + 1)) b
  let kept := states.take (n + 1)
  match kept.getLast? with
  | some s => (kept.dropLast ++ [s.close next], b)
  | none => (kept, b)

def addRow (final : Nat) (states : List OpenState) (b : Shared) (row : List ByteRange) :
    List OpenState × Shared :=
  let n := keptLength row states
  let (states, b) := closeAfter final n states b
  match states.getLast?, row.drop n with
  | some s, r :: inner =>
    (states.dropLast ++ { s with last := some r } :: inner.map fun r => ⟨[], some r⟩, b)
  | _, _ => (states, b)

def layRowsForward (rows : List (List ByteRange)) (l : Layout) : Layout :=
  let final := l.states
  let start : List OpenState × Shared :=
    ([⟨[], none⟩], ⟨∅, l.add 1 0⟩)
  let (states, b) := rows.foldl (fun (states, b) row => addRow final states b row) start
  let (states, b) := closeAfter final 0 states b
  (b.state ((states.head?.map OpenState.steps).getD [])).1.layout

structure Plan where
  run : Layout → Layout

def planSet (backward : Bool) (s : CharSet) : Plan :=
  if s.ranges.all fun r => r.2 < 0x80 then ⟨fun l => l.add 2 (8 * s.ranges.size)⟩
  else
    let rows := byteRows s
    if backward then ⟨layRowsBackward rows⟩ else ⟨layRowsForward rows⟩

/-! ### Choices between literals: a tree of their bytes -/

/-- Cuts words where one of them has ended: later words do not join those before it. -/
def chunks (words : List (List Nat)) : List (List (List Nat)) :=
  let (done, last, _) := words.foldl (fun (done, last, any) w =>
    match w with
    | [] => if !any && !done.isEmpty then (done, last, any) else (done ++ [last], [], any)
    | w => (done, last ++ [w], true)) (([], [], false) : List (List (List Nat)) × List _ × Bool)
  done ++ [last]

def firstBytes (words : List (List Nat)) : List Nat :=
  (words.filterMap List.head?).eraseDups

def layWords : (fuel : Nat) → List (List Nat) → Layout → Layout
  | 0, _, l => l
  | fuel + 1, words, l =>
    let parts := chunks words
    let (l, ways) := parts.foldl (fun (l, ways) part =>
      let bytes := firstBytes part
      let l := bytes.foldl (fun l byte =>
        let tails := part.filterMap fun
          | b :: r => if b = byte then some r else none
          | [] => none
        if tails.all List.isEmpty then l else layWords fuel tails l) l
      match bytes.length with
      | 0 => (l, ways)
      | 1 => (l.add 1 0, ways + 1)
      | n => (l.add 1 (8 * n), ways + 1)) (l, 0)
    l.add 1 (4 * (ways + (parts.length - 1)))

def words? (choices : List Regular) : Option (List (List Nat)) :=
  let word? : Regular → Option (List Nat)
    | .literal cs => some (cs.flatMap fun c => utf8Bytes c.toNat)
    | _ => none
  choices.mapM word?

def layLiterals (backward : Bool) (words : List (List Nat)) (l : Layout) : Layout :=
  let words := if backward then words.map List.reverse else words
  let longest := words.foldl (fun n w => max n w.length) 0
  layWords (longest + 1) words (l.add 1 0)

/-! ### Expressions -/

def layLoop (lo : Nat) (hi : Option Nat) (consumes : Bool) (body : Layout → Layout) (l : Layout) :
    Layout :=
  match hi with
  | none =>
    match lo with
    | 0 => if consumes then body (l.add 1 8) else (body l).add 3 16
    | n + 1 => (times body (n + 1) l).add 1 8
  | some hi =>
    if lo = 0 ∧ hi = 1 then (body (l.add 1 8)).add 1 0
    else if lo = hi then times body lo l
    else
      let l := if lo = 0 then l.add 1 0 else times body lo l
      times (fun l => body (l.add 1 8)) (hi - lo) (l.add 1 0)

def layChoices : Nat → List Plan → Layout → Layout
  | _, [], l => l
  | i, p :: ps, l =>
    let l := p.run l
    layChoices (i + 1) ps (if i = 1 then l.add 2 0 else l)

def laySeq (plans : List Plan) (l : Layout) : Layout := plans.foldl (fun l p => p.run l) l

mutual
/-- The plan of an expression: what does not depend on the place is found once. -/
def planOf (backward : Bool) : Regular → Plan
  | .empty | .anchor _ => ⟨fun l => l.add 1 0⟩
  | .literal cs =>
    let size := cs.foldl (fun n c => n + c.utf8Size) 0
    ⟨fun l => l.add size 0⟩
  | .set s => planSet backward s
  | .loop lo hi _ r =>
    let body := planOf backward r
    ⟨layLoop lo hi r.consumes body.run⟩
  | .capture _ r =>
    let body := planOf backward r
    if backward then body else ⟨fun l => (body.run (l.add 1 0)).add 1 0⟩
  | .seq rs =>
    let plans := plansOf backward rs
    ⟨laySeq (if backward then plans.reverse else plans)⟩
  | .alt rs =>
    match words? rs with
    | some words => ⟨layLiterals backward words⟩
    | none =>
      let plans := plansOf backward rs
      ⟨fun l => layChoices 0 plans (l.add 0 (4 * plans.length))⟩

def plansOf (backward : Bool) : List Regular → List Plan
  | [] => []
  | r :: rs => planOf backward r :: plansOf backward rs
end

/-- A whole expression, behind the states that move the start of a search. -/
def ofRegular (backward : Bool) (r : Regular) : Layout :=
  let whole := if backward then r else .capture 0 r
  ((planOf backward whole).run ⟨3, 16⟩).add 1 0

end Layout

mutual
/-- A number of bytes that the layout does not exceed, found without laying it out. -/
def maxFootprint : Regular → Nat
  | .empty | .anchor _ => 32
  | .literal cs => 128 * cs.length
  | .set s => 1000 * s.ranges.size + 3000
  | .loop lo hi _ r => (max lo (hi.getD 0) + 1) * (r.maxFootprint + 40) + 128
  | .capture _ r => r.maxFootprint + 64
  | .seq rs => maxFootprintOf rs
  | .alt rs => maxFootprintOf rs + 128

def maxFootprintOf : List Regular → Nat
  | [] => 0
  | r :: rs => r.maxFootprint + 8 + maxFootprintOf rs
end

def hasRoom (r : Regular) : Bool :=
  r.maxFootprint + 300 ≤ Layout.maxBytes ||
    ((Layout.ofRegular false r).fits && (Layout.ofRegular true r).fits)

end PatternLint.Pattern.Regular
