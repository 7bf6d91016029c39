import PatternLint.Pattern.Regular.Footprint
import PatternLint.Pattern.Regular.Reader

/-! Matching in time linear in the text.
A regular expression becomes a program whose threads move through the text together, in order of
preference; two threads never stand at one instruction, so the work at a position is bounded by
the size of the program. -/

namespace PatternLint.Pattern

abbrev Chars := Array Char

def Chars.before (t : Chars) (i : Nat) : Option Char := if i = 0 then none else t[i - 1]?

/-- Positions kept by number: the ends of group `g` at `2 g` and `2 g + 1`. -/
abbrev Slots := Array (Option Nat)

namespace Linear

inductive Instr where
  | exact (c : Char) (next : Nat)
  | char (set : CharSet) (next : Nat)
  | anchor (a : Anchor) (next : Nat)
  | save (slot next : Nat)
  /-- Goes on at both, the first preferred. -/
  | split (first second : Nat)
  | accept
  deriving Inhabited

structure Program where
  code : Array Instr
  entry : Nat
  groups : Nat
  deriving Inhabited

abbrev Code := Array Instr

def push (i : Instr) (code : Code) : Code × Nat :=
  let place := code.size
  (code.push i, place)

/-- A choice between going through a loop body and leaving, by preference. -/
def choose (greedy : Bool) (body leave : Nat) : Instr :=
  if greedy then .split body leave else .split leave body

def copies (emit : Nat → Code → Code × Nat) : Nat → Nat → Code → Code × Nat
  | 0, next, code => (code, next)
  | n + 1, next, code =>
    let (code, entry) := emit next code
    copies emit n entry code

/-- `n` optional copies before `rest`, each reached only through the one before; all of them leave
to `next`. -/
def optionals (greedy : Bool) (emit : Nat → Code → Code × Nat) (next : Nat) :
    Nat → (rest : Nat) → Code → Code × Nat
  | 0, rest, code => (code, rest)
  | n + 1, rest, code =>
    let (code, body) := emit rest code
    let (code, entry) := push (choose greedy body next) code
    optionals greedy emit next n entry code

/-- One or more repetitions: the body, then the choice to go round again.  Gives the entry of the
body and the place of the choice. -/
def plus (greedy : Bool) (emit : Nat → Code → Code × Nat) (next : Nat) (code : Code) :
    Code × Nat × Nat :=
  let (code, again) := push .accept code
  let (code, body) := emit again code
  (code.setIfInBounds again (choose greedy body next), body, again)

/-- Code for a counted loop.  A body that may be empty is run as `(body+)?`, so that an empty turn
leaves the loop instead of hiding the later ones. -/
def loopCode (lo : Nat) (hi : Option Nat) (greedy consumes : Bool)
    (emit : Nat → Code → Code × Nat) (next : Nat) (code : Code) : Code × Nat :=
  match hi with
  | some hi =>
    let (code, rest) := optionals greedy emit next (hi - lo) next code
    copies emit lo rest code
  | none =>
    let (code, body, again) := plus greedy emit next code
    match lo with
    | 0 => if consumes then (code, again) else push (choose greedy body next) code
    | lo + 1 => copies emit lo body code

def emitRow : List Char → (next : Nat) → Code → Code × Nat
  | [], next, code => (code, next)
  | c :: cs, next, code =>
    let (code, rest) := emitRow cs next code
    push (.exact c rest) code

mutual
/-- Lays code that matches the expression and goes on at `next`; gives its entry. -/
def emit : Regular → (next : Nat) → Code → Code × Nat
  | .empty, next, code => (code, next)
  | .literal cs, next, code => emitRow cs next code
  | .set s, next, code => push (.char s next) code
  | .anchor a, next, code => push (.anchor a next) code
  | .loop lo hi greedy r, next, code => loopCode lo hi greedy r.consumes (emit r) next code
  | .capture i r, next, code =>
    let (code, stop) := push (.save (2 * i + 1) next) code
    let (code, body) := emit r stop code
    push (.save (2 * i) body) code
  | .seq rs, next, code => emitSeq rs next code
  | .alt rs, next, code => emitAlt rs next code

def emitSeq : List Regular → (next : Nat) → Code → Code × Nat
  | [], next, code => (code, next)
  | r :: rs, next, code =>
    let (code, rest) := emitSeq rs next code
    emit r rest code

def emitAlt : List Regular → (next : Nat) → Code → Code × Nat
  | [], next, code => (code, next)
  | [r], next, code => emit r next code
  | r :: s :: rs, next, code =>
    let (code, second) := emitAlt (s :: rs) next code
    let (code, first) := emit r next code
    push (.split first second) code
end

def ofRegular (r : Regular) : Program :=
  let (code, entry) := emit (.capture 0 r) 0 #[.accept]
  ⟨code, entry, r.lastGroup⟩

def readSized (text : List Char) : Except PatternError Regular := do
  let r ← Regular.read text
  if r.hasRoom then return r else throw .tooLarge

def compile (text : List Char) : Except PatternError Program :=
  ofRegular <$> readSized text

structure Thread where
  pc : Nat
  slots : Slots

/-- Follows everything that consumes nothing from the places in `todo`, the first preferred.
`seen` holds, for each instruction, the last round in which a thread reached it. -/
def closure (p : Program) (t : Chars) (i round : Nat) :
    (fuel : Nat) → List Thread → Array Nat → Array Thread → Array Nat × Array Thread
  | 0, _, seen, out => (seen, out)
  | _ + 1, [], seen, out => (seen, out)
  | fuel + 1, th :: todo, seen, out =>
    if seen[th.pc]?.getD round == round then closure p t i round fuel todo seen out
    else
      let seen := seen.setIfInBounds th.pc round
      match p.code[th.pc]? with
      | some (.split a b) =>
        closure p t i round fuel (⟨a, th.slots⟩ :: ⟨b, th.slots⟩ :: todo) seen out
      | some (.save slot next) =>
        closure p t i round fuel (⟨next, th.slots.setIfInBounds slot (some i)⟩ :: todo) seen out
      | some (.anchor a next) =>
        if a.holds (t.before i) t[i]? then
          closure p t i round fuel (⟨next, th.slots⟩ :: todo) seen out
        else closure p t i round fuel todo seen out
      | _ => closure p t i round fuel todo seen (out.push th)

def stepOver (t : Chars) (i : Nat) : Instr → Option Nat
  | .exact c next => if t[i]? == some c then some next else none
  | .char s next => if t[i]?.any s.contains then some next else none
  | _ => none

/-- The threads that survive the character at `i`, up to the first that accepts, whose slots are
the second result. -/
def advance (p : Program) (t : Chars) (i : Nat) :
    List Thread → Array Thread → Array Thread × Option Slots
  | [], moved => (moved, none)
  | th :: rest, moved =>
    match p.code[th.pc]?.getD .accept with
    | .accept => (moved, some th.slots)
    | instr =>
      match stepOver t i instr with
      | some next => advance p t i rest (moved.push ⟨next, th.slots⟩)
      | none => advance p t i rest moved

/-- Runs the threads from position `i`.  A search that is not anchored starts a thread of lowest
preference at every position until something has matched. -/
def runFrom (p : Program) (t : Chars) (blank : Slots) (anchored : Bool) :
    (left i : Nat) → Array Thread → Array Nat → Option Slots → Option Slots
  | left, i, entering, seen, best =>
    let (seen, threads) := closure p t i (i + 1) (2 * p.code.size + entering.size + 2)
      entering.toList seen #[]
    let (moved, found) := advance p t i threads.toList #[]
    let best := match found with
      | some slots => some slots
      | none => best
    match left with
    | 0 => best
    | left + 1 =>
      let entering := if best.isNone && !anchored then moved.push ⟨p.entry, blank⟩ else moved
      if entering.isEmpty then best
      else runFrom p t blank anchored left (i + 1) entering seen best

/-- The preferred match that begins at `start`, or, unless anchored, at the first position from
there on where one begins.  The ends of group `g` are in slots `2 g` and `2 g + 1`. -/
def search (p : Program) (t : Chars) (start : Nat) (anchored : Bool) : Option Slots :=
  let blank : Slots := Array.replicate (2 * (p.groups + 1)) none
  runFrom p t blank anchored (t.size - start) start #[⟨p.entry, blank⟩]
    (Array.replicate p.code.size 0) none

end Linear

end PatternLint.Pattern
