import PatternLint.Pattern.Linear
import PatternLint.Pattern.Written

/-! Matching by backtracking, for patterns that need it.
The machine keeps a stack of choices not yet taken.  Going back to one of them is a backtrack, and
a search that needs more of them than its limit gives up.  Parts that need no backtracking are
handed to the linear matcher in the regular notation and count as one step. -/

namespace PatternLint.Pattern

namespace Machine

inductive Instr where
  | exact (c : Char)
  | char (set : CharSet)
  | anchor (a : Anchor)
  /-- A part for the linear matcher; it sets or clears `count` groups from `first` on. -/
  | linear (program : Linear.Program) (first count : Nat)
  /-- Goes on at the first and keeps the second as a choice. -/
  | split (first second : Nat)
  | jump (target : Nat)
  | save (slot : Nat)
  | zero (slot : Nat)
  /-- Goes back to a saved position. -/
  | restore (slot : Nat)
  /-- Goes back by a number of characters. -/
  | back (count : Nat)
  | backref (index : Nat)
  | hasGroup (index : Nat)
  /-- One turn of a counted loop; `exit` is the way out. -/
  | turn (lo hi : Nat) (greedy : Bool) (counter exit : Nat)
  /-- One turn of a loop whose body may be empty: an empty turn beyond `lo` fails. -/
  | turnNonEmpty (lo : Nat) (greedy : Bool) (counter check exit : Nat)
  /-- Remembers how many choices there are. -/
  | mark
  /-- Forgets the choices made since the latest mark. -/
  | cut
  /-- Forgets the choices down to the latest one that goes on after this instruction, and fails. -/
  | cutFail
  | searchStart
  | accept
  deriving Inhabited

structure Assembly where
  code : Array Instr
  slots : Nat

namespace Assembly

def pc (a : Assembly) : Nat := a.code.size

def emit (a : Assembly) (i : Instr) : Assembly := { a with code := a.code.push i }

def patch (a : Assembly) (pc : Nat) (i : Instr) : Assembly :=
  { a with code := a.code.setIfInBounds pc i }

def newSlot (a : Assembly) : Assembly × Nat := ({ a with slots := a.slots + 1 }, a.slots)

end Assembly

abbrev Result := Except PatternError Assembly

mutual
def charRow? : Node → Option (List Char)
  | .literal c false => some [c]
  | .seq ns => charRows? ns
  | _ => none

def charRows? : List Node → Option (List Char)
  | [] => some []
  | n :: ns => do return (← charRow? n) ++ (← charRows? ns)
end

def delegate (ns : List Node) (a : Assembly) : Result :=
  if ns.isEmpty then .ok a
  else
    match charRows? ns with
    | some cs => .ok (cs.foldl (fun a c => a.emit (.exact c)) a)
    | none => do
      let r ← Linear.readSized (ns.flatMap (Node.write 1))
      let groups := Node.allGroups ns
      match groups, r with
      | [], .set s => return a.emit (.char s)
      | _, _ => return a.emit (.linear (Linear.ofRegular r) (groups.headD 0) groups.length)

def chooseNext (greedy : Bool) (pc exit : Nat) : Instr :=
  if greedy then .split (pc + 1) exit else .split exit (pc + 1)

def assembleLoop (lo hi : Nat) (greedy mayBeEmpty : Bool)
    (body : Assembly → Result) (a : Assembly) : Result := do
  let pc := a.pc
  if lo = 0 ∧ hi = 1 then
    let a ← body (a.emit (.jump 0))
    return a.patch pc (chooseNext greedy pc a.pc)
  else if hi = Node.unbounded ∧ mayBeEmpty then
    let (a, counter) := a.newSlot
    let (a, check) := a.newSlot
    let a := a.emit (.zero counter)
    let pc := a.pc
    let a ← body (a.emit (.jump 0))
    let a := a.emit (.jump pc)
    return a.patch pc (.turnNonEmpty lo greedy counter check a.pc)
  else if lo = 0 ∧ hi = Node.unbounded then
    let a ← body (a.emit (.jump 0))
    let a := a.emit (.jump pc)
    return a.patch pc (chooseNext greedy pc a.pc)
  else if lo = 1 ∧ hi = Node.unbounded then
    let a ← body a
    let exit := a.pc + 1
    return a.emit (if greedy then .split pc exit else .split exit pc)
  else
    let (a, counter) := a.newSlot
    let a := a.emit (.zero counter)
    let pc := a.pc
    let a ← body (a.emit (.jump 0))
    let a := a.emit (.jump pc)
    return a.patch pc (.turn lo hi greedy counter a.pc)

/-- Code for a look-around whose body is laid by `body` and, looking behind, has a fixed size. -/
def assembleLook (behind negated : Bool) (n : Node) (body : Assembly → Result) (a : Assembly) :
    Result := do
  if behind && !n.isFixed then throw .variableLookBehind
  let inner (a : Assembly) : Result :=
    body (if behind then a.emit (.back n.minSize) else a)
  if negated then
    let pc := a.pc
    let a ← inner (a.emit (.jump 0))
    let a := a.emit .cutFail
    return a.patch pc (.split (pc + 1) a.pc)
  else
    let (a, slot) := a.newSlot
    let a ← inner (a.emit (.save slot))
    return a.emit (.restore slot)

/-- Code for a conditional whose parts are laid by the three functions.  The choice of the other
branch is forgotten once the condition has matched; if it is taken, the mark stays behind. -/
def assembleConditional (condition yes no : Assembly → Result) (a : Assembly) : Result := do
  let a := a.emit .mark
  let pc := a.pc
  let a ← condition (a.emit (.jump 0))
  let a ← yes (a.emit .cut)
  let leave := a.pc
  let a := (a.emit (.jump 0)).patch pc (.split (pc + 1) (leave + 1))
  let a ← no a
  return a.patch leave (.jump a.pc)

/-- Parts of a sequence that the linear matcher takes over: a row of easy parts of fixed size at
the front and, at the back, easy parts, of fixed size too inside something hard. -/
def middle (hard : Bool) (ns : List Node) : Nat × Nat :=
  let fixedEasy (n : Node) : Bool := n.isFixed && !n.isHard
  let front := (ns.takeWhile fixedEasy).length
  let tail := (ns.drop front).reverse
  let back :=
    if hard then (tail.takeWhile fixedEasy).length
    else (tail.takeWhile fun n => !n.isHard).length
  (front, ns.length - back)

mutual
/-- Lays code for a node; `hard` says that something around it may backtrack into it. -/
def assemble (hard : Bool) : Node → Assembly → Result
  | .empty, a => .ok a
  | .any newline, a => .ok (a.emit (.char (if newline then .full else CharSet.newline.complement)))
  | .literal c anyCase, a => delegate [.literal c anyCase] a
  | .regular text anyCase, a => delegate [.regular text anyCase] a
  | .anchor x, a => .ok (a.emit (.anchor x))
  | .seq ns, a =>
    if !hard && !Node.anyHard ns then delegate [.seq ns] a
    else do
      let (front, back) := middle hard ns
      let a ← delegate (ns.take front) a
      let a ← assembleBetween front back 0 ns a
      delegate (ns.drop back) a
  | .alt ns, a =>
    if !hard && !Node.anyHard ns then delegate [.alt ns] a
    else assembleAlt hard ns a
  | .group i n, a =>
    if !hard && !n.isHard then delegate [.group i n] a
    else do
      let a ← assemble hard n (a.emit (.save (2 * i)))
      return a.emit (.save (2 * i + 1))
  | .loop lo hi greedy n, a =>
    if !hard && !n.isHard then delegate [.loop lo hi greedy n] a
    else
      let isOption := lo == 0 && hi == 1
      assembleLoop lo hi greedy (n.minSize == 0) (assemble (hard || !isOption) n) a
  | .look behind negated n, a =>
    if behind && !n.isFixed then
      match n with
      | .alt ns => if negated then assembleNone ns a else assembleSome ns a
      | _ => .error .variableLookBehind
    else assembleLook behind negated n (assemble false n) a
  | .backref i, a => .ok (a.emit (.backref i))
  | .hasGroup i, a => .ok (a.emit (.hasGroup i))
  | .conditional c y n, a =>
    assembleConditional (assemble hard c) (assemble hard y) (assemble hard n) a
  | .atomic n, a => do
    let a ← assemble false n (a.emit .mark)
    return a.emit .cut
  | .keepOut, a => .ok (a.emit (.save 0))
  | .searchStart, a => .ok (a.emit .searchStart)

def assembleBetween (front back : Nat) : Nat → List Node → Assembly → Result
  | _, [], a => .ok a
  | i, n :: ns, a =>
    if front ≤ i && i < back then do
      assembleBetween front back (i + 1) ns (← assemble true n a)
    else assembleBetween front back (i + 1) ns a

def assembleAlt (hard : Bool) : List Node → Assembly → Result
  | [], a => .ok a
  | n :: ns, a =>
    if ns.isEmpty then assemble hard n a
    else do
      let pc := a.pc
      let a ← assemble hard n (a.emit (.jump 0))
      let leave := a.pc
      let a := (a.emit (.jump 0)).patch pc (.split (pc + 1) (leave + 1))
      let a ← assembleAlt hard ns a
      return a.patch leave (.jump a.pc)

def assembleSome : List Node → Assembly → Result
  | [], a => .ok a
  | n :: ns, a =>
    if ns.isEmpty then assembleLook true false n (assemble false n) a
    else do
      let pc := a.pc
      let a ← assembleLook true false n (assemble false n) (a.emit (.jump 0))
      let leave := a.pc
      let a := (a.emit (.jump 0)).patch pc (.split (pc + 1) (leave + 1))
      let a ← assembleSome ns a
      return a.patch leave (.jump a.pc)

def assembleNone : List Node → Assembly → Result
  | [], a => .ok a
  | n :: ns, a => do
    assembleNone ns (← assembleLook true true n (assemble false n) a)
end

structure Program where
  code : Array Instr
  slots : Nat
  weight : Nat
  deriving Inhabited

/-- Code that looks for the pattern from the current position on, one character at a time. -/
def compile (groups : Nat) (n : Node) : Except PatternError Program := do
  let a : Assembly := ⟨#[.split 3 1, .char .full, .jump 0, .save 0], 2 * (groups + 1)⟩
  let a ← assemble true n a
  let a := (a.emit (.save 1)).emit .accept
  return ⟨a.code, a.slots, n.weight⟩

structure Choice where
  pc : Nat
  pos : Nat
  slots : Slots
  marks : List Nat

structure State where
  pc : Nat
  pos : Nat
  slots : Slots
  /-- Heights of the stack of choices to cut back to. -/
  marks : List Nat
  choices : Array Choice
  /-- Backtracks so far. -/
  count : Nat

inductive Step where
  | go (s : State)
  | fail (s : State)
  | accept (s : State)
  | giveUp
  | broken

namespace State

def jump (s : State) (pc : Nat) : Step := .go { s with pc }

def slot (s : State) (i : Nat) : Option Nat := (s.slots[i]?).join

def set (s : State) (i : Nat) (v : Option Nat) : State :=
  { s with slots := s.slots.setIfInBounds i v }

def maxChoices : Nat := 1000000

def choose (s : State) (pc other : Nat) : Step :=
  if s.choices.size < maxChoices then
    .go { s with pc, choices := s.choices.push ⟨other, s.pos, s.slots, s.marks⟩ }
  else .giveUp

/-- Compares the text at `pos` with the stretch of `len` characters from `lo` on. -/
def repeats (t : Chars) (pos lo : Nat) : Nat → Bool
  | 0 => true
  | len + 1 => t[pos + len]?.isSome && t[pos + len]? == t[lo + len]? && repeats t pos lo len

def takeGroup (found : Slots) (s : State) (g k : Nat) : State :=
  match (found[2 * k]?).join, (found[2 * k + 1]?).join with
  | some lo, some hi => (s.set (2 * g) (some lo)).set (2 * g + 1) (some hi)
  | _, _ => (s.set (2 * g) none).set (2 * g + 1) none

def dropThrough (pc : Nat) : (fuel : Nat) → Array Choice → Array Choice
  | 0, choices => choices
  | fuel + 1, choices =>
    match choices.back? with
    | none => choices
    | some c => if c.pc = pc then choices.pop else dropThrough pc fuel choices.pop

def finish (s : State) : State :=
  match s.slot 0, s.slot 1 with
  | some lo, some hi => if hi < lo then s.set 0 (some hi) else s
  | _, _ => s

def step (p : Program) (t : Chars) (start : Nat) (s : State) : Step :=
  let next := s.pc + 1
  match p.code[s.pc]?.getD .cutFail with
  | .exact c =>
    if t[s.pos]? == some c then .go { s with pc := next, pos := s.pos + 1 } else .fail s
  | .char set =>
    if t[s.pos]?.any set.contains then .go { s with pc := next, pos := s.pos + 1 } else .fail s
  | .anchor a => if a.holds (t.before s.pos) t[s.pos]? then s.jump next else .fail s
  | .linear program first count =>
    match Linear.search program t s.pos true with
    | none => .fail s
    | some found =>
      let s := (List.range count).foldl (fun s k => takeGroup found s (first + k) (k + 1)) s
      .go { s with pc := next, pos := ((found[1]?).join).getD s.pos }
  | .split first second => s.choose first second
  | .jump target => s.jump target
  | .save slot => (s.set slot (some s.pos)).jump next
  | .zero slot => (s.set slot (some 0)).jump next
  | .restore slot => .go { s with pc := next, pos := (s.slot slot).getD s.pos }
  | .back count =>
    if count ≤ s.pos then .go { s with pc := next, pos := s.pos - count } else .fail s
  | .backref index =>
    match s.slot (2 * index), s.slot (2 * index + 1) with
    | some lo, some hi =>
      -- A group that has begun anew still ends where it ended the last time.
      if hi < lo then .broken
      else if repeats t s.pos lo (hi - lo) then
        .go { s with pc := next, pos := s.pos + (hi - lo) }
      else .fail s
    | _, _ => .fail s
  | .hasGroup index => if (s.slot (2 * index)).isSome then s.jump next else .fail s
  | .turn lo hi greedy counter exit =>
    let n := (s.slot counter).getD 0
    if hi == n then s.jump exit
    else
      let s := s.set counter (some (n + 1))
      if n < lo then s.jump next
      else if greedy then s.choose next exit
      else s.choose exit next
  | .turnNonEmpty lo greedy counter check exit =>
    let n := (s.slot counter).getD 0
    if lo < n ∧ s.slot check = some s.pos then .fail s
    else
      let s := s.set counter (some (n + 1))
      if n < lo then s.jump next
      else
        let s := s.set check (some s.pos)
        if greedy then s.choose next exit else s.choose exit next
  | .mark => .go { s with pc := next, marks := s.choices.size :: s.marks }
  | .cut =>
    match s.marks with
    | height :: marks => .go { s with pc := next, marks, choices := s.choices.shrink height }
    | [] => s.jump next
  | .cutFail => .fail { s with choices := dropThrough next s.choices.size s.choices }
  | .searchStart => if s.pos ≤ start then s.jump next else .fail s
  | .accept => .accept s.finish

/-- Goes back to the latest choice, if there is one and the limit allows it. -/
def backtrack (limit : Nat) (s : State) : Step :=
  match s.choices.back? with
  | none => .fail s
  | some c =>
    if limit < s.count + 1 then .giveUp
    else
      .go
        { pc := c.pc
          pos := c.pos
          slots := c.slots
          marks := c.marks
          choices := s.choices.pop
          count := s.count + 1 }

end State

inductive Outcome where
  | found (slots : Slots)
  | absent
  | exceeded
  | broken

def run (p : Program) (t : Chars) (start limit : Nat) : (fuel : Nat) → State → Outcome
  | 0, _ => .exceeded
  | fuel + 1, s =>
    match s.step p t start with
    | .go s => run p t start limit fuel s
    | .accept s => .found s.slots
    | .giveUp => .exceeded
    | .broken => .broken
    | .fail s =>
      match s.backtrack limit with
      | .go s => run p t start limit fuel s
      | .giveUp => .exceeded
      | _ => .absent

/-- Looks for the pattern from a position on.  The number of steps between two backtracks is
bounded by the written-out size of the pattern at each position. -/
def search (p : Program) (t : Chars) (limit start : Nat) : Outcome :=
  run p t start limit (4 * (limit + 2) * (p.code.size + p.weight + 4) * (t.size + 2))
    ⟨0, start, Array.replicate p.slots none, [], #[], 0⟩

end Machine

end PatternLint.Pattern
