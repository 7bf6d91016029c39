import PatternLint.Pattern.Anchor

/-! The shape of a pattern, and the measures that decide how it is run. -/

namespace PatternLint.Pattern

inductive Node where
  | empty
  /-- Any character; a line end only if asked for. -/
  | any (newline : Bool)
  | literal (c : Char) (anyCase : Bool)
  /-- What the regular notation says, taken for one character. -/
  | regular (text : List Char) (anyCase : Bool)
  | anchor (a : Anchor)
  | seq (parts : List Node)
  /-- The first alternative that leads to a match wins. -/
  | alt (choices : List Node)
  /-- A capturing group with its number. -/
  | group (index : Nat) (body : Node)
  /-- At least `lo` and at most `hi` repetitions; the largest count stands for no bound. -/
  | loop (lo hi : Nat) (greedy : Bool) (body : Node)
  | look (behind negated : Bool) (body : Node)
  /-- The text that a group has captured. -/
  | backref (index : Nat)
  /-- Holds when a group has begun. -/
  | hasGroup (index : Nat)
  /-- Goes on with `yes` after the condition has matched, and with `no` if it cannot. -/
  | conditional (condition yes no : Node)
  /-- The first match of the body, never revised. -/
  | atomic (body : Node)
  /-- Moves the start of the reported match here. -/
  | keepOut
  /-- Holds where the search began, and before. -/
  | searchStart
  deriving Inhabited

namespace Node

def unbounded : Nat := 0xFFFFFFFFFFFFFFFF

mutual
def minSize : Node → Nat
  | .empty | .anchor _ | .look .. | .backref _ | .hasGroup _ | .keepOut | .searchStart => 0
  | .any _ | .literal .. | .regular .. => 1
  | .seq ns => minSizeSum ns
  | .alt ns => (minSizeLeast ns).getD 0
  | .group _ n => n.minSize
  | .loop lo _ _ n => lo * n.minSize
  | .conditional c y n => c.minSize + min y.minSize n.minSize
  | .atomic n => n.minSize

def minSizeSum : List Node → Nat
  | [] => 0
  | n :: ns => n.minSize + minSizeSum ns

def minSizeLeast : List Node → Option Nat
  | [] => none
  | n :: ns =>
    match minSizeLeast ns with
    | none => some n.minSize
    | some m => some (min n.minSize m)
end

mutual
def isFixed : Node → Bool
  | .empty | .anchor _ | .look .. | .hasGroup _ | .keepOut | .searchStart => true
  | .any _ | .literal .. | .regular .. => true
  | .backref _ => false
  | .seq ns => allFixed ns
  | .alt ns => allFixed ns && sameSize ns
  | .group _ n => n.isFixed
  | .loop lo hi _ n => n.isFixed && lo == hi
  | .conditional c y n =>
    c.isFixed && y.isFixed && n.isFixed && c.minSize + y.minSize == n.minSize
  | .atomic n => n.isFixed

def allFixed : List Node → Bool
  | [] => true
  | n :: ns => n.isFixed && allFixed ns

def sameSize : List Node → Bool
  | [] => true
  | n :: ns =>
    (match ns with
      | [] => true
      | m :: _ => n.minSize == m.minSize) && sameSize ns
end

mutual
def isHard : Node → Bool
  | .empty | .any _ | .literal .. | .regular .. => false
  | .anchor a => a.aboutWords
  | .look .. | .backref _ | .hasGroup _ | .conditional .. | .atomic _ | .keepOut
  | .searchStart => true
  | .seq ns => anyHard ns
  | .alt ns => anyHard ns
  | .group _ n => n.isHard
  | .loop _ _ _ n => n.isHard

def anyHard : List Node → Bool
  | [] => false
  | n :: ns => n.isHard || anyHard ns
end

mutual
def groups : Node → List Nat
  | .empty | .any _ | .literal .. | .regular .. | .anchor _ | .backref _ | .hasGroup _
  | .keepOut | .searchStart => []
  | .seq ns => allGroups ns
  | .alt ns => allGroups ns
  | .group i n => i :: n.groups
  | .loop _ _ _ n => n.groups
  | .look _ _ n => n.groups
  | .conditional c y n => c.groups ++ y.groups ++ n.groups
  | .atomic n => n.groups

def allGroups : List Node → List Nat
  | [] => []
  | n :: ns => n.groups ++ allGroups ns
end

mutual
def weight : Node → Nat
  | .empty | .any _ | .literal .. | .regular .. | .anchor _ | .backref _ | .hasGroup _
  | .keepOut | .searchStart => 1
  | .seq ns => allWeight ns
  | .alt ns => allWeight ns
  | .group _ n => n.weight + 2
  | .loop lo hi _ n => (max lo (if hi = unbounded then 0 else hi) + 1) * (n.weight + 1)
  | .look _ _ n => n.weight + 1
  | .conditional c y n => c.weight + y.weight + n.weight + 1
  | .atomic n => n.weight + 1

def allWeight : List Node → Nat
  | [] => 1
  | n :: ns => n.weight + allWeight ns
end

end Node

end PatternLint.Pattern
