import PatternLint.Text.Basic
import PatternLint.Pattern.DigitTable
import PatternLint.Pattern.WordTable

/-! Sets of characters as ascending, separated ranges of code points. -/

namespace PatternLint.Pattern

structure CharSet where
  ranges : Array (Nat × Nat)
  deriving Repr, DecidableEq, Inhabited

namespace CharSet

def maxCode : Nat := 0x10FFFF

def joinFrom (lo hi : Nat) : List (Nat × Nat) → List (Nat × Nat)
  | [] => [(lo, hi)]
  | (a, b) :: rest =>
    if a ≤ hi + 1 then joinFrom lo (max hi b) rest else (lo, hi) :: joinFrom a b rest

/-- Puts a range among ascending ones, in front of those that do not begin before it. -/
def insertRange (r : Nat × Nat) : List (Nat × Nat) → List (Nat × Nat)
  | [] => [r]
  | s :: rest => if r.1 ≤ s.1 then r :: s :: rest else s :: insertRange r rest

def ofRanges (rs : List (Nat × Nat)) : CharSet :=
  match rs.foldr insertRange [] with
  | [] => ⟨#[]⟩
  | (lo, hi) :: rest => ⟨(joinFrom lo hi rest).toArray⟩

def ofChar (c : Char) : CharSet := ⟨#[(c.toNat, c.toNat)]⟩

def empty : CharSet := ⟨#[]⟩

def full : CharSet := ⟨#[(0, maxCode)]⟩

def hasCode (s : CharSet) (n : Nat) : Bool :=
  let i := partitionPoint (fun r : Nat × Nat => decide (r.2 < n)) s.ranges
  (s.ranges[i]?).any fun r => decide (r.1 ≤ n)

def contains (s : CharSet) (c : Char) : Bool := s.hasCode c.toNat

def union (s t : CharSet) : CharSet := ofRanges (s.ranges.toList ++ t.ranges.toList)

def gapsFrom (lo : Nat) : List (Nat × Nat) → List (Nat × Nat)
  | [] => if lo ≤ maxCode then [(lo, maxCode)] else []
  | (a, b) :: rest => if lo < a then (lo, a - 1) :: gapsFrom (b + 1) rest else gapsFrom (b + 1) rest

def complement (s : CharSet) : CharSet := ⟨(gapsFrom 0 s.ranges.toList).toArray⟩

def inter (s t : CharSet) : CharSet := (s.complement.union t.complement).complement

def diff (s t : CharSet) : CharSet := s.inter t.complement

def symmDiff (s t : CharSet) : CharSet := (s.diff t).union (t.diff s)

def word : CharSet := ⟨wordRanges⟩

def digit : CharSet := ⟨digitRanges⟩

def space : CharSet :=
  ⟨#[(0x09, 0x0D), (0x20, 0x20), (0x85, 0x85), (0xA0, 0xA0), (0x1680, 0x1680), (0x2000, 0x200A),
    (0x2028, 0x2029), (0x202F, 0x202F), (0x205F, 0x205F), (0x3000, 0x3000)]⟩

def hexDigit : CharSet := ⟨#[(0x30, 0x39), (0x41, 0x46), (0x61, 0x66)]⟩

def newline : CharSet := ofChar '\n'

def named? : String → Option CharSet
  | "alnum" => some (ofRanges [(0x30, 0x39), (0x41, 0x5A), (0x61, 0x7A)])
  | "alpha" => some (ofRanges [(0x41, 0x5A), (0x61, 0x7A)])
  | "ascii" => some (ofRanges [(0x00, 0x7F)])
  | "blank" => some (ofRanges [(0x09, 0x09), (0x20, 0x20)])
  | "cntrl" => some (ofRanges [(0x00, 0x1F), (0x7F, 0x7F)])
  | "digit" => some (ofRanges [(0x30, 0x39)])
  | "graph" => some (ofRanges [(0x21, 0x7E)])
  | "lower" => some (ofRanges [(0x61, 0x7A)])
  | "print" => some (ofRanges [(0x20, 0x7E)])
  | "punct" => some (ofRanges [(0x21, 0x2F), (0x3A, 0x40), (0x5B, 0x60), (0x7B, 0x7E)])
  | "space" => some (ofRanges [(0x09, 0x0D), (0x20, 0x20)])
  | "upper" => some (ofRanges [(0x41, 0x5A)])
  | "word" => some (ofRanges [(0x30, 0x39), (0x41, 0x5A), (0x5F, 0x5F), (0x61, 0x7A)])
  | "xdigit" => some hexDigit
  | _ => none

end CharSet

def isWordChar (c : Char) : Bool :=
  if c.toNat < 0x80 then c.isAlphanum || c == '_' else CharSet.word.contains c

end PatternLint.Pattern
