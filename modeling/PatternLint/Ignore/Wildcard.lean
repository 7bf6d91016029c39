import PatternLint.Text.Basic

/-! The patterns of ignore files, as lists of items that are matched byte by byte. -/

namespace PatternLint

structure ByteRange where
  low : UInt8
  high : UInt8
  deriving Repr, DecidableEq

def ByteRange.contains (r : ByteRange) (b : UInt8) : Bool := r.low ≤ b && b ≤ r.high

inductive Wildcard where
  | byte (b : UInt8)
  /-- One byte other than the slash. -/
  | any
  /-- Bytes other than the slash. -/
  | run
  /-- Bytes of any kind. -/
  | rest
  /-- Nothing, or everything up to some slash. -/
  | leadingDirectories
  /-- A slash, or everything from one slash to another. -/
  | innerDirectories
  /-- One byte that is in one of the ranges, or that is in none of them. -/
  | oneOf (negated : Bool) (ranges : List ByteRange)
  deriving Repr, DecidableEq

namespace Wildcard

def slash : UInt8 := 47

def bytesOf (c : Char) : List UInt8 := (String.singleton c).toUTF8.toList

def acceptsByte : Wildcard → UInt8 → Bool
  | .byte a, b => b == a
  | .any, b => b != slash
  | .oneOf negated ranges, b => ranges.any (·.contains b) != negated
  | .run, _ | .rest, _ | .leadingDirectories, _ | .innerDirectories, _ => false

def endingsInStep : List UInt8 → List (List UInt8)
  | [] => [[]]
  | b :: s => (b :: s) :: (if b == slash then [] else endingsInStep s)

def afterSlashes : List UInt8 → List (List UInt8)
  | [] => []
  | b :: s => if b == slash then s :: afterSlashes s else afterSlashes s

def accepts : List Wildcard → List UInt8 → Bool
  | [], s => s.isEmpty
  | .run :: items, s => (endingsInStep s).any (accepts items)
  | .rest :: items, s => (endings s).any (accepts items)
  | .leadingDirectories :: items, s => (s :: afterSlashes s).any (accepts items)
  | .innerDirectories :: items, b :: s =>
    b == slash && (s :: afterSlashes s).any (accepts items)
  | _ :: _, [] => false
  | item :: items, b :: s => item.acceptsByte b && accepts items s

end Wildcard

end PatternLint
