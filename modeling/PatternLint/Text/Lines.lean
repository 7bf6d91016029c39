import PatternLint.Text.Basic

/-! Lines of a text, once as the pieces between newlines and once as a table of line starts.
Lines end at `\n` only, and a trailing newline opens an empty last line. -/

namespace PatternLint

namespace Source

def lines : Source → List Source
  | [] => [[]]
  | c :: s =>
    if c = '\n' then [] :: lines s
    else match lines s with
      | [] => [[c]]
      | l :: ls => (c :: l) :: ls

/-- Byte offsets just after each newline of a text that begins at offset `o`. -/
def lineStartsFrom (o : Nat) : Source → List Nat
  | [] => []
  | c :: s =>
    if c = '\n' then (o + c.utf8Size) :: lineStartsFrom (o + c.utf8Size) s
    else lineStartsFrom (o + c.utf8Size) s

end Source

/-- Where the lines of a text begin, in bytes, together with the size of the text. -/
structure LineIndex where
  starts : Array Nat
  size : Nat
  deriving Repr, DecidableEq

namespace LineIndex

def ofSource (s : Source) : LineIndex where
  starts := (0 :: s.lineStartsFrom 0).toArray
  size := s.byteLen

def lineCount (ix : LineIndex) : Nat := ix.starts.size

/-- The line that holds a byte offset; offsets past the end belong to the last line. -/
def lineOf (ix : LineIndex) (offset : Nat) : Nat :=
  partitionPoint (fun start => decide (start ≤ offset)) ix.starts - 1

/-- First byte of a line and the byte after its last, without the newline. -/
def lineRange? (ix : LineIndex) (line : Nat) : Option (Nat × Nat) :=
  match ix.starts[line]? with
  | none => none
  | some start =>
    match ix.starts[line + 1]? with
    | some next => some (start, next - 1)
    | none => some (start, ix.size)

end LineIndex

end PatternLint
