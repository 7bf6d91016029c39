/-! Document text and its byte measure.
A text is its list of Unicode scalar values; offsets and lengths are counted in the bytes of its
UTF-8 form.  An offset is usable only where it falls between two characters. -/

namespace PatternLint

abbrev Source := List Char

namespace Source

def byteLen : Source → Nat
  | [] => 0
  | c :: s => c.utf8Size + byteLen s

@[simp] theorem byteLen_nil : byteLen [] = 0 := rfl

@[simp] theorem byteLen_cons (c : Char) (s : Source) :
    byteLen (c :: s) = c.utf8Size + byteLen s := rfl

@[simp] theorem byteLen_append (s t : Source) : byteLen (s ++ t) = byteLen s + byteLen t := by
  induction s with
  | nil => simp
  | cons c s ih => simp [ih, Nat.add_assoc]

/-- Cuts a text at a byte offset; refuses an offset inside a character or past the end. -/
def splitAt? : Source → Nat → Option (Source × Source)
  | s, 0 => some ([], s)
  | [], _ + 1 => none
  | c :: s, n + 1 =>
    if c.utf8Size ≤ n + 1 then
      (splitAt? s (n + 1 - c.utf8Size)).map fun (head, tail) => (c :: head, tail)
    else none

/-- The part between two byte offsets, both of which have to be usable and in order. -/
def slice? (s : Source) (start stop : Nat) : Option Source := do
  guard (start ≤ stop)
  let (_, tail) ← splitAt? s start
  let (part, _) ← splitAt? tail (stop - start)
  return part

def startsWith (s needle : Source) : Bool := needle.isPrefixOf s

def dropTrailingReturns (s : Source) : Source :=
  (s.reverse.dropWhile (· == '\r')).reverse

end Source

def endings {α : Type} : List α → List (List α)
  | [] => [[]]
  | a :: as => (a :: as) :: endings as

/-- Number of leading entries of `xs` that satisfy `p`, found by halving.  It is that number
whenever no entry after a failing one satisfies `p`. -/
def partitionPoint {α : Type} (p : α → Bool) (xs : Array α) : Nat :=
  go 0 xs.size
where
  go (lo hi : Nat) : Nat :=
    if lo < hi then
      match xs[(lo + hi) / 2]? with
      | some x => if p x then go ((lo + hi) / 2 + 1) hi else go lo ((lo + hi) / 2)
      | none => lo
    else lo
  termination_by hi - lo

end PatternLint
