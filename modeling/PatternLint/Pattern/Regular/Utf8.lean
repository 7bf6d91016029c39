import PatternLint.Pattern.CharSet

/-! The bytes of characters, and ranges of characters as rows of byte ranges. -/

namespace PatternLint.Pattern.Regular

def utf8Bytes (n : Nat) : List Nat :=
  if n < 0x80 then [n]
  else if n < 0x800 then [0xC0 + n / 0x40, 0x80 + n % 0x40]
  else if n < 0x10000 then [0xE0 + n / 0x1000, 0x80 + n / 0x40 % 0x40, 0x80 + n % 0x40]
  else
    [0xF0 + n / 0x40000, 0x80 + n / 0x1000 % 0x40, 0x80 + n / 0x40 % 0x40, 0x80 + n % 0x40]

abbrev ByteRange := Nat × Nat

/-- Where a range of code points has to be cut because its ends have different lengths, or because
a later byte would not run through all its values: the code point that begins the second part. -/
def cut? (a b : Nat) : Option Nat :=
  match [0x7F, 0x7FF, 0xFFFF].find? fun m => decide (a ≤ m ∧ m < b) with
  | some m => some (m + 1)
  | none =>
    if b ≤ 0x7F then none
    else
      [0x40, 0x1000, 0x40000].findSome? fun k =>
        if a / k = b / k then none
        else if a % k ≠ 0 then some ((a / k + 1) * k)
        else if b % k ≠ k - 1 then some (b / k * k)
        else none

/-- Rows of byte ranges that spell exactly the code points of the given ranges, in order. -/
def byteRowsWith : (fuel : Nat) → List (Nat × Nat) → List (List ByteRange)
  | 0, _ => []
  | _ + 1, [] => []
  | fuel + 1, (a, b) :: rest =>
    if a < 0xE000 ∧ 0xD7FF < b then byteRowsWith fuel ((a, 0xD7FF) :: (0xE000, b) :: rest)
    else if b < a then byteRowsWith fuel rest
    else
      match cut? a b with
      | some k => byteRowsWith fuel ((a, k - 1) :: (k, b) :: rest)
      | none => (utf8Bytes a).zip (utf8Bytes b) :: byteRowsWith fuel rest

/-- Rows of byte ranges for a set; a range of code points falls into few of them. -/
def byteRows (s : CharSet) : List (List ByteRange) :=
  byteRowsWith (64 * (s.ranges.size + 1)) s.ranges.toList

end PatternLint.Pattern.Regular
