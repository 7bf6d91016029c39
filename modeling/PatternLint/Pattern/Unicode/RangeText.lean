import PatternLint.Pattern.CharSet
import PatternLint.Pattern.Hex

/-! Sets of characters written as text.
Code points stand in hexadecimal and are separated by blanks: `AA` is one of them, `41-5A` a range,
and `100-12E/2` every second one of a range. -/

namespace PatternLint.Pattern.Unicode

/-- The code points `first`, `first + step`, … up to `last`, each as a range. -/
def stepped (first last step : Nat) : List (Nat × Nat) :=
  (List.range ((last - first) / step + 1)).map fun k => (first + k * step, first + k * step)

def rangesOfWord (cs : List Char) : List (Nat × Nat) :=
  let first := cs.takeWhile isHexDigit
  match cs.drop first.length with
  | '-' :: r =>
    let last := r.takeWhile isHexDigit
    match r.drop last.length with
    | '/' :: step => stepped (hexNumber first) (hexNumber last) (hexNumber step)
    | _ => [(hexNumber first, hexNumber last)]
  | _ => [(hexNumber first, hexNumber first)]

def setOfText (lines : List String) : CharSet :=
  CharSet.ofRanges
    (lines.flatMap fun line => (line.splitOn " ").flatMap fun w => rangesOfWord w.toList)

end PatternLint.Pattern.Unicode
