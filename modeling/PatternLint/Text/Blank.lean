import PatternLint.Text.Basic

/-! White space in the sense of the Unicode property `White_Space`, and trimming by it. -/

namespace PatternLint

def isBlank (c : Char) : Bool :=
  let n := c.toNat
  (0x09 ≤ n && n ≤ 0x0D) || n == 0x20 || n == 0x85 || n == 0xA0 || n == 0x1680 ||
    (0x2000 ≤ n && n ≤ 0x200A) || n == 0x2028 || n == 0x2029 || n == 0x202F || n == 0x205F ||
    n == 0x3000

namespace Source

def indent (s : Source) : Source := s.takeWhile isBlank

def trim (s : Source) : Source :=
  ((s.dropWhile isBlank).reverse.dropWhile isBlank).reverse

end Source

def trimmed (s : String) : String := String.ofList (Source.trim s.toList)

def asciiLower (s : String) : String := String.ofList (s.toList.map Char.toLower)

end PatternLint
