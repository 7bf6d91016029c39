/-! Lists of names in the order of their characters. -/

namespace PatternLint

def distinctSorted (names : List String) : List String :=
  names.eraseDups.mergeSort fun a b => decide (a ≤ b)

def countName : List (String × Nat) → String → List (String × Nat)
  | [], name => [(name, 1)]
  | e :: table, name =>
    if name < e.1 then (name, 1) :: e :: table
    else if name = e.1 then (e.1, e.2 + 1) :: table
    else e :: countName table name

def nameCounts (names : List String) : List (String × Nat) := names.foldl countName []

end PatternLint
