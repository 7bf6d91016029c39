import PatternLint.Path

/-! Finite maps from paths, in ascending order of components.
Paths with the same components are one key, and the map keeps the spelling it met first. -/

namespace PatternLint

abbrev PathMap (α : Type) := List (Path × α)

namespace PathMap

variable {α : Type}

def get? (m : PathMap α) (p : Path) : Option α := (m.find? fun e => e.1.same p).map Prod.snd

def contains (m : PathMap α) (p : Path) : Bool := m.any fun e => e.1.same p

def insert (p : Path) (a : α) : PathMap α → PathMap α
  | [] => [(p, a)]
  | e :: m =>
    match p.order e.1 with
    | .lt => (p, a) :: e :: m
    | .eq => (e.1, a) :: m
    | .gt => e :: insert p a m

def erase (m : PathMap α) (p : Path) : PathMap α := m.filter fun e => !e.1.same p

def keys (m : PathMap α) : List Path := m.map Prod.fst

def values (m : PathMap α) : List α := m.map Prod.snd

end PathMap

end PatternLint
