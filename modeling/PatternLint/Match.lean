import PatternLint.Pattern

/-! All matches of a pattern in a text, from left to right and without overlap. -/

namespace PatternLint

structure MatchSpan where
  start : Nat
  stop : Nat
  groups : List (Option Source)
  deriving Repr, DecidableEq

namespace MatchSpan

def length (m : MatchSpan) : Nat := m.stop - m.start

def isEmpty (m : MatchSpan) : Bool := m.start == m.stop

end MatchSpan

namespace Pattern

structure Failure where
  offset : Nat
  cause : SearchError
  deriving Repr, DecidableEq

def Hit.resume (h : Hit) : Nat := if h.start < h.stop then h.stop else h.stop + 1

/-- Searches again and again: from the end of a match, or one character after an empty one.  The
first search that fails settles the result, together with the position it began at.  Searches that
come back to a place go on for ever; this is noticed when there are more turns than places. -/
def collect {ε : Type} (search : Nat → Except ε (Option Hit)) (endless : ε) (size : Nat) :
    Nat → Nat → Except (ε × Nat) (List Hit)
  | 0, pos => .error (endless, pos)
  | turns + 1, pos =>
    if pos ≤ size then
      match search pos with
      | .error e => .error (e, pos)
      | .ok none => .ok []
      | .ok (some hit) => (collect search endless size turns hit.resume).map (hit :: ·)
    else .ok []

/-- Byte offsets of the characters of a text that begins at byte `o`, and of its end. -/
def offsetsFrom (o : Nat) : Source → List Nat
  | [] => [o]
  | c :: s => o :: offsetsFrom (o + c.utf8Size) s

def Hit.toSpan (t : Chars) (offsets : Array Nat) (h : Hit) : MatchSpan where
  start := offsets[h.start]?.getD 0
  stop := offsets[h.stop]?.getD 0
  groups := h.groups.map fun g => g.map fun (lo, hi) => (t.extract lo hi).toList

/-- Every match of the pattern, or why there is no end to them or one of the searches failed. -/
def findMatches (p : Pattern) (text : Source) : Except Failure (List MatchSpan) :=
  let t := text.toArray
  let offsets := (offsetsFrom 0 text).toArray
  match collect (p.searchFrom t) .endless t.size (t.size + 2) 0 with
  | .ok hits => .ok (hits.map (Hit.toSpan t offsets))
  | .error (e, pos) => .error ⟨offsets[pos]?.getD 0, e⟩

end Pattern

end PatternLint
