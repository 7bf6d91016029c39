import PatternLint.Path
import PatternLint.Text.Basic

/-! Exclusion patterns over whole paths.
`?` stands for one character and `*` for any sequence, slashes included.  `**` has to be a whole
step of the pattern and stands for any number of directories; at the end it stands for whatever
is left.  `[...]` and `[!...]` name one character out of, or outside, a set. -/

namespace PatternLint

structure CharRange where
  low : Char
  high : Char
  deriving Repr, DecidableEq

def CharRange.contains (r : CharRange) (c : Char) : Bool := r.low ≤ c && c ≤ r.high

inductive GlobItem where
  | char (c : Char)
  | anyChar
  | anySequence
  | anyDirectories
  | within (ranges : List CharRange)
  | outside (ranges : List CharRange)
  deriving Repr, DecidableEq

abbrev Glob := List GlobItem

inductive GlobError where
  /-- Three or more stars in a row. -/
  | wildcards
  /-- Two stars that are not a whole step. -/
  | recursiveWildcards
  /-- A set of characters that is not closed or is empty. -/
  | invalidSet
  deriving Repr, DecidableEq

namespace Glob

def ranges : List Char → List CharRange
  | a :: '-' :: b :: cs => ⟨a, b⟩ :: ranges cs
  | a :: cs => ⟨a, a⟩ :: ranges cs
  | [] => []

def untilBracket? : List Char → Option (List Char × List Char)
  | [] => none
  | ']' :: cs => some ([], cs)
  | c :: cs => (untilBracket? cs).map fun (body, rest) => (c :: body, rest)

theorem length_of_untilBracket? {s body rest : List Char}
    (h : untilBracket? s = some (body, rest)) : rest.length < s.length := by
  fun_induction untilBracket? s generalizing body rest with
  | case1 => simp at h
  | case2 cs => simp_all
  | case3 c cs _ ih =>
    obtain ⟨⟨b, r⟩, hbr, heq⟩ := Option.map_eq_some_iff.1 h
    simp only [Prod.mk.injEq] at heq
    obtain ⟨rfl, rfl⟩ := heq
    have := ih hbr
    simp; omega

/-- A set after its opening bracket.  Its first member may be a bracket, so the closing one is
looked for after it. -/
def set? : List Char → Option (GlobItem × List Char)
  | '!' :: first :: cs =>
    (untilBracket? cs).map fun (body, rest) => (.outside (ranges (first :: body)), rest)
  | ['!'] => none
  | first :: cs =>
    (untilBracket? cs).map fun (body, rest) => (.within (ranges (first :: body)), rest)
  | [] => none

theorem length_of_set? {s rest : List Char} {item : GlobItem} (h : set? s = some (item, rest)) :
    rest.length < s.length := by
  unfold set? at h
  split at h
  · obtain ⟨⟨b, r⟩, hbr, heq⟩ := Option.map_eq_some_iff.1 h
    have := length_of_untilBracket? hbr
    simp only [Prod.mk.injEq] at heq
    obtain ⟨_, rfl⟩ := heq
    simp; omega
  · simp at h
  · obtain ⟨⟨b, r⟩, hbr, heq⟩ := Option.map_eq_some_iff.1 h
    have := length_of_untilBracket? hbr
    simp only [Prod.mk.injEq] at heq
    obtain ⟨_, rfl⟩ := heq
    simp; omega
  · simp at h

def parseFrom (atStart : Bool) : List Char → Except GlobError Glob
  | [] => .ok []
  | '?' :: s => (GlobItem.anyChar :: ·) <$> parseFrom false s
  | '*' :: '*' :: '*' :: _ => .error .wildcards
  | ['*', '*'] => if atStart then .ok [.anyDirectories] else .error .recursiveWildcards
  | '*' :: '*' :: c :: s =>
    if atStart && c == '/' then (GlobItem.anyDirectories :: ·) <$> parseFrom true s
    else .error .recursiveWildcards
  | '*' :: s => (GlobItem.anySequence :: ·) <$> parseFrom false s
  | '[' :: s =>
    match h : set? s with
    | none => .error .invalidSet
    | some (item, rest) =>
      have := length_of_set? h
      (item :: ·) <$> parseFrom false rest
  | c :: s => (GlobItem.char c :: ·) <$> parseFrom (c == '/') s
termination_by s => s.length

def parse (pattern : String) : Except GlobError Glob := parseFrom true pattern.toList

end Glob

def GlobItem.accepts : GlobItem → Char → Bool
  | .char d, c => c == d
  | .anyChar, _ => true
  | .within rs, c => rs.any (·.contains c)
  | .outside rs, c => !rs.any (·.contains c)
  | .anySequence, _ | .anyDirectories, _ => false

namespace Glob

/-- What may follow some leading directories of a text: the whole text, what comes after one of
its slashes, or nothing at all. -/
def belowDirectories (s : List Char) : List (List Char) := s :: afterSlashes s
where
  afterSlashes : List Char → List (List Char)
    | [] => [[]]
    | c :: s => if c == '/' then s :: afterSlashes s else afterSlashes s

def accepts : Glob → List Char → Bool
  | [], s => s.isEmpty
  | .anySequence :: items, s => (endings s).any (accepts items)
  | .anyDirectories :: items, s => (belowDirectories s).any (accepts items)
  | _ :: _, [] => false
  | item :: items, c :: s => item.accepts c && accepts items s

def acceptsPath (g : Glob) (p : Path) : Bool := g.accepts p.spelling.toList

end Glob

end PatternLint
