import PatternLint.Ignore.Wildcard

/-! Reading the patterns of ignore files.
`?` and `*` stay within one step of a path.  `**` stands for any number of directories where it is
a whole step and counts as two stars elsewhere.  `[...]` names one byte, `[!...]` or `[^...]` one
outside the set, and a bracket that nothing closes stands for itself.  Braces hold alternatives,
divided by commas, and a backslash takes the meaning from the character after it. -/

namespace PatternLint.Ignore

abbrev Alternatives := List (List Wildcard)

inductive Piece where
  | item (w : Wildcard)
  | choice (options : Alternatives)
  deriving Repr, DecidableEq

def expand : List Piece → Alternatives
  | [] => [[]]
  | .item w :: back => (expand back).map (· ++ [w])
  | .choice options :: back =>
    (expand back).flatMap fun front => options.map (front ++ ·)

def choiceOf (branches : Alternatives) : Piece :=
  let options := branches.filter (!·.isEmpty)
  .choice (if options.isEmpty then [[]] else options)

/-- The bytes that a range of characters in brackets names.  The spellings of its two ends are set
side by side, and only the bytes next to the dash form a range. -/
def byteRanges (low high : Char) : List ByteRange :=
  let single (b : UInt8) : ByteRange := ⟨b, b⟩
  if low = high then (Wildcard.bytesOf low).map single
  else
    match (Wildcard.bytesOf low).reverse, Wildcard.bytesOf high with
    | a :: before, b :: after => (before.reverse.map single) ++ ⟨a, b⟩ :: after.map single
    | _, _ => []

structure OpenSet where
  ranges : List (Char × Char)
  isFirst : Bool
  inRange : Bool

inductive SetEnd where
  | closed (ranges : List (Char × Char)) (rest : List Char)
  | unclosed
  | reversedRange

/-- Reads the members of a set.  A bracket or a dash in front stands for itself, and so does a dash
at the end. -/
def readSet (o : OpenSet) : List Char → SetEnd
  | [] => .unclosed
  | c :: s =>
    if c = ']' ∧ !o.isFirst then
      .closed (o.ranges.reverse ++ if o.inRange then [('-', '-')] else []) s
    else if c = '-' ∧ !o.isFirst ∧ !o.inRange then readSet ⟨o.ranges, false, true⟩ s
    else
      match o.inRange, o.ranges with
      | true, (low, _) :: ranges =>
        if c < low then .reversedRange else readSet ⟨(low, c) :: ranges, false, false⟩ s
      | _, _ => readSet ⟨(c, c) :: o.ranges, false, false⟩ s

theorem length_of_readSet {o : OpenSet} {s rest : List Char} {ranges : List (Char × Char)}
    (h : readSet o s = .closed ranges rest) : rest.length < s.length := by
  fun_induction readSet o s with
  | case1 => cases h
  | case2 => cases h; simp
  | case3 _ _ _ _ _ ih => have := ih h; simp; omega
  | case4 => cases h
  | case5 =>
    rename_i ih
    have := ih h
    simp; omega
  | case6 =>
    rename_i ih
    have := ih h
    simp; omega

/-- A set after its opening bracket, whether it is negated and where it ends. -/
def openSet : List Char → Bool × SetEnd
  | '!' :: s => (true, readSet ⟨[], true, false⟩ s)
  | '^' :: s => (true, readSet ⟨[], true, false⟩ s)
  | s => (false, readSet ⟨[], true, false⟩ s)

theorem length_of_openSet {s rest : List Char} {negated : Bool} {ranges : List (Char × Char)}
    (h : openSet s = (negated, .closed ranges rest)) : rest.length < s.length := by
  unfold openSet at h
  split at h
  all_goals
    simp only [Prod.mk.injEq] at h
    have := length_of_readSet h.2
    simp
    omega

/-- A brace that is open: the pieces before it, and the branches that are complete. -/
structure Brace where
  before : List Piece
  branches : Alternatives

inductive StarPair where
  | plain
  | leading
  | inner
  | trailing
  deriving Repr, DecidableEq

/-- Two stars are directories when they are a whole step: at the start of a branch or after a
slash, and before a slash or at the end. -/
def starPair (inBrace : Bool) (back : List Piece) (previous next : Option Char) : StarPair :=
  if back.isEmpty then
    if next = none ∨ next = some '/' then .leading else .plain
  else if previous ≠ some '/' ∧ (!inBrace ∨ (previous ≠ some ',' ∧ previous ≠ some '{')) then .plain
  else
    match next with
    | none => .trailing
    | some '/' => .inner
    | some c => if inBrace ∧ (c = ',' ∨ c = '}') then .trailing else .plain

/-- The pieces after two stars were read; directories take the place of the slash before them. -/
def StarPair.extend (back : List Piece) : StarPair → List Piece
  | .plain => .item .run :: .item .run :: back
  | .leading => [.item .leadingDirectories]
  | .inner =>
    match back with
    | .item .leadingDirectories :: _ => back
    | _ => .item .innerDirectories :: back.drop 1
  | .trailing =>
    match back with
    | .item .leadingDirectories :: _ => back
    | _ => .item .rest :: .item (.byte Wildcard.slash) :: back.drop 1

/-- What is left to read after two stars; directories take the slash after them along. -/
def StarPair.remainder : StarPair → List Char → List Char
  | .leading, '/' :: s => s
  | .inner, '/' :: s => s
  | _, s => s

theorem StarPair.length_remainder_le (pair : StarPair) (s : List Char) :
    (pair.remainder s).length ≤ s.length := by
  unfold StarPair.remainder
  split <;> simp

def StarPair.lastRead : StarPair → Char
  | .leading | .inner => '/'
  | .plain | .trailing => '*'

def literal (c : Char) (back : List Piece) : List Piece :=
  (Wildcard.bytesOf c).reverse.map (fun b => Piece.item (.byte b)) ++ back

/-- Reads a pattern.  `back` holds the pieces of the current branch, last one first, and
`previous` the character that was read last. -/
def parseFrom (braces : List Brace) (back : List Piece) (previous : Option Char) :
    List Char → Option (List Piece)
  | [] => if braces.isEmpty then some back else none
  | '?' :: s => parseFrom braces (.item .any :: back) (some '?') s
  | '*' :: '*' :: s =>
    let pair := starPair (!braces.isEmpty) back previous s.head?
    parseFrom braces (pair.extend back) (some pair.lastRead) (pair.remainder s)
  | '*' :: s => parseFrom braces (.item .run :: back) (some '*') s
  | '[' :: s =>
    match h : openSet s with
    | (negated, .closed ranges rest) =>
      have := length_of_openSet h
      let bytes := ranges.flatMap fun (low, high) => byteRanges low high
      parseFrom braces (.item (.oneOf negated bytes) :: back) (some ']') rest
    | (_, .unclosed) => parseFrom braces (literal '[' back) (some '[') s
    | (_, .reversedRange) => none
  | '{' :: s => parseFrom (⟨back, []⟩ :: braces) [] (some '{') s
  | '}' :: s =>
    match braces with
    | [] => none
    | b :: outer => parseFrom outer (choiceOf (b.branches ++ expand back) :: b.before) (some '}') s
  | ',' :: s =>
    match braces with
    | [] => parseFrom braces (literal ',' back) (some ',') s
    | b :: outer => parseFrom (⟨b.before, b.branches ++ expand back⟩ :: outer) [] (some ',') s
  | ['\\'] => none
  | '\\' :: c :: s => parseFrom braces (literal c back) (some c) s
  | c :: s => parseFrom braces (literal c back) (some c) s
termination_by s => s.length
decreasing_by
  all_goals simp only [List.length_cons]
  case _ => omega
  case _ => exact Nat.lt_of_le_of_lt (StarPair.length_remainder_le _ s) (by omega)
  all_goals omega

def parse? (pattern : List Char) : Option Alternatives :=
  (parseFrom [] [] none pattern).map fun back =>
    if back = [.item .leadingDirectories] then [[.rest]] else expand back

end PatternLint.Ignore
