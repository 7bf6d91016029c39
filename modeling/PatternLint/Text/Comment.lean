import PatternLint.Text.Basic

/-! Comment spans of C-family sources.
A line comment runs from `//` to the end of its line, a block comment from `/*` through the
nearest `*/` after it, without nesting.  The two scans know nothing of each other nor of string
literals; their spans are then ordered and merged. -/

namespace PatternLint

inductive CommentKind where
  | line
  | block
  deriving Repr, DecidableEq

structure CommentSpan where
  start : Nat
  stop : Nat
  kind : CommentKind
  deriving Repr, DecidableEq

namespace CommentSpan

def contains (s : CommentSpan) (offset : Nat) : Bool := s.start ≤ offset && offset < s.stop

def precedes (a b : CommentSpan) : Bool :=
  a.start < b.start || (a.start == b.start && a.stop ≤ b.stop)

/-- One pass over ordered spans: a span that begins inside the current one extends it. -/
def coalesceFrom (current : CommentSpan) : List CommentSpan → List CommentSpan
  | [] => [current]
  | s :: rest =>
    if s.start < current.stop then
      coalesceFrom { current with stop := max current.stop s.stop } rest
    else current :: coalesceFrom s rest

def coalesce : List CommentSpan → List CommentSpan
  | [] => []
  | s :: rest => coalesceFrom s rest

end CommentSpan

namespace Source

def lineCommentsFrom (o : Nat) : Source → List CommentSpan
  | '/' :: '/' :: s =>
    let stop := o + 2 + byteLen (s.takeWhile (· ≠ '\n'))
    ⟨o, stop, .line⟩ :: lineCommentsFrom stop (s.dropWhile (· ≠ '\n'))
  | c :: s => lineCommentsFrom (o + c.utf8Size) s
  | [] => []
termination_by s => s.length
decreasing_by
  · have := (List.dropWhile_sublist (l := s) (· ≠ '\n')).length_le
    simp only [List.length_cons]
    omega
  · simp only [List.length_cons]
    omega

def splitAtClose? : Source → Option (Source × Source)
  | '*' :: '/' :: s => some ([], s)
  | c :: s => (splitAtClose? s).map fun (body, rest) => (c :: body, rest)
  | [] => none

theorem length_of_splitAtClose? {s body rest : Source} (h : splitAtClose? s = some (body, rest)) :
    body.length + 2 + rest.length = s.length := by
  fun_induction splitAtClose? s generalizing body rest with
  | case1 s => simp_all; omega
  | case2 c s _ ih =>
    obtain ⟨⟨b, r⟩, hbr, heq⟩ := Option.map_eq_some_iff.1 h
    simp only [Prod.mk.injEq] at heq
    obtain ⟨rfl, rfl⟩ := heq
    have := ih hbr
    simp; omega
  | case3 => simp at h

/-- Block comments of a text that begins at byte `o`, and whether the last one is left open. -/
def blockCommentsFrom (o : Nat) : Source → List CommentSpan × Bool
  | '/' :: '*' :: s =>
    match h : splitAtClose? s with
    | some (body, rest) =>
      have := length_of_splitAtClose? h
      let stop := o + 4 + byteLen body
      let (spans, isOpen) := blockCommentsFrom stop rest
      (⟨o, stop, .block⟩ :: spans, isOpen)
    | none => ([⟨o, o + 2 + byteLen s, .block⟩], true)
  | c :: s => blockCommentsFrom (o + c.utf8Size) s
  | [] => ([], false)
termination_by s => s.length
decreasing_by
  · simp; omega
  · simp

end Source

/-- The merged comment spans of a text, in order, and whether a comment is open at its end. -/
structure CommentIndex where
  spans : Array CommentSpan
  openAtEnd : Bool
  deriving Repr, DecidableEq

namespace CommentIndex

def detect (s : Source) : CommentIndex :=
  let lineSpans := s.lineCommentsFrom 0
  let (blockSpans, blockOpen) := s.blockCommentsFrom 0
  let lineOpen := lineSpans.getLast?.any fun c => c.stop == s.byteLen
  let ordered := (lineSpans ++ blockSpans).mergeSort CommentSpan.precedes
  { spans := (CommentSpan.coalesce ordered).toArray
    openAtEnd := lineOpen || blockOpen }

/-- Whether a byte offset is inside a comment.  The end of the text is inside when a comment runs
up to it unfinished, so that an empty match there is still in the comment. -/
def covers (ix : CommentIndex) (offset : Nat) : Bool :=
  let i := partitionPoint (fun c : CommentSpan => decide (c.stop ≤ offset)) ix.spans
  (ix.spans[i]?).any (fun c => c.contains offset) ||
    (ix.openAtEnd && (ix.spans.back?).any (fun c => c.stop == offset))

end CommentIndex

end PatternLint
