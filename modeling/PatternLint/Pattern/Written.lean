import PatternLint.Pattern.Node

/-! The regular notation of a node.
Only nodes that need no backtracking have one.  A `rank` says how tightly the surroundings bind:
0 stands alone, 1 in a choice, 2 in a row and 3 before a repetition. -/

namespace PatternLint.Pattern.Node

def grouped (opening : String) (needed : Bool) (text : List Char) : List Char :=
  if needed then opening.toList ++ text ++ [')'] else text

def quoted (c : Char) : List Char :=
  if "\\.+*?()|[]\x7b\x7d^$#".toList.contains c then ['\\', c] else [c]

def repeatMark (lo hi : Nat) (greedy : Bool) : List Char :=
  let mark :=
    if lo = 0 ∧ hi = 1 then "?"
    else if lo = 0 ∧ hi = unbounded then "*"
    else if lo = 1 ∧ hi = unbounded then "+"
    else if lo = hi then "\x7b" ++ toString lo ++ "\x7d"
    else if hi = unbounded then "\x7b" ++ toString lo ++ ",\x7d"
    else "\x7b" ++ toString lo ++ "," ++ toString hi ++ "\x7d"
  mark.toList ++ (if greedy then [] else ['?'])

def anchorText : Anchor → String
  | .textStart => "^"
  | .textEnd => "$"
  | .lineStart => "(?m:^)"
  | .lineEnd => "(?m:$)"
  | _ => ""

mutual
def write (rank : Nat) : Node → List Char
  | .any newline => if newline then "(?s:.)".toList else ['.']
  | .literal c anyCase => grouped "(?i:" anyCase (quoted c)
  | .regular text anyCase => grouped "(?i:" anyCase text
  | .anchor a => (anchorText a).toList
  | .seq ns => grouped "(?:" (1 < rank) (writeRow ns)
  | .alt ns => grouped "(?:" (0 < rank) (writeChoices ns)
  | .group _ n => '(' :: n.write 0 ++ [')']
  | .loop lo hi greedy n =>
    grouped "(?:" (2 < rank) (n.write 3 ++ repeatMark lo hi greedy)
  | .empty | .look .. | .backref _ | .hasGroup _ | .conditional .. | .atomic _ | .keepOut
  | .searchStart => []

def writeRow : List Node → List Char
  | [] => []
  | n :: ns => n.write 2 ++ writeRow ns

def writeChoices : List Node → List Char
  | [] => []
  | n :: ns =>
    match ns with
    | [] => n.write 1
    | _ => n.write 1 ++ '|' :: writeChoices ns
end

end PatternLint.Pattern.Node
