import PatternLint.Text.Lines

/-! A few numbered lines around a finding. -/

namespace PatternLint

/-- `n` in decimal, filled up with blanks on the left to at least `width` characters. -/
def padNumber (width n : Nat) : String :=
  let digits := toString n
  "".pushn ' ' (width - digits.length) ++ digits

/-- One line of a snippet: its number counted from 1, an arrow on the line in question, its text
without carriage returns at the end. -/
def snippetLine (line : Nat) (entry : Source × Nat) : String :=
  padNumber 4 (entry.2 + 1) ++ (if entry.2 = line then " → " else "   ") ++
    String.ofList entry.1.dropTrailingReturns ++ "\n"

def snippet (text : Source) (line context : Nat) : String :=
  let lines := text.lines
  let last := min (line + context) (lines.length - 1)
  String.join (((lines.zipIdx.take (last + 1)).drop (line - context)).map (snippetLine line))

def snippetContext : Nat := 3

end PatternLint
