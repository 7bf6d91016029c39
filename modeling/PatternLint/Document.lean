import PatternLint.Text.Comment
import PatternLint.Text.Lines
import PatternLint.Path

/-! One document as an analysis pass sees it: its text with the line and comment tables, built
once and shared by every rule. -/

namespace PatternLint

structure Document where
  path : Path
  text : Source
  lines : LineIndex
  comments : CommentIndex

namespace Document

def ofText (path : Path) (text : Source) : Document where
  path := path
  text := text
  lines := LineIndex.ofSource text
  comments := CommentIndex.detect text

/-- Line and column of a byte offset; the column is 0 when the offset cuts a character or lies
past the end. -/
def position (d : Document) (offset : Nat) : Nat × Nat :=
  let line := d.lines.lineOf offset
  let start := match d.lines.lineRange? line with
    | some (start, _) => start
    | none => 0
  (line, ((d.text.slice? start offset).map List.length).getD 0)

def lineText? (d : Document) (line : Nat) : Option Source :=
  (d.lines.lineRange? line).bind fun (start, stop) => d.text.slice? start stop

/-- Byte offset of a line and column.  Columns past the end of the line mean its end, lines past
the end of the text mean the end of the text. -/
def offsetFor (d : Document) (line column : Nat) : Nat :=
  match d.lines.lineRange? line with
  | none => d.text.byteLen
  | some (start, stop) =>
    let text := (d.text.slice? start stop).getD []
    if column < text.length then start + Source.byteLen (text.take column) else stop

end Document

end PatternLint
