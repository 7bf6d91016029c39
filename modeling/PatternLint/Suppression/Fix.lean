import PatternLint.Edit
import PatternLint.Suppression.Directive
import PatternLint.Text.Blank

/-! Edits that silence a violation by writing a directive next to it. -/

namespace PatternLint

namespace Violation

/-- Appends a directive to the line of the violation, before its carriage returns.  Nothing is
offered when the line is missing or already silences the code. -/
def suppressOnLine? (v : Violation) (text : Source) : Option Suggestion :=
  let d := Document.ofText v.location.file text
  let line := v.location.line
  (d.lineText? line).bind fun current =>
    if Directive.anyIn v.code .sameLine current then none
    else
      let body := current.dropTrailingReturns
      some
        { message := "Suppress " ++ v.code ++ " on this line"
          replacement :=
            { location :=
                { file := v.location.file
                  line := line
                  column := body.length
                  offset := d.offsetFor line 0 + body.byteLen
                  length := 0 }
              newText := ' ' :: (Directive.mk .lineComment .sameLine v.code).render } }

/-- Inserts a line with a directive above the violation, indented like its line.  Nothing is
offered when the line is missing or the line above already silences the code. -/
def suppressOnPreviousLine? (v : Violation) (text : Source) : Option Suggestion :=
  let d := Document.ofText v.location.file text
  let line := v.location.line
  (d.lineText? line).bind fun current =>
    if (lineAbove d.lineText? line).any (Directive.anyIn v.code .nextLine) then none
    else
      some
        { message := "Suppress " ++ v.code ++ " on next line"
          replacement :=
            { location :=
                { file := v.location.file
                  line := line
                  column := 0
                  offset := d.offsetFor line 0
                  length := 0 }
              newText :=
                current.indent ++ (Directive.mk .lineComment .nextLine v.code).render ++ ['\n'] } }

def suppressionFixes (v : Violation) (text : Source) : List Suggestion :=
  (v.suppressOnPreviousLine? text).toList ++ (v.suppressOnLine? text).toList

end Violation

end PatternLint
