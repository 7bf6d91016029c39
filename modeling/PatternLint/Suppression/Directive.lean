import PatternLint.Document

/-! Directives in comments that silence one rule on one line.
A directive names a rule code in one of four written forms, for the line it stands on or for the
line below.  A form that ends in the code counts only when no further code character follows, so
a longer code does not silence a shorter one. -/

namespace PatternLint

inductive DirectiveForm where
  | lineComment
  | blockComment
  | nolint
  | suppress
  deriving Repr, DecidableEq

namespace DirectiveForm

def all : List DirectiveForm := [.lineComment, .blockComment, .nolint, .suppress]

def name : DirectiveForm → String
  | .lineComment => "line_comment"
  | .blockComment => "block_comment"
  | .nolint => "nolint"
  | .suppress => "suppress"

end DirectiveForm

inductive DirectiveScope where
  | sameLine
  | nextLine
  deriving Repr, DecidableEq

structure Directive where
  form : DirectiveForm
  scope : DirectiveScope
  code : String
  deriving Repr, DecidableEq

namespace Directive

def opening : DirectiveForm → DirectiveScope → String
  | .lineComment, .sameLine => "// autosar-disable-line "
  | .lineComment, .nextLine => "// autosar-disable-next-line "
  | .blockComment, .sameLine => "/* autosar-disable-line "
  | .blockComment, .nextLine => "/* autosar-disable-next-line "
  | .nolint, .sameLine => "// NOLINT("
  | .nolint, .nextLine => "// NOLINTNEXTLINE("
  | .suppress, .sameLine => "// suppress-line: "
  | .suppress, .nextLine => "// suppress-next-line: "

def closing : DirectiveForm → String
  | .lineComment => ""
  | .blockComment => " */"
  | .nolint => ")"
  | .suppress => ""

def render (d : Directive) : Source :=
  (opening d.form d.scope).toList ++ d.code.toList ++ (closing d.form).toList

def isCodeChar (c : Char) : Bool := c.isAlphanum || c == '-' || c == '_'

/-- What follows each occurrence of a non-empty `needle`, found from left to right without
overlap; the next `skip` characters belong to the occurrence before. -/
def tailsAfter (needle : Source) (skip : Nat) : Source → List Source
  | [] => []
  | c :: s =>
    if 0 < skip then tailsAfter needle (skip - 1) s
    else if needle.isPrefixOf (c :: s) then
      (c :: s).drop needle.length :: tailsAfter needle (needle.length - 1) s
    else tailsAfter needle 0 s

def appearsIn (d : Directive) (line : Source) : Bool :=
  let openEnded := d.code.toList.isSuffixOf d.render
  (tailsAfter d.render 0 line).any fun rest =>
    !openEnded || !rest.head?.any isCodeChar

def forms (code : String) (scope : DirectiveScope) : List Directive :=
  DirectiveForm.all.map fun form => ⟨form, scope, code⟩

def anyIn (code : String) (scope : DirectiveScope) (line : Source) : Bool :=
  (forms code scope).any fun d => d.appearsIn line

end Directive

/-- Whether `code` is silenced on a line, given its text and that of the line above. -/
def isLineSuppressed (current previous : Option Source) (code : String) : Bool :=
  current.any (Directive.anyIn code .sameLine) || previous.any (Directive.anyIn code .nextLine)

def lineAbove (lines : Nat → Option Source) : Nat → Option Source
  | 0 => none
  | line + 1 => lines line

/-- Whether `code` is silenced on a line of a text, read off the pieces between newlines. -/
def isSuppressed (text : Source) (line : Nat) (code : String) : Bool :=
  let lines := text.lines
  isLineSuppressed lines[line]? (lineAbove (fun i => lines[i]?) line) code

def Document.isSuppressed (d : Document) (line : Nat) (code : String) : Bool :=
  isLineSuppressed (d.lineText? line) (lineAbove d.lineText? line) code

end PatternLint
