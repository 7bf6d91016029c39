import PatternLint.Pattern.Unicode.AgeTable
import PatternLint.Pattern.Unicode.BinaryTable
import PatternLint.Pattern.Unicode.BreakTable
import PatternLint.Pattern.Unicode.CategoryTable
import PatternLint.Pattern.Unicode.RangeText
import PatternLint.Pattern.Unicode.ScriptTable

/-! Sets of characters by the name of a property.
Names are compared loosely: case, blanks, `_`, `-` and a leading `is` do not matter. -/

namespace PatternLint.Pattern.Unicode

def looseName (name : List Char) : String :=
  let (hasIs, rest) := match name with
    | a :: b :: r => if (a == 'i' || a == 'I') && (b == 's' || b == 'S') then (true, r)
      else (false, name)
    | _ => (false, name)
  let kept := (rest.filter fun c => c.toNat < 0x80 && !(c == ' ' || c == '_' || c == '-')).map
    Char.toLower
  if hasIs && kept == ['c'] then "isc" else String.ofList kept

def sameName (loose name : String) : Bool := loose == looseName name.toList

/-- The categories and their groups: names, and the two-letter categories that each one covers. -/
def categoryNames : List (List String × List String) :=
  [
    (["Cc", "Control", "cntrl"], ["Cc"]),
    (["Cf", "Format"], ["Cf"]),
    (["Co", "Private_Use"], ["Co"]),
    (["L", "Letter"], ["Ll", "Lm", "Lo", "Lt", "Lu"]),
    (["LC", "Cased_Letter"], ["Ll", "Lt", "Lu"]),
    (["Ll", "Lowercase_Letter"], ["Ll"]),
    (["Lm", "Modifier_Letter"], ["Lm"]),
    (["Lo", "Other_Letter"], ["Lo"]),
    (["Lt", "Titlecase_Letter"], ["Lt"]),
    (["Lu", "Uppercase_Letter"], ["Lu"]),
    (["M", "Mark", "Combining_Mark"], ["Mc", "Me", "Mn"]),
    (["Mc", "Spacing_Mark"], ["Mc"]),
    (["Me", "Enclosing_Mark"], ["Me"]),
    (["Mn", "Nonspacing_Mark"], ["Mn"]),
    (["N", "Number"], ["Nd", "Nl", "No"]),
    (["Nd", "Decimal_Number", "digit"], ["Nd"]),
    (["Nl", "Letter_Number"], ["Nl"]),
    (["No", "Other_Number"], ["No"]),
    (["P", "Punctuation", "punct"], ["Pc", "Pd", "Pe", "Pf", "Pi", "Po", "Ps"]),
    (["Pc", "Connector_Punctuation"], ["Pc"]),
    (["Pd", "Dash_Punctuation"], ["Pd"]),
    (["Pe", "Close_Punctuation"], ["Pe"]),
    (["Pf", "Final_Punctuation"], ["Pf"]),
    (["Pi", "Initial_Punctuation"], ["Pi"]),
    (["Po", "Other_Punctuation"], ["Po"]),
    (["Ps", "Open_Punctuation"], ["Ps"]),
    (["S", "Symbol"], ["Sc", "Sk", "Sm", "So"]),
    (["Sc", "Currency_Symbol"], ["Sc"]),
    (["Sk", "Modifier_Symbol"], ["Sk"]),
    (["Sm", "Math_Symbol"], ["Sm"]),
    (["So", "Other_Symbol"], ["So"]),
    (["Z", "Separator"], ["Zl", "Zp", "Zs"]),
    (["Zl", "Line_Separator"], ["Zl"]),
    (["Zp", "Paragraph_Separator"], ["Zp"]),
    (["Zs", "Space_Separator"], ["Zs"])]

def ofCategories (codes : List String) : CharSet :=
  setOfText ((categoryTable.filter fun row => codes.contains row.1).flatMap Prod.snd)

def surrogates : CharSet := ⟨#[(0xD800, 0xDFFF)]⟩

def assigned : CharSet := (setOfText (categoryTable.flatMap Prod.snd)).union surrogates

def unassigned : CharSet := assigned.complement

def category? (name : String) : Option CharSet :=
  if name = "any" then some CharSet.full
  else if name = "assigned" then some assigned
  else if name = "ascii" then some ⟨#[(0x00, 0x7F)]⟩
  else if name = "cn" || name = "unassigned" then some unassigned
  else if name = "c" || name = "other" then
    some (unassigned.union (ofCategories ["Cc", "Cf", "Co"]))
  else
    (categoryNames.find? fun row => row.1.any (sameName name)).map fun row => ofCategories row.2

def scriptRow? (name : String) : Option ScriptRow :=
  scriptTable.find? fun row => row.names.any (sameName name)

def script? (name : String) : Option CharSet :=
  (scriptRow? name).map fun row => setOfText row.own

/-- The characters that are used with a script; a script for what is common to all keeps what no
other one claims. -/
def scriptUse? (name : String) : Option CharSet :=
  (scriptRow? name).map fun row =>
    if row.names.contains "Common" || row.names.contains "Inherited" then
      (setOfText row.own).diff (setOfText (scriptTable.flatMap ScriptRow.shared))
    else setOfText (row.own ++ row.shared)

def PropertyRow.chars (row : PropertyRow) : CharSet :=
  ((ofCategories row.categories).union (setOfText row.added)).diff (setOfText row.removed)

def inRows? (rows : List PropertyRow) (name : String) : Option CharSet :=
  (rows.find? fun row => row.names.any (sameName name)).map PropertyRow.chars

def age? (name : String) : Option CharSet :=
  let matching (row : String × List String) : Bool :=
    name == row.1 || name == "v" ++ String.ofList (row.1.toList.filter (· ≠ '.'))
  if ageTable.any matching then
    let before := ageTable.takeWhile fun row => !matching row
    let last := (ageTable.find? matching).toList
    some (setOfText ((before ++ last).flatMap Prod.snd))
  else none

def named? (name : List Char) : Option CharSet :=
  let loose := looseName name
  let property := if ["cf", "sc", "lc"].contains loose then none else inRows? binaryTable loose
  property <|> category? loose <|> script? loose

def valued? (name value : List Char) : Option CharSet :=
  let value := looseName value
  match looseName name with
  | "gc" | "generalcategory" => category? value
  | "sc" | "script" => script? value
  | "scx" | "scriptextensions" => scriptUse? value
  | "age" => age? value
  | "gcb" | "graphemeclusterbreak" => inRows? clusterBreaks value
  | "wb" | "wordbreak" => inRows? wordBreaks value
  | "sb" | "sentencebreak" => inRows? sentenceBreaks value
  | _ => none

def alphanumeric : CharSet :=
  (setOfText ((binaryTable.filter fun row => row.names.contains "Alphabetic").flatMap
    PropertyRow.added)).union (ofCategories ["Ll", "Lm", "Lo", "Lt", "Lu", "Nd", "Nl", "No"])

end PatternLint.Pattern.Unicode
