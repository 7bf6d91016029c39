import PatternLint.Toml.Scalar

/-! The four kinds of TOML strings. -/

namespace PatternLint.Toml

/-- Characters that may stand in strings and comments: no controls other than the tab. -/
def isPlain (c : Char) : Bool := c == '\t' || (' ' ≤ c && c ≠ '\x7f')

def scalarValue? (ds : List Char) : Option Char :=
  let n := numberIn 16 ds
  if ds.all (fun c => digitValue c < 16) && n.isValidChar then some (Char.ofNat n) else none

def simpleEscape? : Char → Option Char
  | 'b' => some '\x08'
  | 't' => some '\t'
  | 'n' => some '\n'
  | 'f' => some '\x0c'
  | 'r' => some '\r'
  | '"' => some '"'
  | '\\' => some '\\'
  | _ => none

def escape? : List Char → Option (Char × List Char)
  | 'u' :: a :: b :: c :: d :: r => (scalarValue? [a, b, c, d]).map (·, r)
  | 'U' :: a :: b :: c :: d :: e :: f :: g :: h :: r =>
    (scalarValue? [a, b, c, d, e, f, g, h]).map (·, r)
  | c :: r => (simpleEscape? c).map (·, r)
  | [] => none

def basic? (acc : List Char) (s : List Char) : Option (String × List Char) :=
  match s with
  | [] => none
  | '"' :: r => some (String.ofList acc.reverse, r)
  | '\\' :: r =>
    match escape? r with
    | some (c, rest) => if rest.length ≤ r.length then basic? (c :: acc) rest else none
    | none => none
  | c :: r => if isPlain c then basic? (c :: acc) r else none
termination_by s.length

def literal? : List Char → List Char → Option (String × List Char)
  | _, [] => none
  | acc, c :: r =>
    if c = '\'' then some (String.ofList acc.reverse, r)
    else if isPlain c then literal? (c :: acc) r
    else none

def newline? : List Char → Option (List Char)
  | '\n' :: r => some r
  | '\r' :: '\n' :: r => some r
  | _ => none

def isBlank (c : Char) : Bool := c == ' ' || c == '\t'

def dropBlanks (s : List Char) : List Char := s.dropWhile isBlank

def dropLines (s : List Char) : List Char :=
  match s with
  | '\n' :: r => dropLines r
  | '\r' :: '\n' :: r => dropLines r
  | c :: r => if isBlank c then dropLines r else s
  | [] => []

def quotesAtStart (quote : Char) (s : List Char) : Nat := ((s.take 5).takeWhile (· == quote)).length

/-- The rest of a string of several lines, from after its opening quotes.  At its end up to two
quotes may belong to it, line ends are kept as `\n`, and in a basic string a backslash at the end
of a line takes the line end and all white space after it away. -/
def multiline? (quote : Char) (acc : List Char) (s : List Char) : Option (String × List Char) :=
  match s with
  | [] => none
  | '\r' :: '\n' :: r => multiline? quote ('\n' :: acc) r
  | '\n' :: r => multiline? quote ('\n' :: acc) r
  | c :: r =>
    if c = quote then
      let n := quotesAtStart quote s
      if 3 ≤ n then some (String.ofList ((List.replicate (n - 3) quote) ++ acc).reverse, s.drop n)
      else multiline? quote (c :: acc) r
    else if c = '\\' && quote == '"' then
      match (newline? (dropBlanks r)).map dropLines with
      | some rest => if rest.length ≤ r.length then multiline? quote acc rest else none
      | none =>
        match escape? r with
        | some (c, rest) =>
          if rest.length ≤ r.length then multiline? quote (c :: acc) rest else none
        | none => none
    else if isPlain c then multiline? quote (c :: acc) r
    else none
termination_by s.length

def readString (s : List Char) : Option (String × List Char) :=
  let body (r : List Char) : List Char := (newline? r).getD r
  match s with
  | '"' :: '"' :: '"' :: r => multiline? '"' [] (body r)
  | '\'' :: '\'' :: '\'' :: r => multiline? '\'' [] (body r)
  | '"' :: r => basic? [] r
  | '\'' :: r => literal? [] r
  | _ => none

end PatternLint.Toml
