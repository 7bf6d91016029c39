import PatternLint.Toml.Value

/-! Numbers, booleans and date-times, each from its whole token. -/

namespace PatternLint.Toml

def isTokenChar (c : Char) : Bool :=
  c.isAlphanum || c == '_' || c == '+' || c == '-' || c == '.' || c == ':'

def digitValue (c : Char) : Nat :=
  if c.isDigit then c.toNat - '0'.toNat
  else if 'a' ≤ c ∧ c ≤ 'z' then c.toNat - 'a'.toNat + 10
  else if 'A' ≤ c ∧ c ≤ 'Z' then c.toNat - 'A'.toNat + 10
  else 36

def numberIn (base : Nat) (ds : List Char) : Nat :=
  ds.foldl (fun n c => base * n + digitValue c) 0

/-- Digits of a base with single underscores between them, given without the underscores. -/
def digits? (base : Nat) : List Char → Option (List Char)
  | [] => none
  | [c] => if digitValue c < base then some [c] else none
  | c :: '_' :: r =>
    if digitValue c < base then (digits? base r).map (c :: ·) else none
  | c :: d :: r =>
    if digitValue c < base then (digits? base (d :: r)).map (c :: ·) else none

def plainDigits? (s : List Char) : Option (List Char) :=
  match digits? 10 s with
  | some ('0' :: _ :: _) => none
  | ds => ds

def splitSign : List Char → Bool × List Char
  | '+' :: r => (false, r)
  | '-' :: r => (true, r)
  | r => (false, r)

def fitsInt64 (i : Int) : Option Value :=
  if -0x8000000000000000 ≤ i ∧ i < 0x8000000000000000 then some (.integer i) else none

def integer? (s : List Char) : Option Value :=
  let based (base : Nat) (r : List Char) : Option Value := do
    fitsInt64 (numberIn base (← digits? base r))
  match s with
  | '0' :: 'x' :: r => based 16 r
  | '0' :: 'o' :: r => based 8 r
  | '0' :: 'b' :: r => based 2 r
  | _ => do
    let (negative, r) := splitSign s
    let n : Int := numberIn 10 (← plainDigits? r)
    fitsInt64 (if negative then -n else n)

def overflows (m : Nat) (e : Int) : Bool :=
  let magnitude : Int := (Nat.toDigits 10 m).length + e
  if m = 0 ∨ magnitude < 300 then false
  else if 310 < magnitude then true
  else
    let bound := Nat.pow 2 1024 - Nat.pow 2 970
    if 0 ≤ e then bound ≤ m * Nat.pow 10 e.toNat else bound * Nat.pow 10 (-e).toNat ≤ m

def float? (s : List Char) : Option Value := do
  let (negative, r) := splitSign s
  if r = ['i', 'n', 'f'] ∨ r = ['n', 'a', 'n'] then return .float
  let isMark (c : Char) : Bool := c == 'e' || c == 'E'
  let whole ← plainDigits? (r.takeWhile fun c => c ≠ '.' && !isMark c)
  let r := r.dropWhile fun c => c ≠ '.' && !isMark c
  let (fraction, r) ← match r with
    | '.' :: r => do
      let ds ← digits? 10 (r.takeWhile fun c => !isMark c)
      pure (ds, r.dropWhile fun c => !isMark c)
    | r => pure ([], r)
  let exponent : Int ← match r with
    | [] => if fraction.isEmpty then none else pure 0
    | _ :: r => do
      let (negative, r) := splitSign r
      let n : Int := numberIn 10 (← digits? 10 r)
      pure (if negative then -n else n)
  guard (negative || !overflows (numberIn 10 (whole ++ fraction)) (exponent - fraction.length))
  return .float

def fixed? (n : Nat) (s : List Char) : Option (Nat × List Char) :=
  let ds := s.take n
  if ds.length = n ∧ ds.all Char.isDigit then some (numberIn 10 ds, s.drop n) else none

def expect (c : Char) : List Char → Option (List Char)
  | d :: r => if c = d then some r else none
  | [] => none

def isLeapYear (y : Nat) : Bool := y % 4 == 0 && (y % 100 != 0 || y % 400 == 0)

def daysIn (year month : Nat) : Nat :=
  if month = 2 then (if isLeapYear year then 29 else 28)
  else if [4, 6, 9, 11].contains month then 30
  else 31

def date? (s : List Char) : Option (List Char) := do
  let (year, s) ← fixed? 4 s
  let (month, s) ← fixed? 2 (← expect '-' s)
  let (day, s) ← fixed? 2 (← expect '-' s)
  guard (1 ≤ month ∧ month ≤ 12 ∧ 1 ≤ day ∧ day ≤ daysIn year month)
  return s

/-- `hour:minute:second` with an optional fraction; a leap second is allowed. -/
def time? (s : List Char) : Option (List Char) := do
  let (hour, s) ← fixed? 2 s
  let (minute, s) ← fixed? 2 (← expect ':' s)
  let (second, s) ← fixed? 2 (← expect ':' s)
  guard (hour ≤ 23 ∧ minute ≤ 59 ∧ second ≤ 60)
  match s with
  | '.' :: r =>
    guard (r.head?.any Char.isDigit)
    return r.dropWhile Char.isDigit
  | r => return r

def offset? : List Char → Option Unit
  | [] => some ()
  | ['Z'] | ['z'] => some ()
  | c :: s => do
    guard (c = '+' ∨ c = '-')
    let (hour, s) ← fixed? 2 s
    let (minute, s) ← fixed? 2 (← expect ':' s)
    guard (hour ≤ 23 ∧ minute ≤ 59 ∧ s.isEmpty)

def datetime? (s : List Char) : Option Value :=
  match date? s with
  | some [] => some .datetime
  | some (c :: r) => do
    guard (c = 'T' ∨ c = 't' ∨ c = ' ')
    offset? (← time? r)
    return .datetime
  | none => do
    guard (← time? s).isEmpty
    return .datetime

def scalar? (token : List Char) : Option Value :=
  match String.ofList token with
  | "true" => some (.boolean true)
  | "false" => some (.boolean false)
  | _ => (integer? token).orElse fun _ => (float? token).orElse fun _ => datetime? token

def readScalar (s : List Char) : Option (Value × List Char) := do
  let token := s.takeWhile isTokenChar
  let rest := s.dropWhile isTokenChar
  match date? token, rest with
  | some [], ' ' :: r =>
    match fixed? 2 r with
    | some (_, ':' :: _) =>
      let time := r.takeWhile isTokenChar
      return (← scalar? (token ++ ' ' :: time), r.dropWhile isTokenChar)
    | _ => return (← scalar? token, rest)
  | _, _ => return (← scalar? token, rest)

end PatternLint.Toml
