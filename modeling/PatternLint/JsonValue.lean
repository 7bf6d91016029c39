/-! JSON values and their indented text. -/

namespace PatternLint

inductive JsonValue where
  | null
  | bool (b : Bool)
  | integer (i : Int)
  /-- A number written with a fraction or an exponent; nothing reads one, so it carries nothing. -/
  | decimal
  | string (s : String)
  | array (items : List JsonValue)
  | object (entries : List (String × JsonValue))
  deriving Inhabited

namespace JsonValue

def string? : JsonValue → Option String
  | .string s => some s
  | _ => none

def count? : JsonValue → Option Nat
  | .integer i => if 0 ≤ i ∧ i < 0x10000000000000000 then some i.toNat else none
  | _ => none

/-- The values of named fields, in the order of `names`.  They stand in an object, where others
are ignored, or in an array that holds nothing after them. -/
def fields? (names : List String) : JsonValue → Option (List (Option JsonValue))
  | .object es => some (names.map fun n => es.lookup n)
  | .array vs =>
    if vs.length ≤ names.length then
      some (vs.map some ++ List.replicate (names.length - vs.length) none)
    else none
  | _ => none

def hexDigit (n : Nat) : Char := if n < 10 then Char.ofNat (48 + n) else Char.ofNat (87 + n)

def escapeChar (c : Char) : List Char :=
  match c with
  | '"' => ['\\', '"']
  | '\\' => ['\\', '\\']
  | '\n' => ['\\', 'n']
  | '\r' => ['\\', 'r']
  | '\t' => ['\\', 't']
  | '\x08' => ['\\', 'b']
  | '\x0c' => ['\\', 'f']
  | c =>
    if c.toNat < 0x20 then ['\\', 'u', '0', '0', hexDigit (c.toNat / 16), hexDigit (c.toNat % 16)]
    else [c]

def quote (s : String) : String := "\"" ++ String.ofList (s.toList.flatMap escapeChar) ++ "\""

def newLine (depth : Nat) : String := "\n" ++ "".pushn ' ' (2 * depth)

mutual
def pretty (depth : Nat) : JsonValue → String
  | .null => "null"
  | .bool b => if b then "true" else "false"
  | .integer i => toString i
  | .decimal => "0.0"
  | .string s => quote s
  | .array [] => "[]"
  | .array (v :: vs) =>
    "[" ++ newLine (depth + 1) ++ pretty (depth + 1) v ++ prettyItems (depth + 1) vs ++
      newLine depth ++ "]"
  | .object [] => "\x7b\x7d"
  | .object ((k, v) :: es) =>
    "\x7b" ++ newLine (depth + 1) ++ quote k ++ ": " ++ pretty (depth + 1) v ++
      prettyEntries (depth + 1) es ++ newLine depth ++ "\x7d"

def prettyItems (depth : Nat) : List JsonValue → String
  | [] => ""
  | v :: vs => "," ++ newLine depth ++ pretty depth v ++ prettyItems depth vs

def prettyEntries (depth : Nat) : List (String × JsonValue) → String
  | [] => ""
  | (k, v) :: es =>
    "," ++ newLine depth ++ quote k ++ ": " ++ pretty depth v ++ prettyEntries depth es
end

end JsonValue

end PatternLint
