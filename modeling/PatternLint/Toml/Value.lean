/-! Values of a TOML document. -/

namespace PatternLint.Toml

/-- Floats and date-times are checked when they are read but never used, so they carry nothing. -/
inductive Value where
  | string (s : String)
  | integer (i : Int)
  | boolean (b : Bool)
  | float
  | datetime
  | array (items : List Value)
  | table (entries : List (String × Value))
  deriving Inhabited

namespace Value

def string? : Value → Option String
  | .string s => some s
  | _ => none

def boolean? : Value → Option Bool
  | .boolean b => some b
  | _ => none

def natural? : Value → Option Nat
  | .integer i => if 0 ≤ i then some i.toNat else none
  | _ => none

def strings? : Value → Option (List String)
  | .array vs => vs.mapM string?
  | _ => none

/-- The entries of a mapping.  A date-time counts as a mapping with one reserved entry. -/
def mapping? : Value → Option (List (String × Value))
  | .table es => some es
  | .datetime => some [("$__toml_private_datetime", .string "")]
  | _ => none

end Value

/-- Named fields, which may also be written as an array in the order of the fields. -/
inductive Record where
  | named (entries : List (String × Value))
  | positional (items : List Value)

namespace Record

def ofValue? : Value → Option Record
  | .array vs => some (.positional vs)
  | v => v.mapping?.map .named

def get? (r : Record) (position : Nat) (name : String) : Option Value :=
  match r with
  | .named es => es.lookup name
  | .positional vs => vs[position]?

def required {α : Type} (r : Record) (position : Nat) (name : String) (read : Value → Option α) :
    Option α :=
  (r.get? position name).bind read

def optional {α : Type} (r : Record) (position : Nat) (name : String) (read : Value → Option α)
    (absent : α) : Option α :=
  match r.get? position name with
  | none => some absent
  | some v => read v

def hasOnly (r : Record) (names : List String) : Bool :=
  match r with
  | .named es => es.all fun e => names.contains e.1
  | .positional _ => true

end Record

end PatternLint.Toml
