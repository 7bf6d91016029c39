import PatternLint.Registry

/-! Rule catalogs: lists of rules as they are written down, before anything is compiled.
Loading is all or nothing.  A catalog that cannot be read fails first; then its rules are checked
in order, each for a code, a severity and a pattern; codes are compared only when everything has
been loaded. -/

namespace PatternLint

structure CatalogEntry where
  code : String
  severity : String
  category : String
  pattern : String
  dotMatchesNewline : Bool := false
  message : String
  description : String := ""
  rationale : Option String := none
  remediation : Option String := none
  deriving Repr, DecidableEq

abbrev Catalog := List CatalogEntry

inductive CatalogError where
  | io (path : Path) (cause : ReadError)
  /-- The text is no catalog. -/
  | toml (text : String)
  | definition (cause : RuleError)
  deriving Repr, DecidableEq

def CatalogError.message : CatalogError → String
  | .io path cause => "failed to read rule catalog " ++ path.spelling ++ ": " ++ cause.message
  | .toml _ => "TOML parse error"
  | .definition cause => cause.message

namespace CatalogEntry

def fields : List String :=
  ["code", "severity", "category", "pattern", "dot-matches-newline", "message", "description",
    "rationale", "remediation"]

open Toml in
def read? (v : Value) : Option CatalogEntry := do
  let r ← Record.ofValue? v
  guard (r.hasOnly fields)
  return {
    code := ← r.required 0 "code" Value.string?
    severity := ← r.required 1 "severity" Value.string?
    category := ← r.required 2 "category" Value.string?
    pattern := ← r.required 3 "pattern" Value.string?
    dotMatchesNewline := ← r.optional 4 "dot-matches-newline" Value.boolean? false
    message := ← r.required 5 "message" Value.string?
    description := ← r.optional 6 "description" Value.string? ""
    rationale := ← r.optional 7 "rationale" (fun v => v.string?.map some) none
    remediation := ← r.optional 8 "remediation" (fun v => v.string?.map some) none }

def compile (options : PatternOptions) (index : Nat) (e : CatalogEntry) :
    Except RuleError Rule := do
  if (trimmed e.code).isEmpty then throw (.emptyCode index)
  match Severity.parse? e.severity with
  | none => throw (.unknownSeverity e.code e.severity)
  | some severity =>
    match Pattern.compile e.pattern { options with dotMatchesNewline := e.dotMatchesNewline } with
    | .error cause => throw (.invalidPattern e.code cause)
    | .ok pattern =>
      return {
        code := e.code
        severity := severity
        category := e.category
        pattern := pattern
        message := e.message
        description := e.description
        rationale := e.rationale
        remediation := e.remediation }

end CatalogEntry

namespace Catalog

open Toml in
def read? (v : Value) : Option Catalog := do
  let r ← Record.ofValue? v
  r.optional 0 "rules" (fun
    | .array vs => vs.mapM CatalogEntry.read?
    | _ => none) []

def parse (text : String) : Except CatalogError Catalog :=
  match (Toml.parse? text).bind read? with
  | some c => .ok c
  | none => .error (.toml text)

def compileFrom (options : PatternOptions) (index : Nat) :
    Catalog → Except RuleError (List Rule)
  | [] => .ok []
  | e :: es => do
    let r ← e.compile options index
    return r :: (← compileFrom options (index + 1) es)

def compile (c : Catalog) (options : PatternOptions) : Except RuleError (List Rule) :=
  compileFrom options 0 c

def loadRules (text : String) (options : PatternOptions) : Except CatalogError (List Rule) := do
  let c ← parse text
  (c.compile options).mapError .definition

def loadAll (options : PatternOptions) : List String → Except CatalogError (List Rule)
  | [] => .ok []
  | text :: texts => do
    let rules ← loadRules text options
    return rules ++ (← loadAll options texts)

def loadRegistry (texts : List String) (options : PatternOptions) :
    Except CatalogError Registry := do
  (Registry.ofRules (← loadAll options texts)).mapError .definition

end Catalog

end PatternLint
