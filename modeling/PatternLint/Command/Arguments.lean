import PatternLint.Command
import PatternLint.Workspace

/-! Reading command lines.
Arguments are read from left to right, and the first fault, or the first wish for help or for the
version, settles the outcome.  A value may stand in the same argument as its option, after `=` or
directly after a short name, or in the next argument unless that looks like an option.  After `--`
nothing is an option. -/

namespace PatternLint.Arguments

inductive OptionKind where
  | flag
  | value (test : String → Bool) (repeatable : Bool)

structure OptionSpec where
  name : String
  short : Option Char
  kind : OptionKind

namespace OptionSpec

def isRepeatable (o : OptionSpec) : Bool :=
  match o.kind with
  | .flag => false
  | .value _ repeatable => repeatable

def accepts (o : OptionSpec) (value : String) : Bool :=
  match o.kind with
  | .flag => true
  | .value test _ => test value

end OptionSpec

/-- What may stand on one level of a command line: before a command's name, or after it. -/
structure Level where
  options : List OptionSpec
  /-- The tests that values without an option have to pass, one for each. -/
  operands : List (String → Bool)
  hasCommands : Bool

structure Reading where
  /-- Options with their values, in order; flags have the empty value. -/
  given : List (String × String)
  operands : List String
  deriving Repr, DecidableEq

namespace Reading

def empty : Reading := ⟨[], []⟩

def has (r : Reading) (name : String) : Bool := r.given.any fun e => e.1 == name

def value? (r : Reading) (name : String) : Option String := r.given.lookup name

def values (r : Reading) (name : String) : List String :=
  (r.given.filter fun e => e.1 == name).map Prod.snd

def record (r : Reading) (spec : OptionSpec) (value : String) : Except Refusal Reading :=
  if r.has spec.name && !spec.isRepeatable then
    .error (.usage ("the argument '--" ++ spec.name ++ "' cannot be used multiple times"))
  else if !spec.accepts value then
    .error (.usage ("invalid value '" ++ value ++ "' for '--" ++ spec.name ++ "'"))
  else .ok { r with given := r.given ++ [(spec.name, value)] }

def operand (r : Reading) (level : Level) (value : String) : Except Refusal Reading :=
  match level.operands[r.operands.length]? with
  | none => .error (.usage ("unexpected argument '" ++ value ++ "' found"))
  | some accepts =>
    if accepts value then .ok { r with operands := r.operands ++ [value] }
    else .error (.usage "a value is required but none was supplied")

def operandsOf (level : Level) (r : Reading) : List String → Except Refusal Reading
  | [] => .ok r
  | a :: as => do operandsOf level (← r.operand level a) as

end Reading

def looksLikeOption (a : String) : Bool := a.startsWith "-" && a != "-"

def unexpected (a : String) : Refusal := .usage ("unexpected argument '" ++ a ++ "' found")

/-- A group of short names; an option that still needs its value is handed back. -/
def readShort (level : Level) (r : Reading) :
    List Char → Except Refusal (Reading × Option OptionSpec)
  | [] => .ok (r, none)
  | c :: cs =>
    if c = 'h' then .error .help
    else if c = 'V' ∧ level.hasCommands then .error .version
    else
      match level.options.find? fun o => o.short == some c with
      | none => .error (unexpected ("-" ++ String.singleton c))
      | some spec =>
        match spec.kind, cs with
        | .flag, _ => do readShort level (← r.record spec "") cs
        | .value .., [] => .ok (r, some spec)
        | .value .., '=' :: v => do return (← r.record spec (String.ofList v), none)
        | .value .., v => do return (← r.record spec (String.ofList v), none)

def readLong (level : Level) (r : Reading) (name : String) (attached : Option String) :
    Except Refusal (Reading × Option OptionSpec) :=
  if name == "help" && attached.isNone then .error .help
  else if name == "version" && attached.isNone && level.hasCommands then .error .version
  else
    match level.options.find? fun o => o.name == name with
    | none => .error (unexpected ("--" ++ name))
    | some spec =>
      match spec.kind, attached with
      | .flag, none => do return (← r.record spec "", none)
      | .flag, some _ => .error (.usage ("unexpected value for '--" ++ name ++ "' found"))
      | .value .., none => .ok (r, some spec)
      | .value .., some v => do return (← r.record spec v, none)

def readOption (level : Level) (r : Reading) (arg : List Char) :
    Except Refusal (Reading × Option OptionSpec) :=
  match arg with
  | '-' :: '-' :: body =>
    let name := String.ofList (body.takeWhile (· ≠ '='))
    match body.dropWhile (· ≠ '=') with
    | [] => readLong level r name none
    | _ :: v => readLong level r name (some (String.ofList v))
  | _ :: body => readShort level r body
  | [] => .ok (r, none)

/-- Reads one level; where commands are possible, the first value that belongs to no option is
handed back as the name of one, with what follows it. -/
def readLevel (level : Level) (r : Reading) :
    List String → Except Refusal (Reading × Option (String × List String))
  | [] => .ok (r, none)
  | arg :: rest =>
    if arg == "--" then do return (← Reading.operandsOf level r rest, none)
    else if looksLikeOption arg then
      match readOption level r arg.toList with
      | .error e => .error e
      | .ok (r, none) => readLevel level r rest
      | .ok (r, some spec) =>
        match rest with
        | v :: rest =>
          if looksLikeOption v then
            .error (.usage ("a value is required for '--" ++ spec.name ++ "'"))
          else do readLevel level (← r.record spec v) rest
        | [] => .error (.usage ("a value is required for '--" ++ spec.name ++ "'"))
    else if level.hasCommands then .ok (r, some (arg, rest))
    else do readLevel level (← r.operand level arg) rest
termination_by args => args.length

def sharedOptions : List OptionSpec :=
  [⟨"verbose", some 'v', .flag⟩, ⟨"config", some 'c', .value (!·.isEmpty) false⟩]

def topLevel : Level := ⟨sharedOptions, [], true⟩

def anything (_ : String) : Bool := true

def isSeverity (s : String) : Bool := (Severity.parse? s).isSome

def checkLevel : Level where
  options := sharedOptions ++
    [⟨"format", some 'f', .value (fun s => (ReportFormat.ofName? s).isSome) false⟩,
      ⟨"exclude", some 'e', .value anything true⟩,
      ⟨"preset", none, .value (fun s => (Preset.parse? s).isSome) false⟩,
      ⟨"fail-on", none, .value isSeverity false⟩]
  operands := [(!·.isEmpty)]
  hasCommands := false

def listRulesLevel : Level where
  options := sharedOptions ++
    [⟨"category", none, .value anything false⟩, ⟨"severity", none, .value isSeverity false⟩]
  operands := []
  hasCommands := false

def explainLevel : Level := ⟨sharedOptions, [anything], false⟩

def initLevel : Level := ⟨sharedOptions ++ [⟨"force", none, .flag⟩], [], false⟩

def commandLevels : List (String × Level) :=
  [("check", checkLevel), ("list-rules", listRulesLevel), ("explain", explainLevel),
    ("init", initLevel)]

def commandOf (name : String) (r : Reading) : Except Refusal Command :=
  match name with
  | "check" =>
    .ok (.check {
      path := r.operands.head?.map Path.mk
      format := ((r.value? "format").bind ReportFormat.ofName?).getD .text
      exclude := r.values "exclude"
      preset := (r.value? "preset").bind Preset.parse?
      failOn := (r.value? "fail-on").bind Severity.parse? })
  | "list-rules" =>
    .ok (.listRules (r.value? "category") ((r.value? "severity").bind Severity.parse?))
  | "explain" =>
    match r.operands.head? with
    | some code => .ok (.explain code)
    | none => .error (.usage "the following required arguments were not provided: <CODE>")
  | "init" => .ok (.init (r.has "force"))
  | _ => .error (.usage ("unrecognized subcommand '" ++ name ++ "'"))

def helpFor (names : List String) : Refusal :=
  match names with
  | [] => .help
  | [n] =>
    if n == "help" || (commandLevels.lookup n).isSome then .help
    else .usage ("unrecognized subcommand '" ++ n ++ "'")
  | _ :: n :: _ => .usage ("unrecognized subcommand '" ++ n ++ "'")

def configVariable : String := "AUTOSAR_LINT_CONFIG"

/-- The configuration asked for: the option after the command comes before the one in front of it,
and either before the variable.  A variable that is consulted has to have a value. -/
def chosenConfig (w : Workspace) (outer inner : Reading) : Except Refusal (Option Path) :=
  let option := (inner.value? "config").or (outer.value? "config")
  match w.valueOf? configVariable with
  | none => .ok (option.map Path.mk)
  | some v =>
    if v.isEmpty && !(outer.has "config" && inner.has "config") then
      .error (.usage "a value is required for '--config'")
    else .ok (some ⟨option.getD v⟩)

end PatternLint.Arguments

namespace PatternLint

open Arguments in
def Invocation.parse (w : Workspace) (args : List String) : Except Refusal Invocation := do
  let (outer, command) ← readLevel topLevel .empty args
  match command with
  | none => throw (.usage "a subcommand is required")
  | some (name, rest) =>
    if name == "help" then throw (helpFor rest)
    match commandLevels.lookup name with
    | none => throw (.usage ("unrecognized subcommand '" ++ name ++ "'"))
    | some level =>
      let (inner, _) ← readLevel level .empty rest
      let command ← commandOf name inner
      return {
        config := ← chosenConfig w outer inner
        verbose := outer.has "verbose" || inner.has "verbose"
        command := command }

end PatternLint
