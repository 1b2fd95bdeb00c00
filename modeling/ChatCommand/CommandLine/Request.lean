import ChatCommand.CommandLine.Given

/-!
# Requests

A command line asks to judge manifests, to compile a syntax string, or to find out what a message
invokes. The format of the answer may be given before or behind the command; the latter counts.

## Main definitions

- `Format`: how answers are written.
- `Request`: what a command line asks for.
- `Call.ofWords`: the request of a command line.
-/

namespace ChatCommand.CommandLine

/-- How answers are written. -/
inductive Format where
  | json
  | yaml
  deriving DecidableEq, Repr

/-- The names of formats. -/
def Format.names : List String := ["json", "yaml"]

/-- The format of a name. -/
def Format.ofName? : String → Option Format
  | "json" => some json
  | "yaml" => some yaml
  | _ => none

/-- What a command line asks for. -/
inductive Request where
  /-- Judge the manifests at some paths; warnings may count as errors. -/
  | lint (paths : List String) (denyWarnings : Bool)
  /-- Compile a syntax string, and match a message if there is one. -/
  | compile (source : String) (declarations : List String) (sigil : String)
      (message : Option String)
  /-- Find out what a message invokes by the manifest at a path. -/
  | invoke (path : String) (sigil : Option String) (message : String)
  deriving DecidableEq, Repr

/-- A request and how its answer is written. -/
structure Call where
  format : Format
  request : Request
  deriving DecidableEq, Repr

/-! ### The commands -/

/-- The name of the program. -/
def programName : String := "syntax-check"

/-- A switch with a value. -/
def valueSwitch (name placeholder : String) (kind : ValueKind) (help : String) : Switch :=
  ⟨name, none, some ⟨placeholder, kind, none⟩, false, false, help⟩

/-- The switch for the format of the answer. -/
def formatSwitch : Switch :=
  ⟨"format", none, some ⟨"FORMAT", .oneOf Format.names, some "json"⟩, false, false,
    "Output format"⟩

/-- The switch that asks for an explanation. -/
def helpSwitch : Switch := ⟨Usage.helpName, some 'h', none, false, false, "Print help"⟩

/-- Judging manifests. The number of workers does not matter for the answer. -/
def lintUsage : Usage where
  words := [programName, "lint"]
  about := "Check command manifests for definition errors and lint warnings"
  commands := []
  operand := some ⟨"INPUTS", .path, true, true,
    "Manifest files (YAML, or JSON with a .json extension)"⟩
  switches := [formatSwitch,
    valueSwitch "jobs" "JOBS" .count
      "Number of manifests checked in parallel (default: number of CPUs)",
    ⟨"deny-warnings", none, none, false, false, "Treat lint warnings as failures"⟩,
    helpSwitch]

/-- The prefix of a syntax string, unless another one is given. -/
def defaultSigil : String := "!"

/-- Compiling a syntax string. -/
def compileUsage : Usage where
  words := [programName, "compile"]
  about := "Compile a single syntax string and print the generated pattern"
  commands := []
  operand := none
  switches := [formatSwitch,
    { valueSwitch "syntax" "SYNTAX" .text
        "Syntax string, e.g. \"<prefix>role set $1\x7bopt $2\x7d[ TIER $2]\"" with
      required := true },
    { valueSwitch "arg" "ID[:opt]" .text
        "Declared argument in order; append \":opt\" for an optional argument" with
      repeatable := true },
    ⟨"prefix", none, some ⟨"PREFIX", .text, some defaultSigil⟩, false, false,
      "Prefix substituted for <prefix>"⟩,
    valueSwitch "message" "MESSAGE" .text "Message to match against the compiled pattern",
    helpSwitch]

/-- Finding out what a message invokes. -/
def invokeUsage : Usage where
  words := [programName, "invoke"]
  about := "Dispatch a message against the commands in a manifest"
  commands := []
  operand := some ⟨"MESSAGE", .text, true, false, "Message text, including the prefix"⟩
  switches := [formatSwitch,
    { valueSwitch "manifest" "MANIFEST" .path "Manifest declaring the commands" with
      required := true },
    valueSwitch "prefix" "PREFIX" .text
      "Prefix active for the message (default: the manifest's prefix)",
    helpSwitch]

/-- Explaining a command. -/
def helpUsage : Usage where
  words := [programName, "help"]
  about := "Print this message or the help of the given subcommand(s)"
  commands := []
  operand := some ⟨"COMMAND", .text, false, true, "Print help for the subcommand(s)"⟩
  switches := []

/-- The commands by their names. -/
def commandUsages : List (String × Usage) :=
  [("lint", lintUsage), ("compile", compileUsage), ("invoke", invokeUsage), ("help", helpUsage)]

/-- The program as a whole. -/
def programUsage : Usage where
  words := [programName]
  about := "Lint, compile and try out chat command syntax strings"
  commands := commandUsages.map fun entry => (entry.1, entry.2.about)
  operand := none
  switches := [formatSwitch, helpSwitch]

/-! ### Requests of command lines -/

/-- The request to judge manifests. -/
def lintRequest (given : Given) : Except Halt Request :=
  match given.operands.reverse with
  | [] => .error (.misuse (.missing "INPUTS"))
  | paths => .ok (.lint paths (given.has "deny-warnings"))

/-- The request to compile a syntax string. -/
def compileRequest (given : Given) : Except Halt Request := do
  let source ← given.require "syntax"
  let sigil := (given.value? "prefix").getD defaultSigil
  return .compile source (given.values "arg") sigil (given.value? "message")

/-- The request to find out what a message invokes. -/
def invokeRequest (given : Given) : Except Halt Request := do
  let path ← given.require "manifest"
  match given.operands with
  | [] => .error (.misuse (.missing "MESSAGE"))
  | message :: _ => return .invoke path (given.value? "prefix") message

/-- What asking for an explanation leads to. -/
def explain : List String → Halt
  | [] => .help programUsage
  | name :: rest =>
    match commandUsages.lookup name, rest with
    | some usage, [] => .help usage
    | some _, word :: _ => .misuse (.unknownCommand word)
    | none, _ => .misuse (.unknownCommand name)

namespace Call

/-- The format that is given. -/
def format? (given : Given) : Option Format := (given.value? "format").bind Format.ofName?

/-- The call of a command, where some switches are given before the command. -/
def ofCommand (outer : Given) (usage : Usage) (request : Given → Except Halt Request)
    (words : List String) : Except Halt Call := do
  let (inner, _) ← usage.take .empty words
  let request ← request inner
  let outer ← outer.settle
  return ⟨((format? inner).or (format? outer)).getD .json, request⟩

/-- The call that the words of a command line make. -/
def ofWords (words : List String) : Except Halt Call := do
  match ← programUsage.take .empty words with
  | (outer, "lint" :: rest) => ofCommand outer lintUsage lintRequest rest
  | (outer, "compile" :: rest) => ofCommand outer compileUsage compileRequest rest
  | (outer, "invoke" :: rest) => ofCommand outer invokeUsage invokeRequest rest
  | (_, "help" :: rest) => .error (explain rest)
  | (_, word :: _) => .error (.misuse (.unknownCommand word))
  | (_, []) => .error (.misuse .noCommand)

end Call

end ChatCommand.CommandLine
