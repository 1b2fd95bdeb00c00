import ChatCommand.Command.Dispatch
import ChatCommand.CommandLine.Request
import ChatCommand.Manifest.Load

/-!
# Answers to requests

A request is answered with content, which is written in the format of the call. The exit status
is zero if all is well, one if a request fails or manifests are found faulty, and two if a
message does not get through or the command line is misused.

## Main definitions

- `RequestError`: why a request has no answer.
- `LintReport`, `CompileReport`: the answers about manifests and about syntax strings.
- `Outcome`: what a run of the program leaves behind.
- `run`: carries out a command line.
-/

namespace ChatCommand.CommandLine

/-- Why a request has no answer. -/
inductive RequestError where
  | unknownModifier (modifier declaration : String)
  | emptyId (declaration : String)
  | notCompiled (error : CompileError)
  | notLoaded (path : String) (error : ManifestError)
  /-- The program itself is to blame that a message invokes nothing. -/
  | notInvoked (error : InvocationError)
  deriving DecidableEq, Repr

/-- The sentence for an error. -/
def RequestError.message : RequestError → String
  | unknownModifier modifier declaration =>
    "Unknown argument modifier '" ++ modifier ++ "' in '" ++ declaration ++ "' (expected ':opt')"
  | emptyId declaration => "Argument '" ++ declaration ++ "' has an empty id"
  | notCompiled error => "Invalid syntax string: " ++ error.message
  | notLoaded path error => "Failed to load manifest '" ++ path ++ "': " ++ error.message
  | notInvoked error => error.message

/-- Content, and the exit status that goes with it. -/
structure Answer where
  content : Content
  status : Nat

/-- The record with some named fields. -/
def named (fields : List (String × Content)) : Content :=
  .record (fields.map fun field => (.text field.1, field.2))

/-- A list of texts. -/
def textList (texts : List String) : Content := .list (texts.map Content.text)

/-- A count. -/
def countContent (n : Nat) : Content := .number (.whole n)

/-! ### Manifests -/

/-- What is found about a manifest. -/
structure LintReport where
  path : String
  commands : Nat
  errors : List String
  warnings : List String
  deriving DecidableEq, Repr

namespace LintReport

/-- What is found about the manifest at a path. -/
def ofPath [Pattern.Builder] (files : Files) (path : String) : LintReport :=
  match Manifest.load files path with
  | .error error => ⟨path, 0, [error.message], []⟩
  | .ok manifest =>
    let (registry, refusals) := (manifest.registerAll.run Cache.empty).1
    ⟨path, manifest.commands.length, refusals.map DefinitionError.message,
      registry.warnings.map LintWarning.line⟩

/-- The content of a report. -/
def toContent (report : LintReport) : Content :=
  named [("path", .text report.path), ("commands", countContent report.commands),
    ("errors", textList report.errors), ("warnings", textList report.warnings)]

/-- Whether a manifest is faulty. -/
def isFaulty (denyWarnings : Bool) (report : LintReport) : Bool :=
  !report.errors.isEmpty || (denyWarnings && !report.warnings.isEmpty)

end LintReport

/-! ### Syntax strings -/

/-- The argument that a text declares: a key, or a key with the mark of an optional argument. -/
def declaredArgument (declaration : String) : Except RequestError Argument :=
  let chars := declaration.toList
  let id := String.ofList (chars.takeWhile (· ≠ ':'))
  match chars.dropWhile (· ≠ ':') with
  | [] => if id.isEmpty then .error (.emptyId declaration) else .ok (.required id id)
  | _ :: modifier =>
    if modifier ≠ "opt".toList then
      .error (.unknownModifier (String.ofList modifier) declaration)
    else if id.isEmpty then .error (.emptyId declaration)
    else .ok (.ofOptional id id)

/-- The content of a block that disagrees. -/
def inconsistencyContent (inconsistency : Inconsistency) : Content :=
  named [("argument_name", .text inconsistency.name),
    ("occurrence", countContent inconsistency.occurrence),
    ("was_present", .bool inconsistency.wasPresent)]

/-- The content of what is extracted from a message. -/
def extractionContent (extraction : Extraction) : Content :=
  let disagreeing := match extraction.inconsistencies with
    | [] => []
    | all => [("inconsistent_key_offs", Content.list (all.map inconsistencyContent))]
  named ([("succeeded", .bool extraction.succeeded),
    ("values", Content.ofJson (.object extraction.valuesAsJson))] ++ disagreeing)

/-- What is found about a syntax string. -/
structure CompileReport where
  compiled : Compiled
  arguments : List Argument
  /-- What is extracted from a message, if there is one. -/
  extraction : Option Extraction

namespace CompileReport

/-- The content of a report. -/
def toContent (report : CompileReport) : Content :=
  let compiled := report.compiled
  let counts := compiled.template.blockCounts.map fun (argument, count) =>
    (countContent argument, countContent count)
  named ([("pattern", .text compiled.source), ("keyoff_counts", .record counts),
    ("usage", .text (compiled.template.usage compiled.sigil report.arguments))] ++
    report.extraction.toList.map fun extraction => ("extraction", extractionContent extraction))

/-- The exit status that goes with a report. -/
def status (report : CompileReport) : Nat :=
  if report.extraction.all Extraction.succeeded then 0 else 2

end CompileReport

/-! ### Messages -/

/-- The content of a command with its arguments. -/
def invocationContent (invocation : Invocation) : Content :=
  named [("command", .text invocation.command),
    ("arguments", Content.ofJson (.object invocation.arguments))]

/-- The content of the refusal of a message. -/
def refusalContent (error : InvocationError) : Content :=
  named [("error", .text error.message), ("reply", .text error.reply)]

/-! ### Requests -/

/-- The answer to a request. -/
def Request.answer [Pattern.Builder] (files : Files) : Request → Except RequestError Answer
  | .lint paths denyWarnings =>
    let reports := paths.map (LintReport.ofPath files)
    .ok ⟨.list (reports.map LintReport.toContent),
      if reports.any (LintReport.isFaulty denyWarnings) then 1 else 0⟩
  | .compile source declarations sigil message => do
    let arguments ← declarations.mapM declaredArgument
    match ChatCommand.compile sigil arguments source with
    | .error error => .error (.notCompiled error)
    | .ok compiled =>
      let report : CompileReport := ⟨compiled, arguments, message.map (compiled.extract arguments)⟩
      .ok ⟨report.toContent, report.status⟩
  | .invoke path sigil message => do
    let (registry, cache) ← match Manifest.load files path with
      | .error error => .error (.notLoaded path error)
      | .ok manifest =>
        match manifest.registry.run Cache.empty with
        | (.error error, _) => .error (.notLoaded path error)
        | (.ok registry, cache) => .ok (registry, cache)
    match (registry.dispatch (sigil.getD registry.sigil) message cache).1 with
    | .ok invocation => .ok ⟨invocationContent invocation, 0⟩
    | .error error =>
      -- A refusal that the user can mend is an answer; all else is a failure of the program.
      if error.isUserError then .ok ⟨refusalContent error, 2⟩ else .error (.notInvoked error)

/-- The paths of the files that a request is about. -/
def Request.paths : Request → List String
  | .lint paths _ => paths
  | .compile _ _ _ _ => []
  | .invoke path _ _ => [path]

/-- The text of content, without white space at its end. -/
def Format.write (format : Format) (content : Content) : String :=
  let text := match format with
    | .json => content.toJson.pretty
    | .yaml => content.toYaml
  String.ofList (Text.trimEnd text.toList) ++ "\n"

/-- What a run of the program leaves behind. -/
structure Outcome where
  /-- The exit status. -/
  status : Nat
  output : String
  errors : String
  deriving DecidableEq, Repr

/-- The line that tells an error. -/
def errorLine (message : String) : String := "error: " ++ message ++ "\n"

/-- Carries out a call. -/
def Call.run [Pattern.Builder] (files : Files) (call : Call) : Outcome :=
  match call.request.answer files with
  | .ok answer => ⟨answer.status, call.format.write answer.content, ""⟩
  | .error error => ⟨1, "", errorLine error.message⟩

/-- Carries out a command line. -/
def run [Pattern.Builder] (files : Files) (words : List String) : Outcome :=
  match Call.ofWords words with
  | .ok call => call.run files
  | .error (.help usage) => ⟨0, usage.render, ""⟩
  | .error (.misuse misuse) => ⟨2, "", errorLine misuse.message⟩

/-- The paths of the files that a command line is about. -/
def paths (words : List String) : List String :=
  match Call.ofWords words with
  | .ok call => call.request.paths
  | .error _ => []

end ChatCommand.CommandLine
