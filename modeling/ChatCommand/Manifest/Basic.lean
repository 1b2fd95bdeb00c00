import ChatCommand.Command.Constraint
import ChatCommand.Command.Registry
import ChatCommand.Directory
import ChatCommand.Json.Reader

/-!
# Manifests

A manifest is a document that declares commands under a prefix. Its commands are taken into a
registry one after the other; each is accepted or refused on its own.

## Main definitions

- `Manifest`: manifests with their commands and arguments.
- `Manifest.registerAll`: the registry of a manifest, with the commands it refuses.
- `Manifest.registry`: the registry of a manifest of which no command is refused.
- `ManifestError`: why a document yields no registry.
-/

namespace ChatCommand

/-- An argument as a manifest declares it. -/
structure ArgumentEntry where
  id : String
  name : String
  optional : Bool
  constraint : Option Constraint
  deriving DecidableEq, Repr

/-- A command as a manifest declares it. -/
structure CommandEntry where
  name : String
  /-- The syntax string. -/
  source : String
  description : Option String
  arguments : List ArgumentEntry
  deriving DecidableEq, Repr

/-- A document that declares commands. -/
structure Manifest where
  version : String
  /-- The prefix under which the commands are registered. -/
  sigil : String
  commands : List CommandEntry
  deriving DecidableEq, Repr

/-- The argument that an entry declares for a command. -/
def ArgumentEntry.toArgument (command : String) (entry : ArgumentEntry) :
    Except DefinitionError Argument :=
  match entry.constraint with
  | none => .ok ⟨entry.id, entry.name, entry.optional, none⟩
  | some constraint =>
    match constraint.toCheck with
    | .ok check => .ok ⟨entry.id, entry.name, entry.optional, some check⟩
    | .error error => .error (.constraint command entry.id error.message)

/-- The definition that an entry declares. -/
def CommandEntry.toDefinition (entry : CommandEntry) : Except DefinitionError Definition := do
  let arguments ← entry.arguments.mapM (ArgumentEntry.toArgument entry.name)
  .ok ⟨entry.name, entry.source, entry.description, arguments⟩

variable [Pattern.Builder]

namespace Registry

/-- Takes the command of an entry into a registry, unless it is refused. -/
def registerEntry (registry : Registry) (entry : CommandEntry) :
    StateM Cache (Registry × Except DefinitionError Registered) := do
  match entry.toDefinition with
  | .ok definition => registry.register definition
  | .error error => return (registry, .error error)

/-- Takes the commands of some entries into a registry, as far as they are not refused. The
second part tells the refusals in order. -/
def registerEntries (registry : Registry) :
    List CommandEntry → StateM Cache (Registry × List DefinitionError)
  | [] => return (registry, [])
  | entry :: rest => do
    let (registry, outcome) ← registry.registerEntry entry
    let (registry, refusals) ← registry.registerEntries rest
    match outcome with
    | .ok _ => return (registry, refusals)
    | .error error => return (registry, error :: refusals)

end Registry

/-- Why a document yields no registry. -/
inductive ManifestError where
  /-- The file cannot be read. -/
  | file (problem : FileProblem)
  /-- The file opens, but there is no JSON text to read. -/
  | jsonFile (problem : FileProblem)
  /-- The text is not the JSON form of a manifest. -/
  | json (problem : Json.Problem) (place : Json.Place)
  /-- The text is not the YAML form of a manifest. -/
  | yaml
  | emptyPrefix
  /-- One command is refused. -/
  | definition (error : DefinitionError)
  /-- Several commands are refused. -/
  | definitions (first second : DefinitionError) (rest : List DefinitionError)
  deriving DecidableEq, Repr

namespace ManifestError

/-- The sentence for an error. -/
def message : ManifestError → String
  | file problem => "I/O error: " ++ problem.message
  | jsonFile problem => "JSON error: " ++ problem.message
  | json problem place => "JSON error: " ++ problem.messageAt place
  | yaml => "YAML error: the document is not a manifest"
  | emptyPrefix => "invalid manifest: prefix must not be empty"
  | definition error => error.message
  | definitions first second rest =>
    let all := first :: second :: rest
    toString all.length ++ " command definitions are invalid: " ++
      "; ".intercalate (all.map DefinitionError.message)

/-- The commands that are refused. -/
def refusals : ManifestError → List DefinitionError
  | definition error => [error]
  | definitions first second rest => first :: second :: rest
  | _ => []

end ManifestError

namespace Manifest

/-- The registry of the commands that are not refused, and the refusals in order. -/
def registerAll (manifest : Manifest) : StateM Cache (Registry × List DefinitionError) :=
  (Registry.empty manifest.sigil).registerEntries manifest.commands

/-- The registry of all commands, none of which may be refused. -/
def registry (manifest : Manifest) : StateM Cache (Except ManifestError Registry) := do
  let (registry, refusals) ← manifest.registerAll
  match refusals with
  | [] => return .ok registry
  | [only] => return .error (.definition only)
  | first :: second :: rest => return .error (.definitions first second rest)

/-- Requires that a manifest is usable. -/
def checked (manifest : Manifest) : Except ManifestError Manifest :=
  if manifest.sigil.isEmpty then .error .emptyPrefix else .ok manifest

end Manifest

end ChatCommand
