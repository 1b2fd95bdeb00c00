import ChatCommand.Binding
import ChatCommand.Command.Definition
import ChatCommand.Text.Lowercase

/-!
# Registries

A registry holds the commands that were accepted so far under a prefix. Names that differ in
letter case only are one name. Each definition is judged when it comes, and one that is refused
leaves the registry as it was.

## Main definitions

- `Registry`: accepted commands, by their names in lower case.
- `Registry.register`: takes a definition into a registry.
- `Registry.get?`: looks a command up.
-/

namespace ChatCommand

/-- A command that was accepted. -/
structure Registered where
  definition : Definition
  template : Template
  warnings : List LintWarning

namespace Registered

/-- The check of the command's arguments. -/
def specification (command : Registered) : Check Json.Fields :=
  ChatCommand.specification command.definition.arguments

/-- What users are told to write under a prefix. -/
def usage (command : Registered) (sigil : String) : String :=
  command.template.usage sigil command.definition.arguments

end Registered

/-- The commands accepted under a prefix, sorted by their names in lower case. -/
structure Registry where
  sigil : String
  commands : List (String × Registered)

namespace Registry

/-- A registry without commands. -/
def empty (sigil : String) : Registry := ⟨sigil, []⟩

/-- The number of commands. -/
def size (registry : Registry) : Nat := registry.commands.length

/-- The command with a name, in any letter case. -/
def get? (registry : Registry) (name : String) : Option Registered :=
  Json.Fields.get? (Text.lowercase name) registry.commands

/-- The warnings about all commands. -/
def warnings (registry : Registry) : List LintWarning :=
  registry.commands.flatMap fun entry => entry.2.warnings

/-- The first element of a list that equals an earlier one. -/
def firstRepeated? (seen : List String) : List String → Option String
  | [] => none
  | id :: rest => if id ∈ seen then some id else firstRepeated? (id :: seen) rest

/-- Whether a name can be the name of a command. -/
def isValidName (name : String) : Bool :=
  !name.isEmpty && name.toList.all (!Text.isBlank ·)

variable [Pattern.Builder]

/-- Judges a definition. -/
def prepare (registry : Registry) (definition : Definition) :
    StateM Cache (Except DefinitionError Registered) := do
  -- Only a definition that is fine otherwise is compiled, and so kept in the cache.
  if !isValidName definition.name then return .error (.invalidName definition.name)
  if (registry.get? definition.name).isSome then
    return .error (.duplicateCommand definition.name)
  match firstRepeated? [] (definition.arguments.map Argument.id) with
  | some id => return .error (.duplicateArgument definition.name id)
  | none =>
    match ← Cache.getOrCompile registry.sigil definition.arguments definition.source with
    | .error error => return .error (.badSyntax definition.name error)
    | .ok compiled =>
      return .ok ⟨definition, compiled.template, definition.lint compiled.template⟩

/-- A registry with a command under its name, unless there is one already, and the command that is
under this name. -/
def store (registry : Registry) (command : Registered) : Registry × Registered :=
  let (stored, commands) := Json.Fields.getOrInsert (Text.lowercase command.definition.name)
    command registry.commands
  ({ registry with commands }, stored)

/-- Takes a definition into a registry, unless it is refused. -/
def register (registry : Registry) (definition : Definition) :
    StateM Cache (Registry × Except DefinitionError Registered) := do
  match ← registry.prepare definition with
  | .ok command =>
    let (after, stored) := registry.store command
    return (after, .ok stored)
  | .error error => return (registry, .error error)

end Registry

end ChatCommand
