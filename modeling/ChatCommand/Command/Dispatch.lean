import ChatCommand.Command.Registry
import ChatCommand.Extraction

/-!
# Dispatch

A message that opens with the active prefix goes to the command whose name is its first word.
The command's arguments are extracted and bound. Every way in which this can fail has a message
for the record and a reply for the user.

## Main definitions

- `Invocation`: a command with its arguments.
- `InvocationError`: why a message invokes no command.
- `Registry.dispatch`: what a message invokes.
-/

namespace ChatCommand

/-- A command with its arguments. -/
structure Invocation where
  command : String
  arguments : Json.Fields

/-- Why a message invokes no command. -/
inductive InvocationError where
  | notACommand
  | unknownCommand (name : String)
  | malformed (command usage : String)
  | inconsistentKeyOffs (command argument : String)
  | invalidArguments (command : String) (failure : Failure)
  | internal (command detail : String)
  deriving DecidableEq, Repr

namespace InvocationError

/-- The message for the record. -/
def message : InvocationError → String
  | notACommand => "message is not a command"
  | unknownCommand name => "unknown command `" ++ name ++ "`"
  | malformed command usage => "`" ++ command ++ "` does not match its syntax; usage: " ++ usage
  | inconsistentKeyOffs command argument =>
    "`" ++ command ++ "`: argument " ++ argument ++ " is only partly supplied"
  | invalidArguments command failure => "`" ++ command ++ "`: " ++ failure.message
  | internal command detail => "`" ++ command ++ "` could not be processed: " ++ detail

/-- The reply for the user. -/
def reply : InvocationError → String
  | notACommand => "That is not a command."
  | unknownCommand name => "Unknown command `" ++ name ++ "`."
  | malformed _ usage => "Usage: " ++ usage
  | inconsistentKeyOffs _ argument => "The " ++ argument ++ " argument was only partly supplied."
  | invalidArguments _ failure => failure.firstLine?.getD "Invalid arguments."
  | internal _ _ => "Something went wrong while reading that command."

/-- Whether the user is to blame. -/
def isUserError : InvocationError → Bool
  | internal _ _ => false
  | _ => true

end InvocationError

namespace Registry

/-- The name of the command that a trimmed message addresses under a prefix. -/
def addressed? (sigil : String) (message : List Char) : Option (List Char) := do
  let body ← Text.after? sigil.toList message
  Text.firstWord? body

variable [Pattern.Builder]

/-- What a registered command makes of a message. -/
def invoke (command : Registered) (sigil message : String) :
    StateM Cache (Except InvocationError Invocation) := do
  let definition := command.definition
  match ← extract sigil definition.arguments definition.source message with
  | .notCompiled error => return .error (.internal definition.name error.message)
  | .inconsistent first _ _ => return .error (.inconsistentKeyOffs definition.name first.name)
  | .incomplete id =>
    return .error (.internal definition.name ("required argument `" ++ id ++ "` was not captured"))
  | .mismatch => return .error (.malformed definition.name (command.usage sigil))
  | .complete values =>
    match command.specification.run (some (.object (Extraction.complete values).valuesAsJson)) with
    | .error failure => return .error (.invalidArguments definition.name failure)
    | .ok arguments => return .ok ⟨definition.name, arguments⟩

/-- What a message invokes under a prefix. -/
def dispatch (registry : Registry) (sigil message : String) :
    StateM Cache (Except InvocationError Invocation) := do
  -- The command is looked up in any letter case; its syntax is matched on the whole message.
  let trimmed := Text.trim message.toList
  match addressed? sigil trimmed with
  | none => return .error .notACommand
  | some word =>
    let name := String.ofList word
    match registry.get? name with
    | none => return .error (.unknownCommand name)
    | some command => invoke command sigil (String.ofList trimmed)

end Registry

end ChatCommand
