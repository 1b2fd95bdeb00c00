import ChatCommand.Argument
import ChatCommand.Compilation

/-!
# Command definitions

A definition declares a command. Some definitions are refused, for one of the reasons in
`DefinitionError`; others are accepted with warnings, because messages could hardly reach the
command or one of its arguments.

## Main definitions

- `Definition`: commands as they are declared.
- `Definition.lint`: the warnings about a definition with its template.
-/

namespace ChatCommand

/-- A command as it is declared. -/
structure Definition where
  name : String
  /-- The syntax string. -/
  source : String
  description : Option String
  arguments : List Argument

/-- Why a definition is refused. -/
inductive DefinitionError where
  | invalidName (name : String)
  | duplicateCommand (name : String)
  | duplicateArgument (command id : String)
  | constraint (command argument detail : String)
  | badSyntax (command : String) (error : CompileError)
  deriving DecidableEq, Repr

namespace DefinitionError

/-- The name of the command that is refused. -/
def command : DefinitionError → String
  | invalidName name | duplicateCommand name => name
  | duplicateArgument command _ | constraint command _ _ | badSyntax command _ => command

/-- The sentence for an error. -/
def message : DefinitionError → String
  | invalidName name => "invalid command name " ++ Text.quoted name
  | duplicateCommand name => "command `" ++ name ++ "` is already registered"
  | duplicateArgument command id =>
    "command `" ++ command ++ "` declares argument `" ++ id ++ "` more than once"
  | constraint command argument detail =>
    "command `" ++ command ++ "`, argument `" ++ argument ++ "`: " ++ detail
  | badSyntax command error =>
    "command `" ++ command ++ "` has an invalid syntax string: " ++ error.message

end DefinitionError

/-! ### Warnings -/

/-- What a definition is warned about. -/
inductive LintProblem where
  | neverReferenced (id : String)
  | noBlock (id : String)
  | otherFirstWord
  deriving DecidableEq, Repr

/-- A warning about a command. -/
structure LintWarning where
  command : String
  problem : LintProblem
  deriving DecidableEq, Repr

namespace LintWarning

/-- The sentence for a warning, without the command. -/
def message (warning : LintWarning) : String :=
  match warning.problem with
  | .neverReferenced id => "required argument `" ++ id ++ "` is never referenced"
  | .noBlock id => "optional argument `" ++ id ++ "` has no key-off block"
  | .otherFirstWord => "syntax does not start with the command name `" ++ warning.command ++ "`"

/-- The sentence for a warning. -/
def line (warning : LintWarning) : String :=
  "command `" ++ warning.command ++ "`: " ++ warning.message

end LintWarning

namespace Template

/-- The segments after the first one. -/
def tail : Template → Template
  | nil => nil
  | sigil rest | literal _ rest | argument _ rest | keyOff _ _ rest => rest

/-- The first word of the literal behind the first segment. -/
def firstWord? (template : Template) : Option (List Char) :=
  match template.tail with
  | literal text _ => Text.firstWord? text
  | _ => none

end Template

namespace Definition

/-- What is wrong with the use of one argument. -/
def lintArgument (template : Template) (n : Nat) (argument : Argument) : Option LintProblem :=
  if argument.optional then
    if n ∈ template.keyedOff then none else some (.noBlock argument.id)
  else
    if n ∈ template.referenced then none else some (.neverReferenced argument.id)

/-- Whether the template opens with the name of the command. -/
def opensWithName (definition : Definition) (template : Template) : Bool :=
  match template.firstWord? with
  | some word => Text.sameAscii word definition.name.toList
  | none => false

/-- The warnings about a definition with its template. -/
def lint (definition : Definition) (template : Template) : List LintWarning :=
  let problems := (Argument.numbered definition.arguments).filterMap fun (n, argument) =>
    lintArgument template n argument
  let last := if definition.opensWithName template then [] else [.otherFirstWord]
  (problems ++ last).map (⟨definition.name, ·⟩)

end Definition

end ChatCommand
