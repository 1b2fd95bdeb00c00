import ChatCommand.Check.Erasure
import ChatCommand.Template.Basic

/-!
# Declared arguments

A command declares its arguments in order; a template knows them by their ordinals, counted from
one. An argument may carry a further check that its text has to pass.
-/

namespace ChatCommand

/-- A declared argument. -/
structure Argument where
  /-- The key of its value. -/
  id : String
  /-- What users are told it is called. -/
  name : String
  optional : Bool
  constraint : Option (Check Json)

namespace Argument

/-- A required argument without a constraint. -/
def required (id name : String) : Argument := ⟨id, name, false, none⟩

/-- An optional argument without a constraint. -/
def ofOptional (id name : String) : Argument := ⟨id, name, true, none⟩

/-- The argument with an ordinal. -/
def withOrdinal? (arguments : List Argument) (n : Nat) : Option Argument :=
  if n = 0 then none else arguments[n - 1]?

/-- The arguments with their ordinals. -/
def numbered (arguments : List Argument) : List (Nat × Argument) :=
  arguments.mapIdx fun index argument => (index + 1, argument)

end Argument

namespace Template

/-- What users are told to write: arguments by their names, blocks in brackets. -/
def usageChars (sigilText : List Char) (arguments : List Argument) : Template → List Char
  | nil => []
  | sigil rest => sigilText ++ rest.usageChars sigilText arguments
  | literal text rest => text ++ rest.usageChars sigilText arguments
  | argument n rest =>
    let name := (Argument.withOrdinal? arguments n).elim "?" Argument.name
    '<' :: name.toList ++ '>' :: rest.usageChars sigilText arguments
  | keyOff _ content rest =>
    '[' :: content.usageChars sigilText arguments ++
      ']' :: rest.usageChars sigilText arguments

/-- What users are told to write. -/
def usage (template : Template) (sigilText : String) (arguments : List Argument) : String :=
  String.ofList (template.usageChars sigilText.toList arguments)

end Template

end ChatCommand
