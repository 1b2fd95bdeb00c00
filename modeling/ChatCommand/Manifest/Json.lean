import ChatCommand.Json.Reader
import ChatCommand.Manifest.Basic
import ChatCommand.Manifest.ConstraintForm

/-!
# Manifests in JSON

A manifest, a command and an argument are objects, or lists of all their fields in order. Fields
that are not known mean nothing; a known field that comes twice, and a required one that does not
come, are refused. The first problem in the order of the text is the one that is reported.

## Main definitions

- `Manifest.ofJson`: reads a manifest.
- `Manifest.toJson`: the form of a manifest.
-/

namespace ChatCommand

open Json Json.Reader

/-- The prefix of a manifest that does not name one. -/
def Manifest.defaultSigil : String := "!"

/-- Reads a text. -/
def textField : Reader String := string "a string"

namespace Constraint

/-- The number of lists and objects that may be nested inside a constraint: those around it
count too. -/
def innerLevels : Nat := maxLevels - 6

/-- Reads a kind. -/
def readKind : Reader Kind := do
  match Kind.ofName (← Reader.string kindExpectation) with
  | .ok kind => pure kind
  | .error problem => mismatch problem

/-- Reads one field of a constraint. -/
def readField (read : Option Kind × List (Content × Content)) (key : String) :
    Reader (Option Kind × List (Content × Content)) :=
  if key = "kind" then do
    let kind ← fill key read.1 readKind
    pure (some kind, read.2)
  else do
    colon
    let entry ← value innerLevels
    pure (read.1, (.text key, .ofJson entry) :: read.2)

/-- Reads a constraint as an object. -/
def readFields : Reader Tagged := do
  let (kind, others) ← fields readField (none, [])
  pure ⟨← require "kind" kind, .fields others.reverse⟩

/-- Reads a constraint as a list. -/
def readItems : Reader Tagged := do
  match ← item? true readKind with
  | none => unplaced (.missingField "kind")
  | some kind =>
    let others ← itemsFrom (value innerLevels) ((← get).rest.length + 1) false []
    pure ⟨kind, .items (others.map Content.ofJson)⟩

/-- Reads a constraint. -/
def read : Reader Constraint := do
  match (← record expectation readFields readItems).decode with
  | .ok constraint => pure constraint
  | .error problem => unplaced problem

end Constraint

namespace ArgumentEntry

/-- The fields of an argument that have been read. -/
structure Slots where
  id : Option String := none
  name : Option String := none
  optional : Option Bool := none
  constraint : Option (Option Constraint) := none

/-- Reads one field of an argument. -/
def readField (slots : Slots) (key : String) : Reader Slots :=
  match key with
  | "id" => do pure { slots with id := some (← fill key slots.id textField) }
  | "name" => do pure { slots with name := some (← fill key slots.name textField) }
  | "optional" => do pure { slots with optional := some (← fill key slots.optional boolean) }
  | "constraint" => do
    let constraint ← fill key slots.constraint (Reader.optional Constraint.read)
    pure { slots with constraint := some constraint }
  | _ => do skipField; pure slots

/-- Reads an argument as an object. -/
def readFields : Reader ArgumentEntry := do
  let slots ← fields readField {}
  let id ← require "id" slots.id
  let name ← require "name" slots.name
  pure ⟨id, name, slots.optional.getD false, slots.constraint.join⟩

/-- Reads an argument as a list. -/
def readItems : Reader ArgumentEntry := do
  let expected := "struct ArgumentConfig with 4 elements"
  let id ← itemAt 0 expected textField
  let name ← itemAt 1 expected textField
  let optional ← item? false boolean
  let constraint ← item? false (Reader.optional Constraint.read)
  pure ⟨id, name, optional.getD false, constraint.join⟩

/-- Reads an argument. -/
def read : Reader ArgumentEntry := record "struct ArgumentConfig" readFields readItems

/-- The form of an argument. -/
def toJson (entry : ArgumentEntry) : Json :=
  .object ([("id", .text entry.id), ("name", .text entry.name),
      ("optional", .bool entry.optional)] ++
    entry.constraint.toList.map fun constraint => ("constraint", constraint.toJson))

end ArgumentEntry

namespace CommandEntry

/-- The fields of a command that have been read. -/
structure Slots where
  name : Option String := none
  source : Option String := none
  description : Option (Option String) := none
  arguments : Option (List ArgumentEntry) := none

/-- Reads one field of a command. -/
def readField (slots : Slots) (key : String) : Reader Slots :=
  match key with
  | "name" => do pure { slots with name := some (← fill key slots.name textField) }
  | "syntax" => do pure { slots with source := some (← fill key slots.source textField) }
  | "description" => do
    let description ← fill key slots.description (Reader.optional textField)
    pure { slots with description := some description }
  | "arguments" => do
    let arguments ← fill key slots.arguments (list ArgumentEntry.read)
    pure { slots with arguments := some arguments }
  | _ => do skipField; pure slots

/-- Reads a command as an object. -/
def readFields : Reader CommandEntry := do
  let slots ← fields readField {}
  let name ← require "name" slots.name
  let source ← require "syntax" slots.source
  pure ⟨name, source, slots.description.join, slots.arguments.getD []⟩

/-- Reads a command as a list. -/
def readItems : Reader CommandEntry := do
  let expected := "struct CommandConfig with 4 elements"
  let name ← itemAt 0 expected textField
  let source ← itemAt 1 expected textField
  let description ← item? false (Reader.optional textField)
  let arguments ← item? false (list ArgumentEntry.read)
  pure ⟨name, source, description.join, arguments.getD []⟩

/-- Reads a command. -/
def read : Reader CommandEntry := record "struct CommandConfig" readFields readItems

/-- The form of a command. -/
def toJson (entry : CommandEntry) : Json :=
  .object ([("name", .text entry.name), ("syntax", .text entry.source)] ++
    entry.description.toList.map (fun description => ("description", .text description)) ++
    [("arguments", .array (entry.arguments.map ArgumentEntry.toJson))])

end CommandEntry

namespace Manifest

/-- The fields of a manifest that have been read. -/
structure Slots where
  version : Option String := none
  sigil : Option String := none
  commands : Option (List CommandEntry) := none

/-- Reads one field of a manifest. -/
def readField (slots : Slots) (key : String) : Reader Slots :=
  match key with
  | "version" => do pure { slots with version := some (← fill key slots.version textField) }
  | "prefix" => do pure { slots with sigil := some (← fill key slots.sigil textField) }
  | "commands" => do
    let commands ← fill key slots.commands (list CommandEntry.read)
    pure { slots with commands := some commands }
  | _ => do skipField; pure slots

/-- Reads a manifest as an object. -/
def readFields : Reader Manifest := do
  let slots ← fields readField {}
  let version ← require "version" slots.version
  pure ⟨version, slots.sigil.getD defaultSigil, slots.commands.getD []⟩

/-- Reads a manifest as a list. -/
def readItems : Reader Manifest := do
  let version ← itemAt 0 "struct RegistryConfig with 3 elements" textField
  let sigil ← item? false textField
  let commands ← item? false (list CommandEntry.read)
  pure ⟨version, sigil.getD defaultSigil, commands.getD []⟩

/-- Reads a manifest. -/
def read : Reader Manifest := record "struct RegistryConfig" readFields readItems

/-- Reads the text of a manifest, which has to be usable. -/
def ofJson (text : String) : Except ManifestError Manifest :=
  match readAll read text with
  | .ok manifest => manifest.checked
  | .error trouble => .error (.json trouble.problem (trouble.place text))

/-- The form of a manifest. -/
def toJson (manifest : Manifest) : Json :=
  .object [("version", .text manifest.version), ("prefix", .text manifest.sigil),
    ("commands", .array (manifest.commands.map CommandEntry.toJson))]

end Manifest

end ChatCommand
