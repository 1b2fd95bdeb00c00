import ChatCommand.Argument
import ChatCommand.Check.Compound
import ChatCommand.Check.Union

/-!
# Binding

The arguments of a command make up an object with one property each. Binding checks the extracted
texts against it, all or nothing; what it yields is a record in which an optional argument that
was not supplied is `null`.

## Main definitions

- `specification`: the check of all arguments.
- `bind`: checks raw values.
-/

namespace ChatCommand

/-- The check of an argument's value. -/
def Argument.property (argument : Argument) : Check Json :=
  let base := argument.constraint.getD Check.string.erase
  if argument.optional then (Check.nullable base).erase else base

/-- The check of the values of all arguments. -/
def specification (arguments : List Argument) : Check Json.Fields :=
  Check.object ⟨arguments.map fun argument => (argument.id, argument.property), none⟩

/-- Checks the values of all arguments. -/
def bind (arguments : List Argument) (raw : Json.Fields) : Except Failure Json.Fields :=
  (specification arguments).run (some (.object raw))

/-! ### Bound records -/

namespace Bound

/-- The text of an argument, if its value is one. -/
def text? (bound : Json.Fields) (id : String) : Option String :=
  match Json.Fields.get? id bound with
  | some (.text s) => some s
  | _ => none

/-- Whether an argument was supplied. -/
def isPresent (bound : Json.Fields) (id : String) : Bool :=
  match Json.Fields.get? id bound with
  | none | some .null => false
  | some _ => true

/-- All values as texts, where they are. -/
def texts (bound : Json.Fields) : Except Mismatch (List (String × Option String)) :=
  bound.mapM fun field => do return (field.1, ← JsonForm.decode field.2)

end Bound

end ChatCommand
