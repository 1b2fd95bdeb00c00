import ChatCommand.Json.Basic
import ChatCommand.Number.Layout
import ChatCommand.Text.Quoted

/-!
# Data of the wrong shape

What can be wrong with well-formed data that is read as a value of some type, and the sentence
that says so.
-/

namespace ChatCommand

/-- The piece of data that was found where something else was expected. -/
inductive Found where
  | null
  | bool (b : Bool)
  | number (n : Json.Number)
  /-- A number that is infinite or none at all. -/
  | special (name : String)
  | text (s : String)
  | list
  | record
  deriving DecidableEq, Repr

namespace Found

/-- How a message calls the data. -/
def describe : Found → String
  | null => "null"
  | bool b => if b then "boolean `true`" else "boolean `false`"
  | number (.whole n) => "integer `" ++ toString n ++ "`"
  | number (.real x) => "floating point `" ++ NumberLayout.data.write x ++ "`"
  | special name => "floating point `" ++ name ++ "`"
  | text s => "string " ++ Text.quoted s
  | list => "sequence"
  | record => "map"

/-- What a JSON value is found as. -/
def ofJson : Json → Found
  | .null => null
  | .bool b => bool b
  | .number n => number n
  | .text s => text s
  | .array _ => list
  | .object _ => record

end Found

/-- What is wrong with data that does not fit a type. -/
inductive Mismatch where
  | wrongType (found : Found) (expected : String)
  | wrongValue (found : Found) (expected : String)
  | wrongLength (length : Nat) (expected : String)
  | missingField (name : String)
  | duplicateField (name : String)
  | unknownVariant (name : String) (known : List String)
  | enumNotSupported
  deriving DecidableEq, Repr

/-- The sentence for a mismatch. -/
def Mismatch.message : Mismatch → String
  | wrongType found expected => "invalid type: " ++ found.describe ++ ", expected " ++ expected
  | wrongValue found expected => "invalid value: " ++ found.describe ++ ", expected " ++ expected
  | wrongLength length expected =>
    "invalid length " ++ toString length ++ ", expected " ++ expected
  | missingField name => "missing field `" ++ name ++ "`"
  | duplicateField name => "duplicate field `" ++ name ++ "`"
  | unknownVariant name known =>
    "unknown variant `" ++ name ++ "`, expected one of " ++
      ", ".intercalate (known.map fun k => "`" ++ k ++ "`")
  | enumNotSupported => "untagged and internally tagged enums do not support enum input"

end ChatCommand
