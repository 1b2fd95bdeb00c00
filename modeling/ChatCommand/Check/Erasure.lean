import ChatCommand.Check.Basic
import ChatCommand.Json.Mismatch

/-!
# Results as JSON values

A check of any type becomes one that yields JSON values, so that checks of several types can
stand side by side in one shape. Its refinement reads the value back into the type, refines it
there and writes it again.

## Main definitions

- `JsonForm`: types whose values can be written as JSON values and read back.
- `Check.erase`: a check with its results written as JSON values.
-/

namespace ChatCommand

/-- A type whose values can be written as JSON values, where they fit, and read back. -/
class JsonForm (α : Type) where
  encode? : α → Option Json
  decode : Json → Except Mismatch α

namespace JsonForm

variable {α : Type} [JsonForm α]

/-- The mismatch of a value of another type. -/
def mismatch (expected : String) (value : Json) : Except Mismatch β :=
  .error (.wrongType (Found.ofJson value) expected)

instance : JsonForm Json := ⟨some, .ok⟩

instance : JsonForm String where
  encode? s := some (.text s)
  decode
    | .text s => .ok s
    | value => mismatch "a string" value

instance : JsonForm Bool where
  encode? b := some (.bool b)
  decode
    | .bool b => .ok b
    | value => mismatch "a boolean" value

instance : JsonForm Unit where
  encode? _ := some .null
  decode
    | .null => .ok ()
    | value => mismatch "unit" value

instance : JsonForm Binary64 where
  encode? x := some (.number (.real x))
  decode
    | .number (.real x) => .ok x
    | .number (.whole n) =>
      match Binary64.ofInt? n with
      | some x => .ok x
      | none => .error (.wrongValue (.number (.whole n)) "f64")
    | value => mismatch "f64" value

/-- Whether a whole number can be a JSON number. -/
def fitsJson (n : Int) : Bool := -(Nat.pow 2 63 : Nat) ≤ n && n < (Nat.pow 2 64 : Nat)

instance : JsonForm Int where
  encode? n := if fitsJson n then some (.ofInt n) else none
  decode
    | .number (.whole n) => .ok n
    | value => mismatch "i128" value

/-- Reads a number from zero up to below `size`. -/
def decodeWord (expected : String) (size : Nat) (value : Json) : Except Mismatch Nat :=
  match value with
  | .number (.whole n) =>
    if 0 ≤ n ∧ n < size then .ok n.toNat
    else .error (.wrongValue (.number (.whole n)) expected)
  | value => mismatch expected value

instance : JsonForm UInt32 where
  encode? n := some (.ofInt n.toNat)
  decode value := UInt32.ofNat <$> decodeWord "u32" UInt32.size value

instance : JsonForm UInt64 where
  encode? n := some (.ofInt n.toNat)
  decode value := UInt64.ofNat <$> decodeWord "u64" UInt64.size value

instance : JsonForm (Option α) where
  encode?
    | none => some .null
    | some a => encode? a
  decode
    | .null => .ok none
    | value => some <$> decode value

instance : JsonForm (List α) where
  encode? items := .array <$> items.mapM encode?
  decode
    | .array items => items.mapM decode
    | value => mismatch "a sequence" value

instance : JsonForm Json.Fields where
  encode? fields := some (.object fields)
  decode
    | .object fields => .ok fields
    | value => mismatch "a map" value

/-- Writes a value, or fails. -/
def encode (a : α) : Except Failure Json :=
  match encode? a with
  | some value => .ok value
  | none => .error (.invalidValue "value cannot be represented: number out of range")

end JsonForm

namespace Check

variable {α : Type} [JsonForm α]

/-- Reads a value back for a refinement. -/
def readBack (subject : String) (value : Json) : Except Failure α :=
  match JsonForm.decode value with
  | .ok a => .ok a
  | .error problem =>
    .error (.ofMessage .incorrectType
      ("value does not fit " ++ subject ++ ": " ++ problem.message))

/-- The check with its results written as JSON values. -/
def erase (check : Check α) : Check Json where
  name := check.name
  transform input := do JsonForm.encode (← check.transform input)
  refine subject value := do
    let a : α ← readBack subject value
    JsonForm.encode (← check.refine subject a)

@[simp]
theorem name_erase (check : Check α) : check.erase.name = check.name := rfl

end Check

end ChatCommand
