import ChatCommand.Command.Constraint
import ChatCommand.Content

/-!
# The data form of constraints

A constraint is written as a record whose field `kind` says which constraint it is, or as a list
that starts with the kind. The other fields depend on the kind and may stand before it.

## Main definitions

- `Constraint.Kind`: the kinds of constraints and their names.
- `Constraint.Tagged`: a kind with the rest of the record.
- `Constraint.Tagged.decode`: the constraint of that form.
- `Constraint.toFields`: the form of a constraint.
-/

namespace ChatCommand.Constraint

/-- The kinds of constraints. -/
inductive Kind where
  | string
  | snowflake
  | uint4
  | uint8
  | boolean
  | choice
  | hexDigest
  | statusLink
  deriving DecidableEq, Repr

namespace Kind

/-- The name of a kind. -/
def name : Kind → String
  | string => "string"
  | snowflake => "snowflake"
  | uint4 => "uint4"
  | uint8 => "uint8"
  | boolean => "boolean"
  | choice => "choice"
  | hexDigest => "hex_digest"
  | statusLink => "status_link"

/-- All kinds. -/
def all : List Kind :=
  [string, snowflake, uint4, uint8, boolean, choice, hexDigest, statusLink]

/-- The kind of a name. -/
def ofName (name : String) : Except Mismatch Kind :=
  match all.find? fun kind => kind.name = name with
  | some kind => .ok kind
  | none => .error (.unknownVariant name (all.map Kind.name))

end Kind

/-- The part of a constraint's form that is not the kind. -/
inductive Body where
  | fields (fields : List (Content × Content))
  | items (items : List Content)

/-- A kind with the rest of the form. -/
structure Tagged where
  kind : Kind
  body : Body

/-- How a message calls the number of items. -/
def elements (count : Nat) : String :=
  if count = 1 then "1 element" else toString count ++ " elements"

/-- Requires that all items were read. -/
def exactly (count : Nat) (left : List Content) : Except Mismatch Unit :=
  if left.isEmpty then .ok ()
  else .error (.wrongLength (count + left.length) (elements count ++ " in sequence"))

namespace Tagged

/-- Reads two bounds, each of which may be missing. -/
def bounds (low high : String) (read : Content → Except Mismatch α) (body : Body) :
    Except Mismatch (Option α × Option α) := do
  let slots ← match body with
    | .fields fields => Content.fields [low, high] (Content.optional read) [none, none] fields
    | .items items => do
      let (slots, left) ← Content.positions (Content.optional read) 2 items
      exactly 2 left
      .ok slots
  .ok (slots[0]?.join.join, slots[1]?.join.join)

/-- Reads a length, which may be missing. -/
def length (name : String) (read : Content → Except Mismatch α) (body : Body) :
    Except Mismatch (Option α) := do
  let slots ← match body with
    | .fields fields => Content.fields [name] (Content.optional read) [none] fields
    | .items items => do
      let (slots, left) ← Content.positions (Content.optional read) 1 items
      exactly 1 left
      .ok slots
  .ok slots[0]?.join.join

/-- Reads the words of a choice, which must be there. -/
def words (body : Body) : Except Mismatch (List String) := do
  match body with
  | .fields fields =>
    let slots ← Content.fields ["values"] (Content.listOf Content.string) [none] fields
    match slots[0]?.join with
    | some values => .ok values
    | none => .error (.missingField "values")
  | .items [] =>
    .error (.wrongLength 0 "struct variant ConstraintConfig::Choice with 1 element")
  | .items (item :: left) =>
    let values ← Content.listOf Content.string item
    exactly 1 left
    .ok values

/-- Requires a form without further parts; fields mean nothing. -/
def nothing : Body → Except Mismatch Unit
  | .fields _ => .ok ()
  | .items items => exactly 0 items

/-- Reads a number of 64 bits. -/
def size (content : Content) : Except Mismatch UInt64 :=
  UInt64.ofNat <$> content.word "usize" UInt64.size

/-- Reads a number of 32 bits. -/
def bound (content : Content) : Except Mismatch UInt32 :=
  UInt32.ofNat <$> content.word "u32" UInt32.size

/-- The constraint of a form. -/
def decode (tagged : Tagged) : Except Mismatch Constraint := do
  let body := tagged.body
  match tagged.kind with
  | .string =>
    let (min, max) ← bounds "min_length" "max_length" size body
    .ok (.string min max)
  | .snowflake => nothing body; .ok .snowflake
  | .uint4 =>
    let (min, max) ← bounds "min" "max" bound body
    .ok (.uint4 min max)
  | .uint8 => nothing body; .ok .uint8
  | .boolean => nothing body; .ok .boolean
  | .choice => .ok (.choice (← words body))
  | .hexDigest => .ok (.hexDigest (← length "length" size body))
  | .statusLink => nothing body; .ok .statusLink

end Tagged

/-- What a message says that a constraint is. -/
def expectation : String := "internally tagged enum ConstraintConfig"

/-- What a message says that a kind is. -/
def kindExpectation : String := "variant identifier"

/-- Reads a kind. -/
def kindOf : Content → Except Mismatch Kind
  | .text s => Kind.ofName s
  | content => Content.mismatch kindExpectation content

/-- Finds the kind among fields, and keeps the others. -/
def tagFields (kind : Option Kind) (others : List (Content × Content)) :
    List (Content × Content) → Except Mismatch Tagged
  | [] =>
    match kind with
    | some kind => .ok ⟨kind, .fields others.reverse⟩
    | none => .error (.missingField "kind")
  | (.text "kind", value) :: rest =>
    match kind with
    | some _ => .error (.duplicateField "kind")
    | none => do tagFields (some (← kindOf value)) others rest
  | field :: rest => tagFields kind (field :: others) rest

/-- Reads the form of a constraint. -/
def tagged : Content → Except Mismatch Tagged
  | .record fields => tagFields none [] fields
  | .list [] => .error (.missingField "kind")
  | .list (kind :: rest) => do .ok ⟨← kindOf kind, .items rest⟩
  | content => content.mismatch expectation

/-- The constraint that some content describes. -/
def ofContent (content : Content) : Except Mismatch Constraint := do
  (← tagged content).decode

/-- The constraint that a JSON value describes. -/
def ofJson (value : Json) : Except Mismatch Constraint := ofContent (.ofJson value)

/-! ### Writing -/

/-- The kind of a constraint. -/
def kind : Constraint → Kind
  | string _ _ => .string
  | snowflake => .snowflake
  | uint4 _ _ => .uint4
  | uint8 => .uint8
  | boolean => .boolean
  | choice _ => .choice
  | hexDigest _ => .hexDigest
  | statusLink => .statusLink

/-- The field of a number that may be missing. -/
def numberField (name : String) (n : Option Nat) : Json.Fields :=
  n.toList.map fun (n : Nat) => (name, .ofInt n)

/-- The fields that depend on the kind. -/
def ownFields : Constraint → Json.Fields
  | string min max =>
    numberField "min_length" (min.map UInt64.toNat) ++
      numberField "max_length" (max.map UInt64.toNat)
  | uint4 min max =>
    numberField "min" (min.map UInt32.toNat) ++ numberField "max" (max.map UInt32.toNat)
  | choice values => [("values", .array (values.map Json.text))]
  | hexDigest length => numberField "length" (length.map UInt64.toNat)
  | snowflake | uint8 | boolean | statusLink => []

/-- The form of a constraint. -/
def toFields (constraint : Constraint) : Json.Fields :=
  ("kind", .text constraint.kind.name) :: constraint.ownFields

/-- The form of a constraint as a JSON value. -/
def toJson (constraint : Constraint) : Json := .object constraint.toFields

end ChatCommand.Constraint
