import ChatCommand.Json.Mismatch

/-!
# Content of documents

What a document can hold, whatever its notation. Keys of records may be any content; only texts
and, by position, numbers name the fields of a record.

## Main definitions

- `Content`: data of a document.
- `Content.ofJson`, `Content.toJson`: the content of a JSON value, and back.
- `Content.string`, `Content.word`, `Content.list`, `Content.optional`: data of a type.
- `Content.fields`, `Content.positions`: the fields of a record, by name or by position.
-/

namespace ChatCommand

/-- Data of a document. -/
inductive Content where
  | null
  | bool (b : Bool)
  | number (n : Json.Number)
  /-- A number that is infinite or none at all. -/
  | special (name : String)
  | text (s : String)
  | list (items : List Content)
  | record (fields : List (Content × Content))
  deriving Repr, Inhabited

namespace Content

/-- The content of a JSON value. -/
def ofJson : Json → Content
  | .null => null
  | .bool b => bool b
  | .number n => number n
  | .text s => text s
  | .array items => list (ofItems items)
  | .object fields => record (ofFields fields)
where
  /-- The content of items. -/
  ofItems : List Json → List Content
    | [] => []
    | item :: rest => ofJson item :: ofItems rest
  /-- The content of fields. -/
  ofFields : List (String × Json) → List (Content × Content)
    | [] => []
    | (key, value) :: rest => (text key, ofJson value) :: ofFields rest

/-- The text of a key in JSON, where only texts are keys. -/
def keyText : Content → String
  | text s => s
  | bool b => if b then "true" else "false"
  | number (.whole n) => toString n
  | _ => ""

/-- The JSON value of content; a number that JSON lacks is `null`. -/
def toJson : Content → Json
  | null | special _ => .null
  | bool b => .bool b
  | number n => .number n
  | text s => .text s
  | list items => .array (toItems items)
  | record fields => .object (toFields fields)
where
  /-- The values of items. -/
  toItems : List Content → List Json
    | [] => []
    | item :: rest => toJson item :: toItems rest
  /-- The values of fields. -/
  toFields : List (Content × Content) → List (String × Json)
    | [] => []
    | (key, value) :: rest => (key.keyText, toJson value) :: toFields rest

/-- What content is found as. -/
def found : Content → Found
  | null => .null
  | bool b => .bool b
  | number n => .number n
  | special name => .special name
  | text s => .text s
  | list _ => .list
  | record _ => .record

/-- The mismatch of content of another type. -/
def mismatch (expected : String) (content : Content) : Except Mismatch α :=
  .error (.wrongType content.found expected)

/-! ### Data of a type -/

/-- Reads a text. -/
def string : Content → Except Mismatch String
  | text s => .ok s
  | content => mismatch "a string" content

/-- Reads a number from zero up to below `size`. -/
def word (expected : String) (size : Nat) : Content → Except Mismatch Nat
  | number (.whole n) =>
    if 0 ≤ n ∧ n < size then .ok n.toNat
    else .error (.wrongValue (.number (.whole n)) expected)
  | content => mismatch expected content

/-- Reads a list. -/
def listOf (item : Content → Except Mismatch α) : Content → Except Mismatch (List α)
  | list items => items.mapM item
  | content => mismatch "a sequence" content

/-- Reads `null` as nothing, and anything else by the given reader. -/
def optional (inner : Content → Except Mismatch α) : Content → Except Mismatch (Option α)
  | null => .ok none
  | content => some <$> inner content

/-! ### Fields -/

/-- The position of the field that a key stands for, if there is such a field. -/
def fieldOf (names : List String) : Content → Except Mismatch (Option Nat)
  | text s => .ok (names.idxOf? s)
  | number (.whole n) =>
    if 0 ≤ n then .ok (if n < names.length then some n.toNat else none)
    else .error (.wrongType (.number (.whole n)) "field identifier")
  | content => mismatch "field identifier" content

/-- Reads the fields of the given names, each at most once; other fields mean nothing. -/
def fields (names : List String) (read : Content → Except Mismatch α)
    (slots : List (Option α)) : List (Content × Content) → Except Mismatch (List (Option α))
  | [] => .ok slots
  | (key, value) :: rest => do
    match ← fieldOf names key with
    | none => fields names read slots rest
    | some position =>
      match slots[position]?.join with
      | some _ => .error (.duplicateField (names[position]?.getD ""))
      | none => fields names read (slots.set position (some (← read value))) rest

/-- Reads as many items as there are slots, as far as there are any; tells the items left
over. -/
def positions (read : Content → Except Mismatch α) :
    Nat → List Content → Except Mismatch (List (Option α) × List Content)
  | 0, items => .ok ([], items)
  | count + 1, [] => .ok (List.replicate (count + 1) none, [])
  | count + 1, item :: rest => do
    let value ← read item
    let (values, left) ← positions read count rest
    .ok (some value :: values, left)

end Content

end ChatCommand
