import ChatCommand.Number.Binary64

/-!
# JSON values

A number is either a whole number, when it was written as one of 64 bits, or a binary64
number; the two are never equal. An object is a list of fields. Values that take part in
checks have their fields in increasing order of the keys, one field a key: `Json.sorted`
brings a value into that form.

## Main definitions

- `Json`, `Json.Number`: values.
- `Json.Fields.insert`, `Json.Fields.get?`: objects as maps from keys.
- `Json.sorted`: objects sorted by key, of equal keys the last one counting.
- `Json.same`: equality of values, in which the two zeros agree.
-/

namespace ChatCommand

/-- A JSON number. -/
inductive Json.Number where
  | whole (n : Int)
  | real (x : Binary64)
  deriving DecidableEq, Repr, Inhabited

/-- A JSON value. -/
inductive Json where
  | null
  | bool (b : Bool)
  | number (n : Json.Number)
  | text (s : String)
  | array (items : List Json)
  | object (fields : List (String × Json))
  deriving Repr, Inhabited

namespace Json

/-- A JSON whole number. -/
abbrev ofInt (n : Int) : Json := .number (.whole n)

/-- The fields of an object. -/
abbrev Fields := List (String × Json)

namespace Fields

variable {α : Type}

/-- The value under a key. -/
def get? (key : String) : List (String × α) → Option α
  | [] => none
  | (k, value) :: rest => if k = key then some value else get? key rest

/-- Puts a value under a key into a list sorted by key. -/
def insert (key : String) (value : α) : List (String × α) → List (String × α)
  | [] => [(key, value)]
  | (k, old) :: rest =>
    if key = k then (key, value) :: rest
    else if key < k then (key, value) :: (k, old) :: rest
    else (k, old) :: insert key value rest

/-- The value under a key, which is the given one if there was none, and the fields with it. -/
def getOrInsert (key : String) (value : α) (fields : List (String × α)) :
    α × List (String × α) :=
  match get? key fields with
  | some stored => (stored, fields)
  | none => (value, insert key value fields)

/-- A sorted list with the given fields; of equal keys the last one counts. -/
def sort (fields : List (String × α)) : List (String × α) :=
  fields.foldl (fun sorted field => insert field.1 field.2 sorted) []

@[simp]
theorem get?_nil (key : String) : get? key ([] : List (String × α)) = none := rfl

theorem get?_insert (key other : String) (value : α) (fields : List (String × α)) :
    get? other (insert key value fields) =
      if key = other then some value else get? other fields := by
  induction fields with
  | nil => simp [insert, get?]
  | cons field rest ih =>
    obtain ⟨k, old⟩ := field
    unfold insert
    split
    next equal =>
      subst equal
      simp only [get?]
      split <;> rfl
    next different =>
      split
      next => simp only [get?]
      next =>
        simp only [get?, ih]
        split
        next here =>
          have : key ≠ other := fun h => different (h.trans here.symm)
          simp [this]
        next => rfl

/-- The keys of a list of fields. -/
def keys (fields : List (String × α)) : List String := fields.map Prod.fst

end Fields

/-- A value whose objects, at every depth, have sorted and distinct keys. -/
def sorted : Json → Json
  | .array items => .array (sortedItems items)
  | .object fields => .object (Fields.sort (sortedFields fields))
  | value => value
where
  /-- Each item sorted. -/
  sortedItems : List Json → List Json
    | [] => []
    | item :: rest => item.sorted :: sortedItems rest
  /-- Each field's value sorted. -/
  sortedFields : List (String × Json) → List (String × Json)
    | [] => []
    | (key, value) :: rest => (key, value.sorted) :: sortedFields rest

/-- Equality of numbers: kinds are told apart, the two zeros are not. -/
def Number.same : Number → Number → Bool
  | .whole m, .whole n => m == n
  | .real x, .real y => x.same y
  | _, _ => false

/-- Equality of values, in which the two zeros agree. -/
def same : Json → Json → Bool
  | .null, .null => true
  | .bool a, .bool b => a == b
  | .number m, .number n => m.same n
  | .text s, .text t => s == t
  | .array items, .array others => sameItems items others
  | .object fields, .object others => sameFields fields others
  | _, _ => false
where
  /-- Items agree one by one. -/
  sameItems : List Json → List Json → Bool
    | [], [] => true
    | item :: items, other :: others => item.same other && sameItems items others
    | _, _ => false
  /-- Fields agree one by one, keys and values. -/
  sameFields : List (String × Json) → List (String × Json) → Bool
    | [], [] => true
    | (key, value) :: fields, (otherKey, other) :: others =>
      key == otherKey && value.same other && sameFields fields others
    | _, _ => false

/-- The value under a key of an object. -/
def field? (value : Json) (key : String) : Option Json :=
  match value with
  | .object fields => Fields.get? key fields
  | _ => none

/-- Some text or null. -/
def ofOption (encode : α → Json) : Option α → Json
  | none => .null
  | some a => encode a

end Json

end ChatCommand
