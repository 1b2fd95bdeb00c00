import ChatCommand.Check.Basic

/-!
# Arrays, tuples and objects

A compound check accepts a value when it accepts all its parts, and otherwise reports the
failures of all parts that it rejects, each under the step to that part.

## Main definitions

- `Check.array`: arrays of one kind of item.
- `Check.tuple`: arrays of a fixed length with a check for each position.
- `Check.object`: objects with a check for each declared key and, perhaps, one for all others.
-/

namespace ChatCommand.Check

variable {α : Type}

/-- Accepts an array whose items are all accepted. -/
def array (item : Check α) : Check (List α) :=
  ofTransform ("Array<" ++ item.name ++ ">") fun
    | some (.array items) =>
      Failure.collect (items.mapIdx fun position value =>
        Failure.atStep (.index position) (item.run (some value)))
    | input => .error (.incorrectType "an array" input)

/-- Accepts an array with one item for each of the given checks. -/
def tuple (elements : List (Check Json)) : Check (List Json) :=
  ofTransform ("[" ++ ", ".intercalate (elements.map name) ++ "]") fun
    | some (.array items) =>
      if items.length = elements.length then
        Failure.collect ((items.zip elements).mapIdx fun position (value, element) =>
          Failure.atStep (.index position) (element.run (some value)))
      else
        .error (.ofMessage .incorrectArity
          ("expected " ++ toString elements.length ++ " elements, received " ++
            toString items.length))
    | input => .error (.incorrectType "an array" input)

/-- The shape of an object: a check for each declared key, and checks for the keys and values of
all others where these are allowed. -/
structure Shape where
  properties : List (String × Check Json)
  others : Option (Check String × Check Json)

namespace Shape

/-- The result for a declared key. One that is missing and accepted as such yields no field. -/
def declared (fields : Json.Fields) (property : String × Check Json) :
    Except Failure (Option (String × Json)) :=
  let field := Json.Fields.get? property.1 fields
  match property.2.run field with
  | .ok value => .ok (if field.isSome then some (property.1, value) else none)
  | .error failure => .error (failure.under (.key property.1))

/-- Whether a key is declared. -/
def declares (shape : Shape) (key : String) : Bool :=
  shape.properties.any fun property => property.1 = key

/-- The result for a field whose key is not declared. A failure of the key counts before one of
the value. -/
def undeclared (shape : Shape) (field : String × Json) :
    Except Failure (Option (String × Json)) :=
  match shape.others with
  | none =>
    .error ((Failure.ofMessage .unexpectedProperty "is not an expected property").under
      (.key field.1))
  | some (keyCheck, valueCheck) =>
    Failure.atStep (.key field.1) do
      let key ← keyCheck.run (some (.text field.1))
      let value ← valueCheck.run (some field.2)
      .ok (some (key, value))

/-- The results for the declared keys and then for all others, in the order of the keys. -/
def results (shape : Shape) (fields : Json.Fields) :
    List (Except Failure (Option (String × Json))) :=
  shape.properties.map (declared fields) ++
    (fields.filter fun field => !shape.declares field.1).map shape.undeclared

/-- How a message calls the shape. -/
def name (shape : Shape) : String :=
  "\x7b " ++
    ", ".intercalate (shape.properties.map fun property => property.1 ++ ": " ++ property.2.name) ++
    " \x7d"

end Shape

/-- Accepts an object of a shape. -/
def object (shape : Shape) : Check Json.Fields :=
  ofTransform shape.name fun
    | some (.object fields) => do
      -- Keys of other fields may have been rewritten, so the order is made anew.
      let accepted ← Failure.collect (shape.results fields)
      .ok (Json.Fields.sort accepted.reduceOption)
    | input => .error (.incorrectType "an object" input)

end ChatCommand.Check
