import ChatCommand.Check.Basic

/-!
# Checks of single JSON values

The leaves on which all other checks rest: one for each type of JSON value, one for any value,
one for a given value, and one for a missing value.
-/

namespace ChatCommand.Check

/-- Accepts a string. -/
def string : Check String :=
  ofTransform "String" fun
    | some (.text s) => .ok s
    | input => .error (.incorrectType "a string" input)

theorem run_string_eq_ok_iff {input : Option Json} {s : String} :
    string.run input = .ok s ↔ input = some (.text s) := by
  unfold string
  rw [run_ofTransform]
  split <;> simp_all

/-- Accepts a number, read as binary64. -/
def number : Check Binary64 :=
  ofTransform "Number" fun
    | some (.number (.real x)) => .ok x
    | some (.number (.whole n)) =>
      match Binary64.ofInt? n with
      | some x => .ok x
      | none => .error (.invalidValue (toString n ++ " is not representable"))
    | input => .error (.incorrectType "a number" input)

/-- The size from which on a binary64 number is not read as a whole number: the one nearest to
1.7e38. -/
def wholeLimit : Nat := 169999999999999998061923293023115935744

/-- The whole number that a JSON number is. -/
def wholeNumber (n : Json.Number) : Except Failure Int :=
  match n with
  | .whole n => .ok n
  | .real x =>
    match x.whole? with
    | some whole => if whole.natAbs < wholeLimit then .ok whole else refuse
    | none => refuse
where
  /-- The failure of a number that is not whole or too large. -/
  refuse : Except Failure Int :=
    .error (.invalidValue ("expected an integer, received number " ++ n.render))

/-- Accepts a whole number, exactly. -/
def integer : Check Int :=
  ofTransform "Integer" fun
    | some (.number n) => wholeNumber n
    | input => .error (.incorrectType "an integer" input)

/-- Accepts a truth value. -/
def boolean : Check Bool :=
  ofTransform "Boolean" fun
    | some (.bool b) => .ok b
    | input => .error (.incorrectType "a boolean" input)

/-- Accepts any value that is present. -/
def any : Check Json :=
  ofTransform "Any" fun
    | some value => .ok value
    | none => .error (.incorrectType "a value" none)

/-- Accepts one value only. -/
def value (expected : Json) : Check Json :=
  ofTransform expected.compact fun
    | some actual =>
      if actual.same expected then .ok actual
      else
        .error (.invalidValue ("expected " ++ expected.compact ++ ", received " ++ actual.compact))
    | none => .error (.incorrectType expected.compact none)

/-- Accepts `null`. -/
def null : Check Unit :=
  ofTransform "Null" fun
    | some .null => .ok ()
    | input => .error (.incorrectType "null" input)

/-- Accepts a missing value only. -/
def undefined : Check Unit :=
  ofTransform "Undefined" fun
    | none => .ok ()
    | input => .error (.incorrectType "undefined" input)

end ChatCommand.Check
