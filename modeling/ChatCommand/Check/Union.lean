import ChatCommand.Check.Primitive

/-!
# Unions and intersections

A union accepts what one of its two members accepts; which member refines a value is decided by
the value itself. An intersection accepts what both accept and merges what they yield.

## Main definitions

- `Check.union`: one of two checks of a type.
- `Check.nullable`, `Check.optional`: a check, or `null`, or a missing value.
- `Check.intersection`, `Check.intersectObjects`: two checks at once.
-/

namespace ChatCommand.Check

variable {α β γ : Type}

/-- The member of a union to which a value belongs. -/
inductive Side where
  | first
  | second
  deriving DecidableEq, Repr

/-- The failure of a union of which neither member can read the value. -/
def neither (first second : Failure) : Failure :=
  ⟨.noMatchingUnionMember, first.information ++ second.information⟩

/-- Accepts what one of two members accepts. -/
def union (first second : Check α) (side : α → Side) : Check α where
  name := first.name ++ " | " ++ second.name
  transform input :=
    match first.transform input with
    | .ok value => .ok value
    | .error firstFailure =>
      match second.transform input with
      | .ok value => .ok value
      | .error secondFailure =>
        .error (neither (firstFailure.under (.member first.name))
          (secondFailure.under (.member second.name)))
  refine _ value :=
    -- The member that read the value is not known here, only the value itself.
    let member := match side value with
      | .first => first
      | .second => second
    Failure.atStep (.member member.name) (member.refineOwn value)

/-- A check of a missing or null value that yields nothing. -/
def absence (marker : Check Unit) : Check (Option α) :=
  ofTransform marker.name fun input => (marker.run input).map fun _ => none

/-- The side of an absent value is the first one. -/
def absentFirst : Option α → Side
  | none => .first
  | some _ => .second

/-- Accepts `null`, which yields nothing, and what another check accepts. -/
def nullable (inner : Check α) : Check (Option α) :=
  (union (absence null) inner.liftSome absentFirst).named ("Nullable<" ++ inner.name ++ ">")

/-- Accepts a missing value, which yields nothing, and what another check accepts. -/
def optional (inner : Check α) : Check (Option α) :=
  (union (absence undefined) inner.liftSome absentFirst).named ("Optional<" ++ inner.name ++ ">")

/-- Accepts what both members accept, and merges what they yield. -/
def intersection (first : Check α) (second : Check β) (merge : α → β → γ) : Check γ :=
  ofTransform (first.name ++ " & " ++ second.name) fun input =>
    match Failure.atStep (.member first.name) (first.run input),
      Failure.atStep (.member second.name) (second.run input) with
    | .ok a, .ok b => .ok (merge a b)
    | .error failure, .ok _ => .error failure
    | .ok _, .error failure => .error failure
    | .error firstFailure, .error secondFailure =>
      .error ⟨firstFailure.kind, firstFailure.information ++ secondFailure.information⟩

/-- The fields of two objects; of equal keys the second one's counts. -/
def mergeFields (first second : Json.Fields) : Json.Fields :=
  second.foldl (fun merged field => Json.Fields.insert field.1 field.2 merged) first

/-- Accepts an object that both members accept, and merges their fields. -/
def intersectObjects (first second : Check Json.Fields) : Check Json.Fields :=
  intersection first second mergeFields

end ChatCommand.Check
