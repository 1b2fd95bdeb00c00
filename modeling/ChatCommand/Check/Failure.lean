import ChatCommand.Json.Basic
import ChatCommand.Json.Printer
import ChatCommand.Text.Quoted

/-!
# Failures of checks

A failure says of what kind it is and explains itself by one or more sentences, each with the
path from the checked value to the place that it speaks of. Whoever checks a part of a value
puts the step to that part in front of the paths, so that they are complete at the outside.

## Main definitions

- `PathStep`, `Explanation`, `Failure`: failures.
- `Failure.under`: the failure of a part as a failure of the whole.
- `Failure.combine?`: several failures as one.
- `Failure.collect`: all results, or all failures.
-/

namespace ChatCommand

/-- One step of a path into a value. -/
inductive PathStep where
  /-- To the value under a key of an object. -/
  | key (name : String)
  /-- To an item of an array. -/
  | index (position : Nat)
  /-- To the same value, as seen by one member of a compound check. -/
  | member (name : String)
  deriving DecidableEq, Repr

namespace PathStep

/-- A step behind others, of which `isFirst` says whether nothing has been written for them. -/
def render (isFirst : Bool) : PathStep → String
  | key name => if isFirst then name else "." ++ name
  | index position => "[" ++ toString position ++ "]"
  | member name => "<" ++ name ++ ">"

/-- A path behind the text of the steps before it. -/
def renderOnto (written : String) : List PathStep → String
  | [] => written
  | step :: rest => renderOnto (written ++ step.render written.isEmpty) rest

/-- The text of a path. -/
def renderPath (path : List PathStep) : String := renderOnto "" path

end PathStep

/-- A sentence about the place at the end of a path. -/
structure Explanation where
  path : List PathStep
  message : String
  deriving DecidableEq, Repr

namespace Explanation

/-- The text of the path. -/
def renderedPath (explanation : Explanation) : String := PathStep.renderPath explanation.path

/-- The sentence, behind its path if that has any step. -/
def line (explanation : Explanation) : String :=
  if explanation.path.isEmpty then explanation.message
  else explanation.renderedPath ++ ": " ++ explanation.message

/-- The same explanation seen from one step further outside. -/
def under (step : PathStep) (explanation : Explanation) : Explanation :=
  { explanation with path := step :: explanation.path }

end Explanation

/-- The kinds of failures. -/
inductive Failure.Kind where
  | incorrectType
  | invalidValue
  | noMatchingUnionMember
  | unexpectedProperty
  | incorrectArity
  deriving DecidableEq, Repr

/-- How a message calls a kind. -/
def Failure.Kind.label : Failure.Kind → String
  | incorrectType => "incorrect type"
  | invalidValue => "invalid value"
  | noMatchingUnionMember => "no matching union member"
  | unexpectedProperty => "unexpected property"
  | incorrectArity => "incorrect arity"

/-- Why a check rejects a value. -/
structure Failure where
  kind : Failure.Kind
  information : List Explanation
  deriving DecidableEq, Repr

/-- How a message calls a value, which may be missing. -/
def describeInput : Option Json → String
  | none => "undefined"
  | some .null => "null"
  | some (.bool b) => if b then "boolean true" else "boolean false"
  | some (.number n) => "number " ++ n.render
  | some (.text s) => "string " ++ Text.quoted s
  | some (.array items) => "array of length " ++ toString items.length
  | some (.object _) => "object"

namespace Failure

/-- A failure of the whole value with one sentence. -/
def ofMessage (kind : Kind) (message : String) : Failure := ⟨kind, [⟨[], message⟩]⟩

/-- The failure of a value that is not of the expected type. -/
def incorrectType (expected : String) (input : Option Json) : Failure :=
  ofMessage .incorrectType ("expected " ++ expected ++ ", received " ++ describeInput input)

/-- The failure of a value that breaks a rule. -/
def invalidValue (message : String) : Failure := ofMessage .invalidValue message

/-- The failure of a part, as a failure of the value that a step leads into. -/
def under (step : PathStep) (failure : Failure) : Failure :=
  { failure with information := failure.information.map (Explanation.under step) }

/-- Several failures as one, of the first one's kind. -/
def combine? : List Failure → Option Failure
  | [] => none
  | first :: rest => some ⟨first.kind, (first :: rest).flatMap information⟩

/-- The lines of a failure. -/
def lines (failure : Failure) : List String := failure.information.map Explanation.line

/-- The first line of a failure. -/
def firstLine? (failure : Failure) : Option String := failure.lines.head?

/-- Whether a text occurs in another one. -/
def occursIn (fragment : List Char) : List Char → Bool
  | [] => fragment.isEmpty
  | c :: rest => fragment.isPrefixOf (c :: rest) || occursIn fragment rest

/-- Whether a text occurs in the path of an explanation. -/
def mentions (failure : Failure) (fragment : String) : Bool :=
  failure.information.any fun explanation =>
    occursIn fragment.toList explanation.renderedPath.toList

/-- What the lines come down to. -/
def summary (failure : Failure) : String :=
  match failure.lines with
  | [] => "no further information"
  | [only] => only
  | first :: rest => first ++ " (and " ++ toString rest.length ++ " more)"

/-- The text of a failure. -/
def message (failure : Failure) : String := failure.kind.label ++ ": " ++ failure.summary

/-! ### Several results -/

variable {α β : Type}

/-- The failures among some results. -/
def failuresOf (results : List (Except Failure α)) : List Failure :=
  results.filterMap fun
    | .ok _ => none
    | .error failure => some failure

/-- The values among some results. -/
def valuesOf (results : List (Except Failure α)) : List α :=
  results.filterMap Except.toOption

/-- All values when no result is a failure, and otherwise all failures as one. -/
def collect (results : List (Except Failure α)) : Except Failure (List α) :=
  match combine? (failuresOf results) with
  | some failure => .error failure
  | none => .ok (valuesOf results)

/-- A result of a part, as a result of the value that a step leads into. -/
def atStep (step : PathStep) : Except Failure α → Except Failure α
  | .ok value => .ok value
  | .error failure => .error (failure.under step)

theorem atStep_eq_ok_iff {step : PathStep} {result : Except Failure α} {value : α} :
    atStep step result = .ok value ↔ result = .ok value := by
  cases result <;> simp [atStep]

theorem map_eq_ok_iff {β : Type} {result : Except Failure α} {f : α → β} {value : β} :
    result.map f = .ok value ↔ ∃ own, result = .ok own ∧ f own = value := by
  cases result <;> simp [Except.map]

@[simp]
theorem under_kind (step : PathStep) (failure : Failure) :
    (failure.under step).kind = failure.kind := rfl

@[simp]
theorem under_information (step : PathStep) (failure : Failure) :
    (failure.under step).information = failure.information.map (Explanation.under step) := rfl

@[simp]
theorem combine?_eq_none_iff {failures : List Failure} :
    combine? failures = none ↔ failures = [] := by
  cases failures <;> simp [combine?]

theorem information_of_combine? {failures : List Failure} {failure : Failure}
    (h : combine? failures = some failure) :
    failure.information = failures.flatMap information := by
  cases failures with
  | nil => simp [combine?] at h
  | cons first rest => rw [← Option.some.inj h]

end Failure

end ChatCommand
