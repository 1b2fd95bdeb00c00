import ChatCommand.Check.Primitive
import ChatCommand.Text.Ascii

/-!
# Refinements

Rules about numbers, lengths and words that a check can be narrowed by. Each says in its message
which bound was broken.

## Main definitions

- `Quantity`: types whose values can be compared and shown.
- `Bounds`: intervals with or without their ends.
- `Rule.inRange`, `Rule.length`, `Rule.whole`, `Rule.positive`, `Rule.oneOf`, `Rule.matching`.
-/

namespace ChatCommand

/-- A type whose values have an exact size, with zero at zero, and a written form. -/
class Quantity (α : Type) where
  rank : α → Int
  display : α → String

instance : Quantity Nat := ⟨Int.ofNat, toString⟩

instance : Quantity Int := ⟨id, toString⟩

instance : Quantity UInt32 := ⟨fun n => n.toNat, fun n => toString n.toNat⟩

instance : Quantity UInt64 := ⟨fun n => n.toNat, fun n => toString n.toNat⟩

instance : Quantity Binary64 := ⟨Binary64.units, NumberLayout.sentence.write⟩

/-- One end of an interval. -/
inductive Limit (α : Type) where
  | included (value : α)
  | excluded (value : α)
  | unbounded
  deriving DecidableEq, Repr

/-- An interval. -/
structure Bounds (α : Type) where
  low : Limit α
  high : Limit α
  deriving DecidableEq, Repr

namespace Bounds

variable {α : Type} [Quantity α]

/-- Whether a value lies in the interval. -/
def contains (bounds : Bounds α) (value : α) : Bool :=
  let rank := Quantity.rank value
  let above := match bounds.low with
    | .included least => decide (Quantity.rank least ≤ rank)
    | .excluded least => decide (Quantity.rank least < rank)
    | .unbounded => true
  let below := match bounds.high with
    | .included greatest => decide (rank ≤ Quantity.rank greatest)
    | .excluded greatest => decide (rank < Quantity.rank greatest)
    | .unbounded => true
  above && below

/-- What a message says about the interval. -/
def describe (bounds : Bounds α) : String :=
  let shown (value : α) : String := Quantity.display value
  match bounds.low, bounds.high with
  | .included least, .included greatest => "between " ++ shown least ++ " and " ++ shown greatest
  | .included least, .excluded greatest =>
    "at least " ++ shown least ++ " and less than " ++ shown greatest
  | .excluded least, .included greatest =>
    "greater than " ++ shown least ++ " and at most " ++ shown greatest
  | .excluded least, .excluded greatest =>
    "greater than " ++ shown least ++ " and less than " ++ shown greatest
  | .included least, .unbounded => "at least " ++ shown least
  | .excluded least, .unbounded => "greater than " ++ shown least
  | .unbounded, .included greatest => "at most " ++ shown greatest
  | .unbounded, .excluded greatest => "less than " ++ shown greatest
  | .unbounded, .unbounded => "any value"

/-- The interval between two values that belong to it, where they are given. -/
def inclusive (least greatest : Option α) : Bounds α :=
  ⟨least.elim .unbounded .included, greatest.elim .unbounded .included⟩

theorem contains_inclusive_iff {least greatest : Option α} {value : α} :
    (inclusive least greatest).contains value = true ↔
      (∀ bound ∈ least, Quantity.rank bound ≤ Quantity.rank value) ∧
        ∀ bound ∈ greatest, Quantity.rank value ≤ Quantity.rank bound := by
  cases least <;> cases greatest <;> simp [contains, inclusive]

end Bounds

namespace Rule

variable {α : Type} [Quantity α]

/-- Requires a value in an interval. -/
def inRange (bounds : Bounds α) (value : α) : Option Violation :=
  if bounds.contains value then none
  else some fun subject =>
    subject ++ " must be " ++ bounds.describe ++ ", received " ++ Quantity.display value

/-- Requires a text whose number of characters lies in an interval. -/
def length (bounds : Bounds Nat) (text : String) : Option Violation :=
  if bounds.contains text.length then none
  else some fun subject => subject ++ " must be " ++ bounds.describe ++ " characters long"

/-- Requires a whole number. -/
def whole (value : Binary64) : Option Violation :=
  if value.whole?.isSome then none
  else some fun subject => subject ++ " must be an integer, received " ++ Quantity.display value

/-- Requires a number above zero. -/
def positive (value : α) : Option Violation :=
  if 0 < Quantity.rank value then none
  else some fun subject => subject ++ " must be positive, received " ++ Quantity.display value

/-- Requires one of some words, up to the case of ASCII letters. -/
def oneOf (words : List String) (text : String) : Option Violation :=
  if words.any fun word => Text.sameAscii word.toList text.toList then none
  else some fun subject =>
    subject ++ " must be one of: " ++ ", ".intercalate words ++ "; received " ++ Text.quoted text

/-- Requires a text of a form, which `what` describes. -/
def matching (form : List Char → Bool) (what : String) (text : String) : Option Violation :=
  if form text.toList then none
  else some fun subject => subject ++ " must be " ++ what ++ ", received " ++ Text.quoted text

/-! ### When a rule is kept -/

theorem inRange_eq_none_iff {bounds : Bounds α} {value : α} :
    inRange bounds value = none ↔ bounds.contains value = true := by
  simp [inRange]

theorem length_eq_none_iff {bounds : Bounds Nat} {text : String} :
    length bounds text = none ↔ bounds.contains text.length = true := by
  simp [length]

theorem oneOf_eq_none_iff {words : List String} {text : String} :
    oneOf words text = none ↔
      ∃ word ∈ words, Text.sameAscii word.toList text.toList = true := by
  simp [oneOf]

theorem matching_eq_none_iff {form : List Char → Bool} {what text : String} :
    matching form what text = none ↔ form text.toList = true := by
  simp [matching]

end Rule

end ChatCommand
