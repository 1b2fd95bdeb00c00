import ChatCommand.Check.Erasure
import ChatCommand.Check.Unsigned

/-!
# Leaves

The checks that others are put together from judge their input as a whole. What they say of an input
that they reject is one sentence about the whole, and they have nothing more to say about a value
once it is read. The same goes for writing a value and reading it back.

## Main definitions

- `Failure.Only`: what is said of the failure of a result.
- `Failure.IsSentence`: failures that consist of one sentence about the whole.
- `Check.Leaf`: the checks that others are put together from.

## Main results

- `Check.Leaf.only_isSentence`: leaves reject an input with a sentence.
-/

namespace ChatCommand

namespace Failure

variable {α β : Type} {P Q : Failure → Prop} {result : Except Failure α}

/-- A result that is a failure has the property. -/
def Only (P : Failure → Prop) (result : Except Failure α) : Prop :=
  ∀ failure, result = .error failure → P failure

theorem only_ok (value : α) : Only P (.ok value : Except Failure α) := nofun

theorem only_error {failure : Failure} (holds : P failure) :
    Only P (.error failure : Except Failure α) := by
  intro own same
  exact Except.error.inj same ▸ holds

theorem Only.mono (only : Only P result) (weaker : ∀ failure, P failure → Q failure) :
    Only Q result :=
  fun failure failed => weaker failure (only failure failed)

theorem Only.bind {next : α → Except Failure β} (only : Only P result)
    (later : ∀ value, Only P (next value)) : Only P (result >>= next) := by
  cases result with
  | ok value => exact later value
  | error failure => exact only_error (only failure rfl)

theorem Only.map (only : Only P result) (f : α → β) : Only P (result.map f) := by
  cases result with
  | ok value => exact only_ok (f value)
  | error failure => exact only_error (only failure rfl)

/-- The failure consists of one sentence about the whole. -/
def IsSentence (failure : Failure) : Prop := ∃ kind message, failure = ofMessage kind message

theorem only_ofMessage (kind : Kind) (message : String) :
    Only IsSentence (.error (.ofMessage kind message) : Except Failure α) :=
  only_error ⟨kind, message, rfl⟩

end Failure

open Failure (Only IsSentence only_ok only_ofMessage)

variable {α : Type}

theorem JsonForm.only_encode [JsonForm α] (a : α) : Only IsSentence (encode a) := by
  unfold encode
  split
  · exact only_ok _
  · exact only_ofMessage _ _

namespace Check

theorem only_readBack [JsonForm α] (subject : String) (value : Json) :
    Only IsSentence (readBack subject value : Except Failure α) := by
  unfold readBack
  split
  · exact only_ok _
  · exact only_ofMessage _ _

/-- The checks that others are put together from. -/
inductive Leaf : {α : Type} → Check α → Prop where
  | string : Leaf string
  | number : Leaf number
  | integer : Leaf integer
  | boolean : Leaf boolean
  | any : Leaf any
  | value (expected : Json) : Leaf (value expected)
  | null : Leaf null
  | undefined : Leaf undefined
  | unsignedNumber (α : Type) [UnsignedWord α] (name : String) : Leaf (unsignedNumber α name)
  | unsignedLike (α : Type) [UnsignedWord α] (name inner : String) :
      Leaf (unsignedLike α name (Check.unsignedNumber α inner))

theorem only_wholeNumber (n : Json.Number) : Only IsSentence (wholeNumber n) := by
  unfold wholeNumber wholeNumber.refuse
  split
  · exact only_ok _
  · split
    · split
      · exact only_ok _
      · exact only_ofMessage _ _
    · exact only_ofMessage _ _

theorem only_ofWhole (α : Type) [UnsignedWord α] (name : String) (whole : Int) :
    Only IsSentence (ofWhole α name whole) := by
  unfold ofWhole
  split
  · split
    · exact only_ok _
    · exact only_ofMessage _ _
  · exact only_ofMessage _ _

theorem only_ofTransform {P : Failure → Prop} {name : String}
    {transform : Option Json → Except Failure α} (reads : ∀ input, Only P (transform input)) :
    ∀ input, Only P ((ofTransform name transform).transform input) := reads

theorem only_unsignedNumber (α : Type) [UnsignedWord α] (name : String) :
    ∀ input, Only IsSentence ((unsignedNumber α name).transform input) := by
  apply only_ofTransform
  intro input
  split
  · exact (only_wholeNumber _).bind (only_ofWhole α name)
  · exact only_ofMessage _ _

namespace Leaf

variable {check : Check α}

/-- A leaf rejects an input with one sentence about the whole. -/
theorem only_isSentence (leaf : Leaf check) :
    ∀ input, Only IsSentence (check.transform input) := by
  -- A leaf looks at the input once, and whatever it does not accept it meets with one sentence.
  cases leaf with
  | string | boolean | any | null | undefined =>
    apply only_ofTransform
    intro input
    split
    · exact only_ok _
    · exact only_ofMessage _ _
  | number =>
    apply only_ofTransform
    intro input
    split
    · exact only_ok _
    · split
      · exact only_ok _
      · exact only_ofMessage _ _
    · exact only_ofMessage _ _
  | integer =>
    apply only_ofTransform
    intro input
    split
    · exact only_wholeNumber _
    · exact only_ofMessage _ _
  | value expected =>
    apply only_ofTransform
    intro input
    split
    · split
      · exact only_ok _
      · exact only_ofMessage _ _
    · exact only_ofMessage _ _
  | unsignedNumber α name => exact only_unsignedNumber α name
  | unsignedLike α name inner =>
    have numeric (input : Option Json) :
        Only IsSentence ((Check.unsignedNumber α inner).run input) :=
      (only_unsignedNumber α inner input).bind fun word => only_ok word
    apply only_ofTransform
    intro input
    split
    · split
      · split
        · exact only_ok _
        · exact only_ofMessage _ _
      · exact numeric _
    · exact numeric _

/-- A leaf accepts every value that it has read. -/
theorem refine_eq (leaf : Leaf check) (subject : String) (value : α) :
    check.refine subject value = .ok value := by
  cases leaf <;> rfl

end Leaf

end Check

end ChatCommand
