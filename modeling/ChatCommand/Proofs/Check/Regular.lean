import ChatCommand.Check.Union
import ChatCommand.Command.Constraint
import ChatCommand.Proofs.Check.Leaf

/-!
# Regular checks

The failure of a single value explains itself, and never as an undeclared key: only an object speaks
of those. This is kept by everything that checks are put together with, so it holds of the check of
every constraint, and of that check with `null` allowed beside it. Neither the reading nor the
refinement of a constraint's check yields `null`, which is why a value that may be `null` and a
value that may not are checked alike.

## Main definitions

- `Failure.Proper`: failures that explain something, and no undeclared key.
- `Check.Regular`: checks that have no other failures.
- `Check.Lasting`: regular checks that never yield `null`.

## Main results

- `Constraint.lasting_toCheck`: the checks of constraints never yield `null`.
- `Check.run_erase_nullable_eq_ok_iff`: allowing `null` changes nothing about other values.
-/

namespace ChatCommand

namespace Failure

variable {α β : Type}

/-- What an object says about a key that is not declared. -/
def undeclaredSentence : String := "is not an expected property"

/-- The failure explains something, and no undeclared key. -/
structure Proper (failure : Failure) : Prop where
  kind_ne : failure.kind ≠ .unexpectedProperty
  information_ne_nil : failure.information ≠ []
  message_ne : ∀ explanation ∈ failure.information, explanation.message ≠ undeclaredSentence

/-- A character tells a sentence from the one about undeclared keys. -/
theorem ne_undeclaredSentence {message : String} (c : Char) (inside : c ∈ message.toList)
    (foreign : c ∉ undeclaredSentence.toList) : message ≠ undeclaredSentence := by
  rintro rfl
  exact foreign inside

theorem proper_ofMessage {kind : Kind} {message : String} (other : kind ≠ .unexpectedProperty)
    (apart : message ≠ undeclaredSentence) : (ofMessage kind message).Proper where
  kind_ne := other
  information_ne_nil := List.cons_ne_nil _ _
  message_ne := List.forall_mem_singleton.mpr apart

theorem Proper.under {failure : Failure} (proper : failure.Proper) (step : PathStep) :
    (failure.under step).Proper where
  kind_ne := proper.kind_ne
  information_ne_nil := by simpa using proper.information_ne_nil
  message_ne := List.forall_mem_map.mpr proper.message_ne

/-- The result is a value or a proper failure. -/
def Regular (result : Except Failure α) : Prop :=
  ∀ failure, result = .error failure → failure.Proper

theorem regular_ok (value : α) : Regular (.ok value) := nofun

theorem regular_error {failure : Failure} (proper : failure.Proper) :
    Regular (.error failure : Except Failure α) :=
  only_error proper

theorem regular_invalidValue {message : String} (apart : message ≠ undeclaredSentence) :
    Regular (.error (.invalidValue message) : Except Failure α) :=
  regular_error (proper_ofMessage (by decide) apart)

theorem regular_incorrectType (expected : String) (input : Option Json) :
    Regular (.error (.incorrectType expected input) : Except Failure α) := by
  refine regular_error (proper_ofMessage (by decide) (ne_undeclaredSentence 'v' ?_ (by decide)))
  simp

theorem Regular.bind {result : Except Failure α} {next : α → Except Failure β}
    (regular : Regular result) (later : ∀ value, Regular (next value)) :
    Regular (result >>= next) :=
  Only.bind regular later

theorem Regular.map {result : Except Failure α} (regular : Regular result) (f : α → β) :
    Regular (result.map f) :=
  Only.map regular f

theorem Regular.atStep {result : Except Failure α} (regular : Regular result) (step : PathStep) :
    Regular (atStep step result) := by
  cases result with
  | ok value => exact regular_ok value
  | error failure => exact regular_error ((regular failure rfl).under step)

end Failure

namespace JsonForm

variable {α : Type} [JsonForm α]

theorem regular_encode (a : α) : Failure.Regular (encode a) := by
  unfold encode
  split
  · exact Failure.regular_ok _
  · exact Failure.regular_invalidValue (by decide)

/-- No value of the type is written as `null`. -/
class NeverNull (α : Type) [JsonForm α] : Prop where
  encode?_ne (a : α) : encode? a ≠ some .null

instance : NeverNull String := ⟨nofun⟩

instance : NeverNull Bool := ⟨nofun⟩

instance : NeverNull UInt32 := ⟨nofun⟩

instance : NeverNull UInt64 := ⟨nofun⟩

theorem bind_encode_ne_null [NeverNull α] (result : Except Failure α) :
    result >>= encode ≠ .ok .null := by
  cases result with
  | error failure => nofun
  | ok a =>
    show encode a ≠ _
    unfold encode
    split
    next value written =>
      rintro ⟨rfl⟩
      exact NeverNull.encode?_ne a written
    next => nofun

end JsonForm

/-! ### Broken rules -/

/-- The sentence is never the one about undeclared keys. -/
def Violation.Apart (violation : Violation) : Prop :=
  ∀ subject, violation subject ≠ Failure.undeclaredSentence

/-- A sentence that says what its subject must be speaks of no undeclared key. -/
theorem Violation.apart_of_mem {violation : Violation}
    (must : ∀ subject, 'm' ∈ (violation subject).toList) : violation.Apart := by
  intro subject
  exact Failure.ne_undeclaredSentence 'm' (must subject) (by decide)

namespace Rule

variable {α : Type}

/-- What the rule says of values that break it speaks of no undeclared key. -/
def Apart (rule : α → Option Violation) : Prop :=
  ∀ value violation, rule value = some violation → violation.Apart

theorem apart_ite {broken : α → Bool} {violation : α → Violation}
    (apart : ∀ value, (violation value).Apart) :
    Apart fun value => if broken value then none else some (violation value) := by
  intro value own said
  dsimp only at said
  split at said
  · contradiction
  · exact Option.some.inj said ▸ apart value

theorem apart_inRange [Quantity α] (bounds : Bounds α) : Apart (inRange bounds) :=
  apart_ite fun _ => Violation.apart_of_mem (by simp)

theorem apart_length (bounds : Bounds Nat) : Apart (length bounds) :=
  apart_ite fun _ => Violation.apart_of_mem (by simp)

theorem apart_oneOf (words : List String) : Apart (oneOf words) :=
  apart_ite fun _ => Violation.apart_of_mem (by simp)

theorem apart_matching (form : List Char → Bool) (what : String) : Apart (matching form what) :=
  apart_ite fun _ => Violation.apart_of_mem (by simp)

theorem apart_hexOf (length : Nat) : Apart (Check.hexOf length) :=
  apart_ite fun _ => Violation.apart_of_mem (by simp)

end Rule

namespace Check

variable {α β : Type}

/-- A union reads a value with its first member, or else with its second one. -/
theorem transform_union (first second : Check α) (side : α → Side) (input : Option Json) :
    (union first second side).transform input =
      match first.transform input with
      | .ok value => .ok value
      | .error firstFailure =>
        match second.transform input with
        | .ok value => .ok value
        | .error secondFailure =>
          .error (neither (firstFailure.under (.member first.name))
            (secondFailure.under (.member second.name))) := rfl

/-- The check has no other than proper failures, in both phases. -/
structure Regular (check : Check α) : Prop where
  transform : ∀ input, Failure.Regular (check.transform input)
  refine : ∀ subject value, Failure.Regular (check.refine subject value)

theorem regular_ofTransform {name : String} {transform : Option Json → Except Failure α}
    (reads : ∀ input, Failure.Regular (transform input)) : (ofTransform name transform).Regular :=
  ⟨reads, fun _ value => Failure.regular_ok value⟩

namespace Regular

variable {check first second : Check α}

theorem run (regular : check.Regular) (input : Option Json) : Failure.Regular (check.run input) :=
  (regular.transform input).bind fun value => regular.refine _ value

theorem named (regular : check.Regular) (name : String) : (check.named name).Regular :=
  ⟨regular.transform, regular.refine⟩

theorem validate (regular : check.Regular) {rule : α → Option Violation}
    (apart : Rule.Apart rule) : (check.validate rule).Regular := by
  refine ⟨regular.transform, fun subject value => (regular.refine subject value).bind ?_⟩
  intro value
  cases broken : rule value with
  | none => exact Failure.regular_ok value
  | some violation => exact Failure.regular_invalidValue (apart value violation broken subject)

theorem normalize (regular : check.Regular) (normal : α → α) : (check.normalize normal).Regular :=
  ⟨regular.transform, fun subject value => (regular.refine subject value).map normal⟩

theorem convert (regular : check.Regular) (name : String) {conversion : α → Except Violation β}
    (apart : ∀ value violation, conversion value = .error violation → violation.Apart) :
    (check.convert name conversion).Regular := by
  refine regular_ofTransform fun input => (regular.run input).bind fun value => ?_
  cases converted : conversion value with
  | ok result => exact Failure.regular_ok result
  | error violation => exact Failure.regular_invalidValue (apart value violation converted name)

theorem liftSome (regular : check.Regular) : check.liftSome.Regular where
  transform input := (regular.transform input).map some
  refine subject
    | some value => (regular.refine subject value).map some
    | none => Failure.regular_ok none

theorem union (regular : first.Regular) (other : second.Regular) (side : α → Side) :
    (union first second side).Regular where
  transform input := by
    rw [transform_union]
    split
    next => exact Failure.regular_ok _
    next firstFailure rejected =>
      split
      next => exact Failure.regular_ok _
      next secondFailure rejectedToo =>
        have one := (regular.transform input firstFailure rejected).under (.member first.name)
        have two := (other.transform input secondFailure rejectedToo).under (.member second.name)
        exact Failure.regular_error ⟨nofun,
          List.append_ne_nil_of_left_ne_nil one.information_ne_nil _,
          List.forall_mem_append.mpr ⟨one.message_ne, two.message_ne⟩⟩
  refine _ value := by
    apply Failure.Regular.atStep
    cases side value with
    | first => exact regular.refine _ value
    | second => exact other.refine _ value

theorem nullable (regular : check.Regular) : (nullable check).Regular := by
  have null : Check.null.Regular := by
    apply regular_ofTransform
    intro input
    split
    · exact Failure.regular_ok ()
    · exact Failure.regular_incorrectType _ _
  have absence : (absence (α := α) Check.null).Regular :=
    regular_ofTransform fun input => (null.run input).map _
  exact (absence.union regular.liftSome _).named _

theorem erase [JsonForm α] (regular : check.Regular) : check.erase.Regular where
  transform input := (regular.transform input).bind JsonForm.regular_encode
  refine subject value := by
    refine Failure.Regular.bind ?_ fun a => (regular.refine subject a).bind JsonForm.regular_encode
    unfold readBack
    split
    next => exact Failure.regular_ok _
    next problem =>
      refine Failure.regular_error (Failure.proper_ofMessage (by decide) ?_)
      exact Failure.ne_undeclaredSentence 'v' (by simp) (by decide)

end Regular

/-- The check is regular and never yields `null`, in both phases. -/
structure Lasting (check : Check Json) : Prop extends check.Regular where
  transform_ne_null : ∀ input, check.transform input ≠ .ok .null
  refine_ne_null : ∀ subject value, check.refine subject value ≠ .ok .null

theorem Regular.lasting_erase [JsonForm α] [JsonForm.NeverNull α] {check : Check α}
    (regular : check.Regular) : check.erase.Lasting where
  toRegular := regular.erase
  transform_ne_null input := JsonForm.bind_encode_ne_null (check.transform input)
  refine_ne_null subject value := by
    show (readBack subject value >>= fun a => check.refine subject a >>= JsonForm.encode) ≠ _
    rw [← bind_assoc]
    exact JsonForm.bind_encode_ne_null _

theorem Lasting.run_ne_null {check : Check Json} (lasting : check.Lasting) (input : Option Json) :
    check.run input ≠ .ok .null := by
  show (check.transform input >>= check.refineOwn) ≠ _
  cases check.transform input with
  | ok value => exact lasting.refine_ne_null _ value
  | error failure => nofun

/-! ### Null beside other values -/

theorem run_erase_nullable_null (base : Check Json) :
    (nullable base).erase.run (some .null) = .ok .null := rfl

theorem run_null_of_ne {input : Option Json} (present : input ≠ some .null) :
    null.run input = .error (.incorrectType "null" input) := by
  unfold null
  rw [run_ofTransform]
  split
  · contradiction
  · rfl

/-- Whatever is not `null` is read by the check beside it. -/
theorem transform_nullable (base : Check Json) {input : Option Json}
    (present : input ≠ some .null) :
    (nullable base).transform input =
      match base.transform input with
      | .ok value => .ok (some value)
      | .error failure =>
        .error (neither ((Failure.incorrectType "null" input).under (.member "Null"))
          (failure.under (.member base.name))) := by
  have absent : (absence (α := Json) null).transform input =
      .error (.incorrectType "null" input) := by
    show (null.run input).map _ = _
    rw [run_null_of_ne present]
    rfl
  unfold nullable
  rw [transform_named, transform_union, absent]
  have lifted : base.liftSome.transform input = (base.transform input).map some := rfl
  rw [lifted]
  cases base.transform input <;> rfl

/-- Allowing `null` beside what a check accepts changes nothing about other values, although they
are written and read back on the way. -/
theorem run_erase_nullable_eq_ok_iff {base : Check Json} (lasting : base.Lasting)
    {input : Option Json} (present : input ≠ some .null) {value : Json} :
    (nullable base).erase.run input = .ok value ↔ base.run input = .ok value := by
  show ((nullable base).transform input >>= JsonForm.encode >>=
    (nullable base).erase.refineOwn) = _ ↔ (base.transform input >>= base.refineOwn) = _
  rw [transform_nullable base present]
  cases read : base.transform input with
  | error failure => exact ⟨nofun, nofun⟩
  | ok found =>
    -- What was read is not `null`, so it is not taken for a missing value when it is read back.
    have back (subject : String) :
        (readBack subject found : Except Failure (Option Json)) = .ok (some found) := by
      cases found with
      | null => exact absurd read (lasting.transform_ne_null input)
      | _ => rfl
    show (readBack _ found >>= fun a => (nullable base).refine _ a >>= JsonForm.encode) = _ ↔
      base.refineOwn found = _
    rw [back]
    show (Failure.atStep (.member base.name) ((base.refineOwn found).map some) >>=
      JsonForm.encode) = _ ↔ _
    cases base.refineOwn found with
    | ok refined => exact Iff.rfl
    | error failure => exact ⟨nofun, nofun⟩

/-! ### The leaves -/

theorem regular_string : string.Regular := by
  apply regular_ofTransform
  intro input
  split
  · exact Failure.regular_ok _
  · exact Failure.regular_incorrectType _ _

section

variable (α : Type) [UnsignedWord α]

theorem apart_boundViolation : (boundViolation α).Apart :=
  Violation.apart_of_mem fun _ => by simp [boundViolation]

theorem regular_ofWhole (name : String) (whole : Int) : Failure.Regular (ofWhole α name whole) := by
  unfold ofWhole
  split
  · split
    · exact Failure.regular_ok _
    · exact Failure.regular_invalidValue (apart_boundViolation α name)
  · apply Failure.regular_invalidValue
    exact Failure.ne_undeclaredSentence 'u' (by simp) (by decide)

theorem regular_wholeNumber (n : Json.Number) : Failure.Regular (wholeNumber n) := by
  have refused : Failure.Regular (wholeNumber.refuse n) := by
    apply Failure.regular_invalidValue
    exact Failure.ne_undeclaredSentence 'v' (by simp) (by decide)
  unfold wholeNumber
  split
  · exact Failure.regular_ok _
  · split
    · split
      · exact Failure.regular_ok _
      · exact refused
    · exact refused

theorem regular_unsignedNumber (name : String) : (unsignedNumber α name).Regular := by
  apply regular_ofTransform
  intro input
  split
  next n => exact (regular_wholeNumber n).bind (regular_ofWhole α name)
  next => exact Failure.regular_incorrectType _ _

theorem apart_ofDecimalString (text : String) (violation : Violation)
    (refused : ofDecimalString α text = .error violation) : violation.Apart := by
  unfold ofDecimalString at refused
  split at refused
  · split at refused
    · split at refused
      · split at refused
        · contradiction
        · exact Except.error.inj refused ▸ apart_boundViolation α
      · exact Except.error.inj refused ▸ apart_boundViolation α
    · exact Except.error.inj refused ▸ apart_boundViolation α
  · rw [← Except.error.inj refused]
    exact Violation.apart_of_mem fun _ => by simp

theorem regular_unsignedLike (name : String) {numeric : Check α} (regular : numeric.Regular) :
    (unsignedLike α name numeric).Regular := by
  apply regular_ofTransform
  intro input
  split
  next text =>
    split
    · split
      next => exact Failure.regular_ok _
      next violation refused =>
        exact Failure.regular_invalidValue (apart_ofDecimalString α text violation refused name)
    · exact regular.run _
  next => exact regular.run _

end

theorem apart_truthOf (text : String) (violation : Violation)
    (refused : truthOf text = .error violation) : violation.Apart := by
  unfold truthOf at refused
  dsimp only at refused
  split at refused
  · contradiction
  · split at refused
    · contradiction
    · rw [← Except.error.inj refused]
      exact Violation.apart_of_mem fun _ => by simp

end Check

/-! ### Constraints -/

/-- The check of a constraint has proper failures only and never yields `null`. -/
theorem Constraint.lasting_toCheck {constraint : Constraint} {check : Check Json}
    (made : constraint.toCheck = .ok check) : check.Lasting := by
  -- Most kinds ask a text for a rule, and numbers of both sizes are read alike.
  have ruled {rule : String → Option Violation} (apart : Rule.Apart rule) (name : String) :
      ((Check.string.named name).validate rule).Regular :=
    (Check.regular_string.named name).validate apart
  have uint4 : Check.uint4Like.Regular :=
    Check.regular_unsignedLike UInt32 _ (Check.regular_unsignedNumber UInt32 _)
  have uint8 : Check.uint8Like.Regular :=
    Check.regular_unsignedLike UInt64 _ (Check.regular_unsignedNumber UInt64 _)
  cases constraint with
  | string min max =>
    obtain ⟨-, rfl⟩ := toCheck_string_eq_ok_iff.mp made
    split
    · exact Check.regular_string.lasting_erase
    · exact (ruled (Rule.apart_length _) _).lasting_erase
  | snowflake => exact Except.ok.inj made ▸ (ruled (Rule.apart_matching _ _) _).lasting_erase
  | uint4 min max =>
    obtain ⟨-, rfl⟩ := toCheck_uint4_eq_ok_iff.mp made
    split
    · exact uint4.lasting_erase
    · exact (uint4.validate (Rule.apart_inRange _)).lasting_erase
  | uint8 => exact Except.ok.inj made ▸ uint8.lasting_erase
  | boolean =>
    have words := Check.regular_string.convert "BooleanS" Check.apart_truthOf
    exact Except.ok.inj made ▸ words.lasting_erase
  | choice values =>
    obtain ⟨-, rfl⟩ := toCheck_choice_eq_ok_iff.mp made
    exact ((ruled (Rule.apart_oneOf values) "Choice").normalize (canonical values)).lasting_erase
  | hexDigest length =>
    cases length with
    | none =>
      exact Except.ok.inj made ▸ ((ruled (Rule.apart_matching _ _) _).normalize _).lasting_erase
    | some length =>
      obtain ⟨-, rfl⟩ := toCheck_digest_eq_ok_iff.mp made
      exact ((ruled (Rule.apart_hexOf _) _).normalize _).lasting_erase
  | statusLink => exact Except.ok.inj made ▸ (ruled (Rule.apart_matching _ _) _).lasting_erase

end ChatCommand
