import ChatCommand.Check.Erasure
import ChatCommand.Check.Format

/-!
# Constraints

The constraints that a manifest can put on an argument. A constraint whose bounds are the wrong way
round is refused, and so is one that leaves nothing to choose.

## Main definitions

- `Constraint`: constraints as they are declared.
- `Constraint.toCheck`: the check that a constraint stands for.
- `Constraint.Usable`: the constraints that are not refused.
-/

namespace ChatCommand

/-- A constraint on the text of an argument. -/
inductive Constraint where
  /-- Free text with bounds on its length in characters. -/
  | string (minLength maxLength : Option UInt64)
  | snowflake
  /-- A number of 32 bits within bounds. -/
  | uint4 (min max : Option UInt32)
  | uint8
  | boolean
  /-- One of some words, in any ASCII case. -/
  | choice (values : List String)
  /-- A digest of the given length, or of one of the usual lengths. -/
  | hexDigest (length : Option UInt64)
  | statusLink
  deriving DecidableEq, Repr

/-- Why a constraint is refused. -/
inductive ConstraintError where
  | invertedBounds (min max : Nat)
  | noChoices
  | zeroLength
  deriving DecidableEq, Repr

/-- The sentence for an error. -/
def ConstraintError.message : ConstraintError → String
  | invertedBounds min max =>
    "minimum " ++ toString min ++ " is greater than maximum " ++ toString max
  | noChoices => "choice constraint needs at least one value"
  | zeroLength => "hex digest length must be positive"

namespace Constraint

/-- Requires that bounds are the right way round. -/
def inOrder (min max : Option Nat) : Except ConstraintError Unit :=
  match min, max with
  | some min, some max => if max < min then .error (.invertedBounds min max) else .ok ()
  | _, _ => .ok ()

/-- The first of some words that agrees with a text up to ASCII case, or else the text. -/
def canonical (values : List String) (text : String) : String :=
  (values.find? fun value => Text.sameAscii value.toList text.toList).getD text

/-- The check of one of some words, which yields the word as it is listed. -/
def choiceCheck (values : List String) : Check String :=
  ((Check.string.named "Choice").validate (Rule.oneOf values)).normalize (canonical values)

/-- The check that a constraint stands for. -/
def toCheck : Constraint → Except ConstraintError (Check Json)
  | string min max => do
    let min := min.map UInt64.toNat
    let max := max.map UInt64.toNat
    inOrder min max
    if min.isNone && max.isNone then return Check.string.erase
    return ((Check.string.named "Text").validate (Rule.length (.inclusive min max))).erase
  | snowflake => .ok Check.snowflake.erase
  | uint4 min max => do
    inOrder (min.map UInt32.toNat) (max.map UInt32.toNat)
    if min.isNone && max.isNone then return Check.uint4Like.erase
    return (Check.uint4Like.validate (Rule.inRange (.inclusive min max))).erase
  | uint8 => .ok Check.uint8Like.erase
  | boolean => .ok Check.yesOrNo.erase
  | choice values =>
    if values.isEmpty then .error .noChoices else .ok (choiceCheck values).erase
  | hexDigest none => .ok Check.hexDigest.erase
  | hexDigest (some length) =>
    if length = 0 then .error .zeroLength else .ok (Check.hexDigestOf length.toNat).erase
  | statusLink => .ok Check.statusLink.erase

/-! ### Usable constraints -/

variable {check : Check Json}

/-- The bounds are the right way round, and there is something to choose. -/
def Usable : Constraint → Prop
  | string min max => ∀ least ∈ min, ∀ greatest ∈ max, least ≤ greatest
  | uint4 min max => ∀ least ∈ min, ∀ greatest ∈ max, least ≤ greatest
  | choice values => values ≠ []
  | hexDigest length => length ≠ some 0
  | snowflake | uint8 | boolean | statusLink => True

theorem inOrder_eq_ok_iff {min max : Option Nat} :
    inOrder min max = .ok () ↔ ∀ least ∈ min, ∀ greatest ∈ max, least ≤ greatest := by
  cases min <;> cases max <;> simp [inOrder]

/-- Bounds are judged first. Without any, a check without a rule is taken. -/
theorem bounded_eq_ok_iff {order : Except ConstraintError Unit} {free : Bool}
    {plain ruled : Check Json} :
    (order >>= fun _ => if free then pure plain else pure ruled) = .ok check ↔
      order = .ok () ∧ check = if free then plain else ruled := by
  cases order with
  | error problem => exact ⟨nofun, nofun⟩
  | ok _ => cases free <;> simp [Bind.bind, Except.bind, Pure.pure, Except.pure, eq_comm]

theorem toCheck_string_eq_ok_iff {min max : Option UInt64} :
    (string min max).toCheck = .ok check ↔ (string min max).Usable ∧
      check = if min.isNone && max.isNone then Check.string.erase
        else ((Check.string.named "Text").validate
          (Rule.length (.inclusive (min.map UInt64.toNat) (max.map UInt64.toNat)))).erase := by
  refine bounded_eq_ok_iff.trans ?_
  rw [inOrder_eq_ok_iff, Option.isNone_map, Option.isNone_map]
  simp [Usable, UInt64.le_iff_toNat_le]

theorem toCheck_uint4_eq_ok_iff {min max : Option UInt32} :
    (uint4 min max).toCheck = .ok check ↔ (uint4 min max).Usable ∧
      check = if min.isNone && max.isNone then Check.uint4Like.erase
        else (Check.uint4Like.validate (Rule.inRange (.inclusive min max))).erase := by
  refine bounded_eq_ok_iff.trans ?_
  rw [inOrder_eq_ok_iff]
  simp [Usable, UInt32.le_iff_toNat_le]

theorem toCheck_choice_eq_ok_iff {values : List String} :
    (choice values).toCheck = .ok check ↔
      (choice values).Usable ∧ check = (choiceCheck values).erase := by
  cases values <;> simp [toCheck, Usable, eq_comm]

theorem toCheck_digest_eq_ok_iff {length : UInt64} :
    (hexDigest (some length)).toCheck = .ok check ↔
      (hexDigest (some length)).Usable ∧ check = (Check.hexDigestOf length.toNat).erase := by
  by_cases zero : length = 0 <;> simp [toCheck, Usable, zero, eq_comm]

/-- A constraint stands for a check unless it is refused. -/
theorem exists_toCheck_iff {constraint : Constraint} :
    (∃ check, constraint.toCheck = .ok check) ↔ constraint.Usable := by
  cases constraint with
  | string => simp [toCheck_string_eq_ok_iff]
  | uint4 => simp [toCheck_uint4_eq_ok_iff]
  | choice => simp [toCheck_choice_eq_ok_iff]
  | hexDigest length =>
    cases length with
    | none => simp [toCheck, Usable]
    | some => simp [toCheck_digest_eq_ok_iff]
  | snowflake | uint8 | boolean | statusLink => simp [toCheck, Usable]

end Constraint

end ChatCommand
