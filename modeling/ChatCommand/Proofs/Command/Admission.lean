import ChatCommand.Command.Constraint
import ChatCommand.Proofs.Check.Transparent
import ChatCommand.Proofs.Check.Unsigned

/-!
# What constraints admit

What the check of a constraint accepts, and what it yields, is said here of the inputs alone,
without the phases of the check: a text of the right form is kept as it is, a digest is put into
lower case, a choice becomes the first listed word that agrees with it, and a number becomes a JSON
number however it was written.

## Main definitions

- `Check.OnTexts`, `Check.Denotes`: inputs that are texts, and inputs that denote a number.
- `Constraint.FirstListed`: the word that a choice becomes.
- `Constraint.Admits`: inputs that a constraint admits, with what it makes of them.

## Main results

- `Constraint.run_toCheck_eq_ok_iff`: the check of a constraint accepts what the constraint admits.
-/

namespace ChatCommand

namespace Check

variable {name : String} {rule : String → Option Violation} {input value : Json}

/-! ### Texts -/

/-- The input is a text, and the value is the text that it becomes. -/
def OnTexts (becomes : String → String → Prop) (input value : Json) : Prop :=
  ∃ s t, input = .text s ∧ becomes s t ∧ value = .text t

theorem onTexts_congr {becomes becomes' : String → String → Prop}
    (same : ∀ s t, becomes s t ↔ becomes' s t) :
    OnTexts becomes input value ↔ OnTexts becomes' input value :=
  exists₂_congr fun s t => and_congr_right fun _ => and_congr_left fun _ => same s t

theorem onTexts_text_iff {becomes : String → String → Prop} {s : String} :
    OnTexts becomes (.text s) value ↔ ∃ t, becomes s t ∧ value = .text t := by
  simp [OnTexts]

theorem run_erase_text_eq_ok_iff {check : Check String} :
    check.erase.run (some input) = .ok value ↔
      ∃ t, check.run (some input) = .ok t ∧ value = .text t := by
  rw [run_erase_eq_ok_iff .text]
  exact exists_congr fun t => and_congr_right fun _ => Option.some_inj.trans eq_comm

theorem run_erase_ruled_eq_ok_iff :
    ((string.named name).validate rule).erase.run (some input) = .ok value ↔
      OnTexts (fun s t => rule s = none ∧ s = t) input value := by
  simp only [run_erase_text_eq_ok_iff, run_ruled_eq_ok_iff]
  grind [OnTexts]

theorem run_erase_normalized_eq_ok_iff {normal : String → String} :
    (((string.named name).validate rule).normalize normal).erase.run (some input) = .ok value ↔
      OnTexts (fun s t => rule s = none ∧ normal s = t) input value := by
  simp only [run_erase_text_eq_ok_iff, run_normalize, Failure.map_eq_ok_iff, run_ruled_eq_ok_iff]
  grind [OnTexts]

/-! ### Numbers -/

/-- The input is the number, or a text of its decimal digits. -/
def Denotes : Json → Nat → Prop
  | .number x, n => x.value = n
  | .text s, n => Text.IsDecimal s.toList ∧ n = Text.decimalValue s.toList
  | _, _ => False

theorem denotes_ofInt (n : Nat) : Denotes (.ofInt n) n := Int.cast_natCast n

theorem run_unsignedLike_eq_ok_iff {α : Type} [UnsignedWord α] [LawfulWord α] {inner : String}
    {word : α} :
    (unsignedLike α name (unsignedNumber α inner)).run (some input) = .ok word ↔
      Denotes input (LawfulWord.toNat word) := by
  cases input with
  | text s => exact run_unsignedLike_text_eq_ok_iff nofun
  | number x =>
    rw [run_unsignedLike_number]
    exact run_unsignedNumber_eq_ok_iff
  | null | bool | array | object => exact ⟨nofun, nofun⟩

theorem run_uint4Like_eq_ok_iff {word : UInt32} :
    uint4Like.run (some input) = .ok word ↔ Denotes input word.toNat :=
  run_unsignedLike_eq_ok_iff

theorem run_uint8Like_eq_ok_iff {word : UInt64} :
    uint8Like.run (some input) = .ok word ↔ Denotes input word.toNat :=
  run_unsignedLike_eq_ok_iff

end Check

namespace Constraint

/-! ### Choices -/

/-- The word is the first of some that agrees with a text up to the case of ASCII letters. -/
structure FirstListed (values : List String) (text word : String) : Prop where
  same : Text.sameAscii word.toList text.toList = true
  first : ∃ before after, values = before ++ word :: after ∧
    ∀ other ∈ before, Text.sameAscii other.toList text.toList = false

theorem firstListed_iff {values : List String} {text word : String} :
    FirstListed values text word ↔
      values.find? (fun value => Text.sameAscii value.toList text.toList) = some word := by
  rw [List.find?_eq_some_iff_append]
  simp only [Bool.not_eq_true']
  exact ⟨fun ⟨same, first⟩ => ⟨same, first⟩, fun ⟨same, first⟩ => ⟨same, first⟩⟩

/-- The rule of a choice and its normal form each go through the list, and find the same word. -/
theorem oneOf_canonical_iff {values : List String} {text word : String} :
    Rule.oneOf values text = none ∧ canonical values text = word ↔
      FirstListed values text word := by
  rw [firstListed_iff, Rule.oneOf_eq_none_iff, ← List.find?_isSome]
  unfold canonical
  cases values.find? fun value => Text.sameAscii value.toList text.toList <;> simp

/-! ### Inputs and results -/

open Check (OnTexts Denotes onTexts_congr)

/-- The usual numbers of digits in a digest. -/
def usualLengths : List Nat := [32, 40, 64]

/-- The inputs that a constraint admits, and what it makes of them. -/
def Admits : Constraint → Json → Json → Prop
  | string min max => OnTexts fun s t =>
    ((∀ least ∈ min, least.toNat ≤ s.length) ∧ ∀ greatest ∈ max, s.length ≤ greatest.toNat) ∧ s = t
  | snowflake => OnTexts fun s t => Check.isSnowflake s.toList = true ∧ s = t
  | uint4 min max => fun input value => ∃ word : UInt32,
    (Denotes input word.toNat ∧ (∀ least ∈ min, least ≤ word) ∧ ∀ greatest ∈ max, word ≤ greatest) ∧
      value = .ofInt word.toNat
  | uint8 => fun input value => ∃ word : UInt64,
    Denotes input word.toNat ∧ value = .ofInt word.toNat
  | boolean => fun input value => ∃ b, (∃ s, input = .text s ∧ Check.truthOf s = .ok b) ∧
    value = .bool b
  | choice values => OnTexts (FirstListed values)
  | hexDigest none => OnTexts fun s t =>
    (∃ length ∈ usualLengths, Check.isHexOf length s.toList = true) ∧ Text.lowerAscii s = t
  | hexDigest (some length) => OnTexts fun s t =>
    Check.isHexOf length.toNat s.toList = true ∧ Text.lowerAscii s = t
  | statusLink => OnTexts fun s t => Check.isStatusLink s.toList = true ∧ s = t

/-- The check of a constraint accepts what the constraint admits, and yields what it makes of it. -/
theorem run_toCheck_eq_ok_iff {constraint : Constraint} {check : Check Json}
    (made : constraint.toCheck = .ok check) {input value : Json} :
    check.run (some input) = .ok value ↔ constraint.Admits input value := by
  cases constraint with
  | string min max =>
    obtain ⟨-, rfl⟩ := toCheck_string_eq_ok_iff.mp made
    split
    next free =>
      obtain ⟨rfl, rfl⟩ : min = none ∧ max = none := by simpa using free
      simp [Check.run_erase_text_eq_ok_iff, Check.run_string_eq_ok_iff, Admits, OnTexts]
    next bounded =>
      refine Check.run_erase_ruled_eq_ok_iff.trans (onTexts_congr fun s t => and_congr_left' ?_)
      simp [Rule.length_eq_none_iff, Bounds.contains_inclusive_iff, Quantity.rank]
  | uint4 min max =>
    obtain ⟨-, rfl⟩ := toCheck_uint4_eq_ok_iff.mp made
    -- Without bounds there is no rule, and with some they are compared as words.
    split
    next free =>
      obtain ⟨rfl, rfl⟩ : min = none ∧ max = none := by simpa using free
      refine (Check.run_erase_eq_ok_iff .word32).trans (exists_congr fun word => ?_)
      refine and_congr ?_ (Option.some_inj.trans eq_comm)
      simp [Check.run_uint4Like_eq_ok_iff]
    next bounded =>
      refine (Check.run_erase_eq_ok_iff .word32).trans (exists_congr fun word => ?_)
      refine and_congr ?_ (Option.some_inj.trans eq_comm)
      rw [Check.run_validate_eq_ok_iff, Check.run_uint4Like_eq_ok_iff, Rule.inRange_eq_none_iff,
        Bounds.contains_inclusive_iff]
      simp [Quantity.rank, UInt32.le_iff_toNat_le]
  | uint8 =>
    obtain rfl := Except.ok.inj made
    refine (Check.run_erase_eq_ok_iff .word64).trans (exists_congr fun word => ?_)
    exact and_congr Check.run_uint8Like_eq_ok_iff (Option.some_inj.trans eq_comm)
  | boolean =>
    obtain rfl := Except.ok.inj made
    refine (Check.run_erase_eq_ok_iff .truth).trans (exists_congr fun b => ?_)
    refine and_congr ?_ (Option.some_inj.trans eq_comm)
    exact Check.run_convert_eq_ok_iff.trans (exists_congr fun s =>
      and_congr_left' (Check.run_string_eq_ok_iff.trans Option.some_inj))
  | choice values =>
    obtain ⟨-, rfl⟩ := toCheck_choice_eq_ok_iff.mp made
    exact Check.run_erase_normalized_eq_ok_iff.trans (onTexts_congr fun _ _ => oneOf_canonical_iff)
  | hexDigest length =>
    cases length with
    | none =>
      obtain rfl := Except.ok.inj made
      refine Check.run_erase_normalized_eq_ok_iff.trans
        (onTexts_congr fun s t => and_congr_left' ?_)
      rw [Rule.matching_eq_none_iff]
      simp [usualLengths, or_assoc]
    | some length =>
      obtain ⟨-, rfl⟩ := toCheck_digest_eq_ok_iff.mp made
      exact Check.run_erase_normalized_eq_ok_iff.trans
        (onTexts_congr fun s t => and_congr_left' Check.hexOf_eq_none_iff)
  | snowflake | statusLink =>
    obtain rfl := Except.ok.inj made
    exact Check.run_erase_ruled_eq_ok_iff.trans
      (onTexts_congr fun s t => and_congr_left' Rule.matching_eq_none_iff)

end Constraint

end ChatCommand
