import ChatCommand.Check.Format
import ChatCommand.Check.Erasure
import ChatCommand.Check.Union
import Mathlib.Data.List.Basic

/-!
# Unions

A union decides twice which of its members a value belongs to. The first member that can read an
input reads it, and afterwards the value alone says which member refines it. When no input is read
by both members and each value is sent to the member that has read it, these decisions agree, and
the union is no more and no less than its members: it yields what one of them yields, and it
explains itself in their words.

## Main definitions

- `Check.ReadApart`: no input is read by both checks.
- `Check.Faithful`: each value is sent to the check that has read it.
- `Check.Unites`: an answer says what one of two checks says.
- `Check.Adds`: one input is accepted beside those of a check.

## Main results

- `Check.run_union_first`, `Check.run_union_second`, `Check.run_union_unread`: unions by cases.
- `Check.union_law`: unions of two checks, and of a check with an absent value.
-/

namespace ChatCommand.Check

open Failure (atStep_eq_ok_iff map_eq_ok_iff)

variable {α : Type}

/-! ### Which member reads and which one refines -/

/-- No input is read by both checks. -/
def ReadApart (first second : Check α) : Prop :=
  ∀ input one two, first.transform input = .ok one → second.transform input ≠ .ok two

/-- Each value is sent to the check that has read it. -/
structure Faithful (first second : Check α) (side : α → Side) : Prop where
  sent_first : ∀ input value, first.transform input = .ok value → side value = .first
  sent_second : ∀ input value, second.transform input = .ok value → side value = .second

/-- The check cannot read the input. -/
def Unread (check : Check α) (input : Option Json) : Prop :=
  ∀ value, check.transform input ≠ .ok value

theorem ReadApart.unread_second {first second : Check α} (apart : ReadApart first second)
    {input : Option Json} {value : α} (read : first.transform input = .ok value) :
    second.Unread input :=
  fun other => apart input value other read

theorem ReadApart.unread_first {first second : Check α} (apart : ReadApart first second)
    {input : Option Json} {value : α} (read : second.transform input = .ok value) :
    first.Unread input :=
  fun other readToo => apart input other value readToo read

theorem Unread.exists_error {check : Check α} {input : Option Json} (unread : check.Unread input) :
    ∃ failure, check.transform input = .error failure := by
  cases answer : check.transform input with
  | ok value => exact absurd answer (unread value)
  | error failure => exact ⟨failure, rfl⟩

theorem Unread.run_ne_ok {check : Check α} {input : Option Json} (unread : check.Unread input)
    (value : α) : check.run input ≠ .ok value := by
  obtain ⟨failure, answer⟩ := unread.exists_error
  simp [run_of_unread answer]

/-! ### What a union answers -/

/-- The answer for an input is that of a union: a value that one of the checks yields; when neither
can read the input, the explanations of both; and when one has read it and refuses what it read,
this refusal, as one of this check. -/
structure Unites (first second : Check α) (input : Option Json) (answer : Except Failure α) :
    Prop where
  eq_ok_iff : ∀ value, answer = .ok value ↔
    first.run input = .ok value ∨ second.run input = .ok value
  eq_of_unread : ∀ one two, first.transform input = .error one →
    second.transform input = .error two →
      answer = .error ⟨.noMatchingUnionMember,
        one.information.map (Explanation.under (.member first.name)) ++
          two.information.map (Explanation.under (.member second.name))⟩
  eq_of_refused : ∀ member ∈ [first, second], ∀ value failure,
    member.transform input = .ok value → member.refineOwn value = .error failure →
      answer = .error ⟨failure.kind,
        failure.information.map (Explanation.under (.member member.name))⟩

section Cases

variable {first second : Check α} {side : α → Side} {input : Option Json} {value : α}

/-- What the first member reads, it refines as well. -/
theorem run_union_first (faithful : Faithful first second side)
    (read : first.transform input = .ok value) :
    (union first second side).run input =
      Failure.atStep (.member first.name) (first.refineOwn value) := by
  have readByUnion : (union first second side).transform input = .ok value := by
    simp [union, read]
  rw [run_of_read readByUnion]
  simp [refineOwn, union, faithful.sent_first input value read]

/-- What the second member reads after the first one could not, it refines as well. -/
theorem run_union_second (faithful : Faithful first second side) (unread : first.Unread input)
    (read : second.transform input = .ok value) :
    (union first second side).run input =
      Failure.atStep (.member second.name) (second.refineOwn value) := by
  obtain ⟨failure, rejected⟩ := unread.exists_error
  have readByUnion : (union first second side).transform input = .ok value := by
    simp [union, rejected, read]
  rw [run_of_read readByUnion]
  simp [refineOwn, union, faithful.sent_second input value read]

theorem run_union_unread {one two : Failure} (unread : first.transform input = .error one)
    (unreadToo : second.transform input = .error two) :
    (union first second side).run input =
      .error (neither (one.under (.member first.name)) (two.under (.member second.name))) := by
  apply run_of_unread
  simp [union, unread, unreadToo]

/-- A union of checks that read different inputs answers as its members do. -/
theorem unites_union (apart : ReadApart first second) (faithful : Faithful first second side)
    (input : Option Json) : Unites first second input ((union first second side).run input) where
  eq_ok_iff value := by
    -- At most one member reads the input, and the other one has no say in the answer then.
    cases read : first.transform input with
    | ok own =>
      have other := (apart.unread_second read).run_ne_ok value
      rw [run_union_first faithful read, atStep_eq_ok_iff, run_of_read read]
      simp [other]
    | error one =>
      rw [run_of_unread read]
      cases readToo : second.transform input with
      | ok own =>
        rw [run_union_second faithful (apart.unread_first readToo) readToo, atStep_eq_ok_iff,
          run_of_read readToo]
        simp
      | error two =>
        rw [run_union_unread read readToo, run_of_unread readToo]
        simp
  eq_of_unread one two unread unreadToo := run_union_unread unread unreadToo
  eq_of_refused := by
    intro member listed value failure read refused
    rcases List.mem_pair.mp listed with rfl | rfl
    · rw [run_union_first faithful read, refused]
      rfl
    · rw [run_union_second faithful (apart.unread_first read) read, refused]
      rfl

end Cases

/-! ### Absent values -/

/-- The answer for an input is that of a check beside which one more input is accepted, as an absent
value. -/
structure Adds (absent : Option Json) (inner : Check α) (input : Option Json)
    (answer : Except Failure (Option α)) : Prop where
  eq_none_iff : answer = .ok none ↔ input = absent
  eq_some_iff : ∀ value, answer = .ok (some value) ↔ inner.run input = .ok value

theorem run_liftSome (inner : Check α) (input : Option Json) :
    inner.liftSome.run input = (inner.run input).map some := by
  cases read : inner.transform input with
  | ok value =>
    have lifted : inner.liftSome.transform input = .ok (some value) := by
      simp [liftSome, read, Except.map]
    rw [run_of_read read, run_of_read lifted]
    rfl
  | error failure =>
    have lifted : inner.liftSome.transform input = .error failure := by
      simp [liftSome, read, Except.map]
    rw [run_of_unread read, run_of_unread lifted]
    rfl

section Absence

variable {marker : Check Unit} {absent input : Option Json} {inner : Check α}

theorem transform_absence_eq_ok_iff (marks : ∀ input, marker.run input = .ok () ↔ input = absent)
    {value : Option α} :
    (absence marker).transform input = .ok value ↔ input = absent ∧ value = none := by
  show (marker.run input).map (fun _ => none) = .ok value ↔ _
  rw [map_eq_ok_iff, ← marks]
  constructor
  · rintro ⟨⟨⟩, marked, rfl⟩
    exact ⟨marked, rfl⟩
  · rintro ⟨marked, rfl⟩
    exact ⟨(), marked, rfl⟩

/-- An absent value is not refined any further. -/
theorem run_absence (marker : Check Unit) (input : Option Json) :
    (absence marker : Check (Option α)).run input = (absence marker).transform input :=
  run_ofTransform _ _ _

theorem transform_liftSome_eq_ok_iff {value : Option α} :
    inner.liftSome.transform input = .ok value ↔
      ∃ own, inner.transform input = .ok own ∧ some own = value :=
  map_eq_ok_iff

theorem adds_union (marks : ∀ input, marker.run input = .ok () ↔ input = absent)
    (unread : inner.Unread absent) (input : Option Json) :
    Adds absent inner input ((union (absence marker) inner.liftSome absentFirst).run input) := by
  have apart : ReadApart (absence marker) inner.liftSome := by
    intro input one two readOne readTwo
    obtain ⟨rfl, -⟩ := (transform_absence_eq_ok_iff marks).mp readOne
    obtain ⟨own, read, -⟩ := transform_liftSome_eq_ok_iff.mp readTwo
    exact unread own read
  have faithful : Faithful (absence marker) inner.liftSome absentFirst := by
    constructor
    · intro input value read
      obtain ⟨-, rfl⟩ := (transform_absence_eq_ok_iff marks).mp read
      rfl
    · intro input value read
      obtain ⟨own, -, rfl⟩ := transform_liftSome_eq_ok_iff.mp read
      rfl
  have either := (unites_union apart faithful input).eq_ok_iff
  simp only [run_absence, transform_absence_eq_ok_iff marks, run_liftSome, map_eq_ok_iff] at either
  constructor
  · simpa using either none
  · intro value
    simpa using either (some value)

end Absence

theorem run_null_eq_ok_iff {input : Option Json} :
    null.run input = .ok () ↔ input = some .null := by
  unfold null
  rw [run_ofTransform]
  split <;> simp_all

theorem run_undefined_eq_ok_iff {input : Option Json} :
    undefined.run input = .ok () ↔ input = none := by
  unfold undefined
  rw [run_ofTransform]
  split <;> simp_all

/-- A union of checks that read different inputs, whose values are sent to the check that has read
them, answers as these checks do. So `null` or a missing value can be accepted beside what a check
accepts, provided that the check itself does not read it. -/
theorem union_law :
    (∀ {α : Type} (first second : Check α) (side : α → Side), ReadApart first second →
      Faithful first second side →
        ∀ input, Unites first second input ((union first second side).run input)) ∧
    (∀ {α : Type} (inner : Check α), inner.Unread (some .null) →
      ∀ input, Adds (some .null) inner input ((nullable inner).run input)) ∧
    ∀ {α : Type} (inner : Check α), inner.Unread none →
      ∀ input, Adds none inner input ((optional inner).run input) := by
  refine ⟨fun first second side apart faithful => unites_union apart faithful, ?_, ?_⟩
  -- The name that the union is given is not a subject of its members' messages.
  · intro α inner unread input
    exact adds_union (fun _ => run_null_eq_ok_iff) unread input
  · intro α inner unread input
    exact adds_union (fun _ => run_undefined_eq_ok_iff) unread input

/-- A word of at most three characters. -/
def code : Check Json :=
  ((string.validate (Rule.length (.inclusive none (some 3)))).named "Code").erase

/-- Texts are on the first side. -/
def textFirst : Json → Side
  | .text _ => .first
  | _ => .second

/-- A code or a number: a word that is too long is a code that is too long. -/
theorem union_law_code :
    ReadApart code uint4Number.erase ∧ Faithful code uint4Number.erase textFirst ∧
    (union code uint4Number.erase textFirst).run (some (.text "long")) =
      .error ⟨.invalidValue,
        [⟨[.member "Code"], "Code must be at most 3 characters long"⟩]⟩ ∧
    string.Unread (some .null) ∧ (nullable string).run (some .null) = .ok none ∧
    integer.Unread none ∧ (optional integer).run none = .ok none := by
  have text {input : Option Json} {value : Json} (read : code.transform input = .ok value) :
      ∃ s, input = some (.text s) ∧ value = .text s := by
    rcases input with _ | _ | _ | _ | s | _ | _
    case some.text => exact ⟨s, rfl, (Except.ok.inj read).symm⟩
    all_goals contradiction
  have apart : ReadApart code uint4Number.erase := by
    intro input one two read
    obtain ⟨s, rfl, -⟩ := text read
    nofun
  have faithful : Faithful code uint4Number.erase textFirst := by
    constructor
    · intro input value read
      obtain ⟨s, -, rfl⟩ := text read
      rfl
    · intro input value read
      change (uint4Number.transform input >>= JsonForm.encode) = .ok value at read
      cases number : uint4Number.transform input with
      | error failure =>
        rw [number] at read
        contradiction
      | ok word =>
        rw [number] at read
        obtain rfl := Except.ok.inj read
        rfl
  have read : code.transform (some (.text "long")) = .ok (.text "long") := rfl
  have refused : code.refineOwn (.text "long") =
      .error (.invalidValue "Code must be at most 3 characters long") := rfl
  have answer := (union_law.1 code uint4Number.erase textFirst apart faithful
    (some (.text "long"))).eq_of_refused code List.mem_cons_self _ _ read refused
  have unreadNull : string.Unread (some .null) := nofun
  have unreadMissing : integer.Unread none := nofun
  exact ⟨apart, faithful, answer,
    unreadNull, (union_law.2.1 string unreadNull _).eq_none_iff.mpr rfl,
    unreadMissing, (union_law.2.2 integer unreadMissing _).eq_none_iff.mpr rfl⟩

end ChatCommand.Check
