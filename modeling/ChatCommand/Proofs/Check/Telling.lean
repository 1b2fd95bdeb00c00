import ChatCommand.Proofs.Check.Composed
import ChatCommand.Proofs.Check.Leaf
import ChatCommand.Proofs.Check.Parts
import ChatCommand.Proofs.Check.Regular

/-!
# Failures that tell something

All that checks say begins with single sentences. A failure of a part is put under a step, and
several failures are joined to one; nothing else is ever done with them. So whatever holds of single
sentences and is kept by steps and by joining holds of every failure of a check, however the check
is put together and whatever is done to its input before. One such law is that there is at least one
explanation, and with it a first line.

## Main definitions

- `Failure.Hereditary`: what single sentences have, and what steps and joining keep.
- `Failure.Telling`: a failure has a first explanation, which gives its first line.
- `Check.Assembled`: checks put together in any way.

## Main results

- `Check.Assembled.failsOnly`: what is hereditary holds of all failures of an assembled check.
- `Check.telling_of_rejected`: all failures of an assembled check tell something.
-/

namespace ChatCommand

namespace Failure

variable {α : Type} {P : Failure → Prop}

/-- A property that single sentences have, and that is kept under a step and by joining two
failures. -/
structure Hereditary (P : Failure → Prop) : Prop where
  sentence : ∀ kind message, P (ofMessage kind message)
  under : ∀ step failure, P failure → P (failure.under step)
  joined : ∀ kind first second, P first → P second →
    P ⟨kind, first.information ++ second.information⟩

/-- The failure has a first explanation, and this gives its first line. -/
def Telling (failure : Failure) : Prop :=
  ∃ first others, failure.information = first :: others ∧ failure.firstLine? = some first.line

theorem telling_of_information_ne_nil {failure : Failure} (told : failure.information ≠ []) :
    failure.Telling := by
  obtain ⟨first, others, same⟩ := List.exists_cons_of_ne_nil told
  refine ⟨first, others, same, ?_⟩
  unfold firstLine? lines
  rw [same]
  rfl

theorem hereditary_information_ne_nil : Hereditary fun failure => failure.information ≠ [] where
  sentence _ _ := List.cons_ne_nil _ _
  under _ _ told := List.map_eq_nil_iff.not.mpr told
  joined _ _ _ told _ := List.append_ne_nil_of_left_ne_nil told _

/-- Several failures are joined one after the other. -/
theorem Hereditary.combine? (hereditary : Hereditary P) {failures : List Failure}
    (each : ∀ failure ∈ failures, P failure) {failure : Failure}
    (combined : combine? failures = some failure) : P failure := by
  cases failures with
  | nil => contradiction
  | cons first rest =>
    obtain ⟨holds, others⟩ := List.forall_mem_cons.mp each
    rw [← Option.some.inj combined, List.flatMap_cons]
    clear each combined
    -- What has been joined so far takes the place of the first failure.
    induction rest generalizing first with
    | nil => simpa using holds
    | cons second rest ih =>
      obtain ⟨holdsToo, others⟩ := List.forall_mem_cons.mp others
      have both := hereditary.joined first.kind first second holds holdsToo
      simpa using ih _ both others

namespace Hereditary

variable (hereditary : Hereditary P)
include hereditary

theorem only {result : Except Failure α} (sentence : Only IsSentence result) : Only P result := by
  refine sentence.mono ?_
  rintro _ ⟨kind, message, rfl⟩
  exact hereditary.sentence kind message

theorem ofMessage (kind : Kind) (message : String) :
    Only P (.error (.ofMessage kind message) : Except Failure α) :=
  hereditary.only (only_ofMessage kind message)

theorem atStep {result : Except Failure α} (only : Only P result) (step : PathStep) :
    Only P (atStep step result) := by
  cases result with
  | ok value => exact only_ok value
  | error failure => exact only_error (hereditary.under step failure (only failure rfl))

theorem collect {results : List (Except Failure α)} (each : ∀ result ∈ results, Only P result) :
    Only P (collect results) := by
  intro failure failed
  refine hereditary.combine? (fun own member => ?_) (collect_eq_error_iff.mp failed)
  obtain ⟨result, listed, found⟩ := List.mem_filterMap.mp member
  cases result with
  | ok value => contradiction
  | error failure => exact each _ listed own (congrArg Except.error (Option.some.inj found))

end Hereditary

end Failure

namespace Check

open Failure (Hereditary Only only_ok only_error Telling)

/-! ### Assembled checks -/

/-- The check is put together from the leaves in any way, preparations of the input included. -/
inductive Assembled : {α : Type} → Check α → Prop where
  | leaf {α : Type} {check : Check α} (leaf : Leaf check) : Assembled check
  | before {α : Type} {inner : Check α} (prepare : Json → Json) (assembled : Assembled inner) :
      Assembled (inner.before prepare)
  | array {α : Type} {item : Check α} (assembled : Assembled item) : Assembled (array item)
  | tuple {elements : List (Check Json)} (assembled : ∀ element ∈ elements, Assembled element) :
      Assembled (tuple elements)
  | object {shape : Shape} (properties : ∀ property ∈ shape.properties, Assembled property.2)
      (key : ∀ keyCheck valueCheck, shape.others = some (keyCheck, valueCheck) →
        Assembled keyCheck)
      (value : ∀ keyCheck valueCheck, shape.others = some (keyCheck, valueCheck) →
        Assembled valueCheck) :
      Assembled (object shape)
  | union {α : Type} {first second : Check α} (one : Assembled first) (two : Assembled second)
      (side : α → Side) : Assembled (union first second side)
  | nullable {α : Type} {inner : Check α} (assembled : Assembled inner) :
      Assembled (nullable inner)
  | optional {α : Type} {inner : Check α} (assembled : Assembled inner) :
      Assembled (optional inner)
  | intersection {α β γ : Type} {first : Check α} {second : Check β} (one : Assembled first)
      (two : Assembled second) (merge : α → β → γ) : Assembled (intersection first second merge)
  | erase {α : Type} [JsonForm α] {inner : Check α} (assembled : Assembled inner) :
      Assembled inner.erase
  | named {α : Type} {inner : Check α} (name : String) (assembled : Assembled inner) :
      Assembled (inner.named name)
  | validate {α : Type} {inner : Check α} (rule : α → Option Violation)
      (assembled : Assembled inner) : Assembled (inner.validate rule)
  | normalize {α : Type} {inner : Check α} (normal : α → α) (assembled : Assembled inner) :
      Assembled (inner.normalize normal)
  | convert {α β : Type} {inner : Check α} (name : String) (conversion : α → Except Violation β)
      (assembled : Assembled inner) : Assembled (inner.convert name conversion)

/-- A check put together without a preparation is assembled. -/
theorem Composed.assembled {α : Type} {check : Check α} (composed : Composed check) :
    Assembled check := by
  induction composed with
  | string => exact .leaf .string
  | number => exact .leaf .number
  | integer => exact .leaf .integer
  | boolean => exact .leaf .boolean
  | any => exact .leaf .any
  | value expected => exact .leaf (.value expected)
  | null => exact .leaf .null
  | undefined => exact .leaf .undefined
  | unsignedNumber α name => exact .leaf (.unsignedNumber α name)
  | unsignedLike α name inner => exact .leaf (.unsignedLike α name inner)
  | array _ ih => exact .array ih
  | tuple _ ih => exact .tuple ih
  | object _ _ _ properties key value => exact .object properties key value
  | union _ _ side one two => exact .union one two side
  | nullable _ ih => exact .nullable ih
  | optional _ ih => exact .optional ih
  | intersection _ _ merge one two => exact .intersection one two merge
  | erase _ ih => exact .erase ih
  | named name _ ih => exact .named name ih
  | validate rule _ ih => exact .validate rule ih
  | normalize normal _ ih => exact .normalize normal ih
  | convert name conversion _ ih => exact .convert name conversion ih

/-! ### What assembled checks say -/

variable {α β γ : Type} {check first second : Check α} {other : Check β} {P : Failure → Prop}

/-- The failures of both phases have the property. -/
structure FailsOnly (P : Failure → Prop) (check : Check α) : Prop where
  transform : ∀ input, Only P (check.transform input)
  refine : ∀ subject value, Only P (check.refine subject value)

theorem FailsOnly.run (fails : check.FailsOnly P) (input : Option Json) :
    Only P (check.run input) :=
  (fails.transform input).bind fun value => fails.refine _ value

theorem failsOnly_ofTransform {name : String} {transform : Option Json → Except Failure α}
    (reads : ∀ input, Only P (transform input)) : (ofTransform name transform).FailsOnly P :=
  ⟨reads, fun _ value => only_ok value⟩

theorem Leaf.failsOnly (leaf : Leaf check) (hereditary : Hereditary P) : check.FailsOnly P where
  transform input := hereditary.only (leaf.only_isSentence input)
  refine subject value := by
    rw [leaf.refine_eq]
    exact only_ok value

namespace FailsOnly

theorem liftSome (fails : check.FailsOnly P) : check.liftSome.FailsOnly P where
  transform input := (fails.transform input).map some
  refine subject
    | some value => (fails.refine subject value).map some
    | none => only_ok none

variable (hereditary : Hereditary P)
include hereditary

theorem validate (fails : check.FailsOnly P) (rule : α → Option Violation) :
    (check.validate rule).FailsOnly P := by
  refine ⟨fails.transform, fun subject value => (fails.refine subject value).bind fun value => ?_⟩
  cases rule value with
  | none => exact only_ok value
  | some violation => exact hereditary.ofMessage _ _

theorem convert (fails : check.FailsOnly P) (name : String) (conversion : α → Except Violation β) :
    (check.convert name conversion).FailsOnly P := by
  refine failsOnly_ofTransform fun input => (fails.run input).bind fun value => ?_
  cases conversion value with
  | ok converted => exact only_ok converted
  | error violation => exact hereditary.ofMessage _ _

theorem erase [JsonForm α] (fails : check.FailsOnly P) : check.erase.FailsOnly P where
  transform input := (fails.transform input).bind fun a => hereditary.only (JsonForm.only_encode a)
  refine subject value :=
    (hereditary.only (only_readBack subject value)).bind fun a =>
      (fails.refine subject a).bind fun a => hereditary.only (JsonForm.only_encode a)

theorem union (one : first.FailsOnly P) (two : second.FailsOnly P) (side : α → Side) :
    (union first second side).FailsOnly P where
  transform input := by
    rw [transform_union]
    split
    next => exact only_ok _
    next firstFailure rejected =>
      split
      next => exact only_ok _
      next secondFailure rejectedToo =>
        exact only_error (hereditary.joined _ _ _
          (hereditary.under _ _ (one.transform input _ rejected))
          (hereditary.under _ _ (two.transform input _ rejectedToo)))
  refine _ value := by
    apply hereditary.atStep
    cases side value with
    | first => exact one.refine _ value
    | second => exact two.refine _ value

theorem orAbsent (fails : check.FailsOnly P) {marker : Check Unit} (leaf : Leaf marker) :
    (Check.union (absence marker) check.liftSome absentFirst).FailsOnly P := by
  have absence : (Check.absence (α := α) marker).FailsOnly P :=
    failsOnly_ofTransform fun input => ((leaf.failsOnly hereditary).run input).map _
  exact absence.union hereditary fails.liftSome absentFirst

theorem intersection (one : check.FailsOnly P) (two : other.FailsOnly P) (merge : α → β → γ) :
    (intersection check other merge).FailsOnly P := by
  refine failsOnly_ofTransform fun input => ?_
  have readsOne := hereditary.atStep (one.run input) (.member check.name)
  have readsTwo := hereditary.atStep (two.run input) (.member other.name)
  split
  next => exact only_ok _
  next failure _ rejected _ => exact only_error (readsOne failure rejected)
  next _ failure _ rejected => exact only_error (readsTwo failure rejected)
  next firstFailure secondFailure rejected rejectedToo =>
    exact only_error (hereditary.joined _ _ _ (readsOne _ rejected) (readsTwo _ rejectedToo))

theorem array (fails : check.FailsOnly P) : (array check).FailsOnly P := by
  refine failsOnly_ofTransform fun input => ?_
  split
  · refine hereditary.collect fun result member => ?_
    obtain ⟨position, within, rfl⟩ := List.mem_mapIdx.mp member
    exact hereditary.atStep (fails.run _) _
  · exact hereditary.ofMessage _ _

theorem tuple {elements : List (Check Json)} (each : ∀ element ∈ elements, element.FailsOnly P) :
    (tuple elements).FailsOnly P := by
  refine failsOnly_ofTransform fun input => ?_
  split
  · split
    · refine hereditary.collect fun result member => ?_
      obtain ⟨position, within, rfl⟩ := List.mem_mapIdx.mp member
      have listed := (List.of_mem_zip (List.getElem_mem within)).2
      exact hereditary.atStep ((each _ listed).run _) _
    · exact hereditary.ofMessage _ _
  · exact hereditary.ofMessage _ _

theorem declared {property : String × Check Json} (fails : property.2.FailsOnly P)
    (fields : Json.Fields) : Only P (Shape.declared fields property) := by
  unfold Shape.declared
  dsimp only
  split
  next => exact only_ok _
  next failure rejected =>
    exact only_error (hereditary.under _ _ (fails.run _ failure rejected))

theorem undeclared {shape : Shape} (field : String × Json)
    (others : ∀ keyCheck valueCheck, shape.others = some (keyCheck, valueCheck) →
      keyCheck.FailsOnly P ∧ valueCheck.FailsOnly P) :
    Only P (shape.undeclared field) := by
  unfold Shape.undeclared
  split
  next => exact only_error (hereditary.under _ _ (hereditary.sentence _ _))
  next keyCheck valueCheck allowed =>
    obtain ⟨key, value⟩ := others keyCheck valueCheck allowed
    exact hereditary.atStep
      ((key.run _).bind fun _ => (value.run _).bind fun _ => only_ok _) _

theorem object {shape : Shape} (properties : ∀ property ∈ shape.properties, property.2.FailsOnly P)
    (others : ∀ keyCheck valueCheck, shape.others = some (keyCheck, valueCheck) →
      keyCheck.FailsOnly P ∧ valueCheck.FailsOnly P) : (object shape).FailsOnly P := by
  refine failsOnly_ofTransform fun input => ?_
  split
  next fields =>
    refine Only.bind (hereditary.collect fun result member => ?_) fun accepted => only_ok _
    rcases List.mem_append.mp member with first | later
    · obtain ⟨property, listed, rfl⟩ := List.mem_map.mp first
      exact declared hereditary (properties property listed) fields
    · obtain ⟨field, -, rfl⟩ := List.mem_map.mp later
      exact undeclared hereditary field others
  next => exact hereditary.ofMessage _ _

end FailsOnly

/-- What is hereditary holds of every failure of an assembled check, in both phases. -/
theorem Assembled.failsOnly (assembled : Assembled check) (hereditary : Hereditary P) :
    check.FailsOnly P := by
  -- The induction is on how the check is put together.
  induction assembled with
  | leaf leaf => exact leaf.failsOnly hereditary
  | before prepare _ ih => exact ⟨fun input => ih.transform (input.map prepare), ih.refine⟩
  | array _ ih => exact ih.array hereditary
  | tuple _ ih => exact FailsOnly.tuple hereditary ih
  | object _ _ _ properties key value =>
    exact FailsOnly.object hereditary properties fun keyCheck valueCheck allowed =>
      ⟨key keyCheck valueCheck allowed, value keyCheck valueCheck allowed⟩
  | union _ _ side one two => exact one.union hereditary two side
  | nullable _ ih =>
    have both := ih.orAbsent hereditary .null
    exact ⟨both.transform, both.refine⟩
  | optional _ ih =>
    have both := ih.orAbsent hereditary .undefined
    exact ⟨both.transform, both.refine⟩
  | intersection _ _ merge one two => exact one.intersection hereditary two merge
  | erase _ ih => exact ih.erase hereditary
  | named name _ ih => exact ⟨ih.transform, ih.refine⟩
  | validate rule _ ih => exact ih.validate hereditary rule
  | normalize normal _ ih =>
    exact ⟨ih.transform, fun subject value => (ih.refine subject value).map normal⟩
  | convert name conversion _ ih => exact ih.convert hereditary name conversion

/-- Whatever an assembled check rejects, while it reads an input, while it refines a value or in
both phases one after the other, it has something to say about, and so there is a first line. -/
theorem telling_of_rejected (assembled : Assembled check) :
    (∀ input failure, check.transform input = .error failure → failure.Telling) ∧
    (∀ value failure, check.refineOwn value = .error failure → failure.Telling) ∧
    ∀ input failure, check.run input = .error failure → failure.Telling := by
  have fails := assembled.failsOnly Failure.hereditary_information_ne_nil
  refine ⟨fun input failure rejected => ?_, fun value failure rejected => ?_,
    fun input failure rejected => ?_⟩
  · exact Failure.telling_of_information_ne_nil (fails.transform input failure rejected)
  · exact Failure.telling_of_information_ne_nil (fails.refine _ value failure rejected)
  · exact Failure.telling_of_information_ne_nil (fails.run input failure rejected)

/-- At most two identifiers, of which a single one is put into a list before it is read. -/
def recipients : Check (List String) :=
  ((array snowflake).validate fun found =>
    if found.length ≤ 2 then none
    else some fun subject => subject ++ " must have at most two entries").before fun value =>
      .array [value]

/-- A short identifier is rejected while it is read, and a third one when the list is refined. -/
theorem telling_of_rejected_recipients : Assembled recipients ∧
    (∃ failure, recipients.run (some (.text "7")) = .error failure ∧ failure.Telling) ∧
    ∃ failure, recipients.refineOwn ["a", "b", "c"] = .error failure ∧ failure.Telling := by
  have assembled : Assembled recipients :=
    .before _ (.validate _ (.array Composed.snowflake.assembled))
  obtain ⟨-, refining, running⟩ := telling_of_rejected assembled
  have unread : recipients.run (some (.text "7")) = .error ⟨.invalidValue, [⟨[.index 0],
      "Snowflake must be a 17 to 20 digit identifier, received \"7\""⟩]⟩ := by rfl
  have refused : recipients.refineOwn ["a", "b", "c"] =
      .error (.invalidValue "Array<Snowflake> must have at most two entries") := by rfl
  exact ⟨assembled, ⟨_, unread, running _ _ unread⟩, ⟨_, refused, refining _ _ refused⟩⟩

end Check

end ChatCommand
