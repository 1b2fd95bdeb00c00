import ChatCommand.Extraction
import ChatCommand.Proofs.Json.Fields
import ChatCommand.Proofs.Template.Uses

/-!
# What a message says about each argument

An extraction succeeds when no argument is only partly supplied and no required one is missing. Then
the blocks of an optional argument are there or missing together with its value, and an argument
that is used has the text captured for it.

## Main definitions

- `Extraction.text?`: the text yielded for the argument with an ordinal.
- `Compiled.findings`: what a message says about all arguments.
- `Compiled.Complete`: nothing is only partly supplied and nothing required is missing.

## Main results

- `Complete.isSome_block`, `Complete.value_eq`: how values go with the blocks and texts captured.
- `Compiled.extract_eq_complete_iff`: when an extraction is complete, and with which values.
-/

namespace ChatCommand

/-- The text yielded for the argument with an ordinal. -/
def Extraction.text? (extraction : Extraction) (arguments : List Argument) (n : Nat) :
    Option (List Char) := do
  let argument ← Argument.withOrdinal? arguments n
  let value ← Json.Fields.get? argument.id extraction.values
  value.map String.toList

theorem Extraction.succeeded_iff {extraction : Extraction} :
    extraction.succeeded = true ↔ ∃ values, extraction = .complete values := by
  cases extraction <;> simp [succeeded]

namespace Argument

variable {arguments : List Argument} {argument : Argument} {n : Nat}

theorem mem_numbered_iff :
    (n, argument) ∈ numbered arguments ↔ withOrdinal? arguments n = some argument := by
  unfold numbered withOrdinal?
  rw [List.mem_mapIdx]
  constructor
  · rintro ⟨index, bound, equal⟩
    obtain ⟨rfl, rfl⟩ := Prod.mk.inj equal
    rw [if_neg (Nat.succ_ne_zero index), Nat.add_sub_cancel]
    exact List.getElem?_eq_getElem bound
  · intro found
    split at found
    next => contradiction
    next positive =>
      obtain ⟨bound, here⟩ := List.getElem?_eq_some_iff.mp found
      exact ⟨n - 1, bound, Prod.ext (by simp; omega) here⟩

/-- The numbered arguments are the declared ones. -/
theorem map_numbered {β : Type} (f : Argument → β) (arguments : List Argument) :
    (numbered arguments).map (fun entry => f entry.2) = arguments.map f := by
  refine List.ext_getElem? fun index => ?_
  simp [numbered, Function.comp_def]

end Argument

namespace Compiled

open Pattern (textOf?)

variable {compiled : Compiled} {captures : List Pattern.Capture} {arguments : List Argument}
  {argument : Argument} {message : String} {n k : Nat}

/-- No block disagrees when all are there or all are missing. -/
theorem disagreeing_cons_eq_nil_iff {first : Option (List Char)}
    {others : List (Option (List Char))} :
    disagreeing argument (first :: others) = [] ↔
      ∀ block ∈ others, block.isSome = first.isSome := by
  unfold disagreeing
  simp only [List.filterMap_eq_nil_iff, List.mem_mapIdx]
  constructor
  · intro none block member
    obtain ⟨index, bound, rfl⟩ := List.getElem_of_mem member
    have agrees := none _ ⟨index, bound, rfl⟩
    simpa using agrees
  · rintro same _ ⟨index, bound, rfl⟩
    simp [same _ (List.getElem_mem bound)]

theorem mem_blockTexts (positive : 0 < k) (bound : k ≤ compiled.template.blockCount n) :
    textOf? captures (.keyOff n k) ∈ compiled.blockTexts captures n := by
  refine List.mem_map.mpr ⟨k - 1, List.mem_range.mpr (by omega), ?_⟩
  rw [Nat.sub_add_cancel positive]

/-- An optional argument that is not partly supplied has a value when its blocks are there, and when
it is used this is the text captured. -/
theorem findOptional_consistent
    (consistent : (compiled.findOptional captures n argument).inconsistencies = []) :
    (∀ block ∈ compiled.blockTexts captures n,
      block.isSome = (compiled.findOptional captures n argument).value.isSome) ∧
    (n ∈ compiled.template.referenced →
      (compiled.findOptional captures n argument).value.isSome = true →
      (compiled.findOptional captures n argument).value =
        (textOf? captures (.argument n)).map String.ofList) := by
  unfold findOptional at consistent ⊢
  generalize compiled.blockTexts captures n = blocks at consistent ⊢
  generalize textOf? captures (.argument n) = captured at consistent ⊢
  -- No block at all, a first block that is missing, or one that is there.
  rcases blocks with - | ⟨- | block, others⟩
  · exact ⟨nofun, fun _ _ => rfl⟩
  · refine ⟨List.forall_mem_cons.mpr ⟨rfl, ?_⟩, fun _ => nofun⟩
    exact disagreeing_cons_eq_nil_iff.mp consistent
  · rcases captured with - | text
    · by_cases used : n ∈ compiled.template.referenced
      · simp [used] at consistent
      · simp only [used, if_false] at consistent ⊢
        refine ⟨List.forall_mem_cons.mpr ⟨rfl, ?_⟩, False.elim⟩
        exact disagreeing_cons_eq_nil_iff.mp consistent
    · refine ⟨List.forall_mem_cons.mpr ⟨rfl, ?_⟩, fun _ _ => rfl⟩
      exact disagreeing_cons_eq_nil_iff.mp consistent

/-- An optional argument whose blocks are all there is supplied, when its text is captured in case
it is used. -/
theorem findOptional_of_present (exist : compiled.blockTexts captures n ≠ [])
    (present : ∀ block ∈ compiled.blockTexts captures n, block.isSome = true)
    (captured : n ∈ compiled.template.referenced →
      (textOf? captures (.argument n)).isSome = true) :
    (compiled.findOptional captures n argument).inconsistencies = [] ∧
      (compiled.findOptional captures n argument).value.isSome = true := by
  unfold findOptional
  generalize compiled.blockTexts captures n = blocks at exist present ⊢
  generalize textOf? captures (.argument n) = found at captured ⊢
  rcases blocks with - | ⟨- | block, others⟩
  · contradiction
  · exact absurd (present none List.mem_cons_self) nofun
  · have agree : disagreeing argument (some block :: others) = [] :=
      disagreeing_cons_eq_nil_iff.mpr fun other member =>
        present other (List.mem_cons_of_mem _ member)
    rcases found with - | text
    · have unused : n ∉ compiled.template.referenced := fun used => nomatch captured used
      simp [agree, unused]
    · exact ⟨agree, rfl⟩

/-- Without a block and without a use nothing is found of an optional argument. -/
theorem findOptional_of_noBlock (noBlock : n ∉ compiled.template.blockOwners)
    (uncaptured : textOf? captures (.argument n) = none) :
    compiled.findOptional captures n argument = ⟨[], none⟩ := by
  have none : compiled.blockTexts captures n = [] := by
    simp [blockTexts, Template.blockCount, List.count_eq_zero.mpr noBlock]
  unfold findOptional
  rw [none, uncaptured]
  rfl

/-- Nothing is only partly supplied and nothing required is missing. -/
def Complete (compiled : Compiled) (captures : List Pattern.Capture) (arguments : List Argument) :
    Prop :=
  ∀ n argument, Argument.withOrdinal? arguments n = some argument →
    (compiled.find captures n argument).inconsistencies = [] ∧
      (argument.optional = false → (compiled.find captures n argument).value.isSome = true)

theorem find_of_optional (optional : argument.optional = true) :
    compiled.find captures n argument = compiled.findOptional captures n argument := by
  unfold find
  rw [if_pos optional]

theorem find_of_required (required : argument.optional = false) :
    compiled.find captures n argument =
      ⟨[], (textOf? captures (.argument n)).map String.ofList⟩ := by
  unfold find
  rw [required]
  rfl

/-- The blocks of an optional argument are there just when it has a value. -/
theorem Complete.isSome_block (complete : compiled.Complete captures arguments)
    (declared : Argument.withOrdinal? arguments n = some argument)
    (optional : argument.optional = true) (positive : 0 < k)
    (bound : k ≤ compiled.template.blockCount n) :
    (textOf? captures (.keyOff n k)).isSome =
      (compiled.find captures n argument).value.isSome := by
  have consistent := (complete n argument declared).1
  rw [find_of_optional optional] at consistent ⊢
  exact (findOptional_consistent consistent).1 _ (mem_blockTexts positive bound)

/-- The value of an argument that is used is the text captured for it. -/
theorem Complete.value_eq (complete : compiled.Complete captures arguments)
    (declared : Argument.withOrdinal? arguments n = some argument)
    (used : n ∈ compiled.template.referenced)
    (supplied : (compiled.find captures n argument).value.isSome = true) :
    (compiled.find captures n argument).value =
      (textOf? captures (.argument n)).map String.ofList := by
  cases optional : argument.optional with
  | false => rw [find_of_required optional]
  | true =>
    have consistent := (complete n argument declared).1
    rw [find_of_optional optional] at consistent supplied ⊢
    exact (findOptional_consistent consistent).2 used supplied

/-- What is found of each argument, in the order of declaration. -/
def findings (compiled : Compiled) (captures : List Pattern.Capture) (arguments : List Argument) :
    List (Argument × Finding) :=
  (Argument.numbered arguments).map fun (n, argument) =>
    (argument, compiled.find captures n argument)

theorem mem_findings_iff {finding : Finding} :
    (argument, finding) ∈ compiled.findings captures arguments ↔
      ∃ n, Argument.withOrdinal? arguments n = some argument ∧
        compiled.find captures n argument = finding := by
  unfold findings
  rw [List.mem_map]
  constructor
  · rintro ⟨⟨n, argument⟩, member, equal⟩
    obtain ⟨rfl, rfl⟩ := Prod.mk.inj equal
    exact ⟨n, Argument.mem_numbered_iff.mp member, rfl⟩
  · rintro ⟨n, declared, rfl⟩
    exact ⟨(n, argument), Argument.mem_numbered_iff.mpr declared, rfl⟩

theorem complete_iff :
    compiled.Complete captures arguments ↔
      ((compiled.findings captures arguments).flatMap fun found => found.2.inconsistencies) = [] ∧
        ((compiled.findings captures arguments).find? fun (argument, finding) =>
          !argument.optional && finding.value.isNone) = none := by
  rw [List.flatMap_eq_nil_iff, List.find?_eq_none]
  constructor
  · intro complete
    constructor
    · rintro ⟨argument, finding⟩ member
      obtain ⟨n, declared, rfl⟩ := mem_findings_iff.mp member
      exact (complete n argument declared).1
    · rintro ⟨argument, finding⟩ member missing
      obtain ⟨n, declared, rfl⟩ := mem_findings_iff.mp member
      have supplied := (complete n argument declared).2
      simp_all
  · rintro ⟨consistent, supplied⟩ n argument declared
    have member : (argument, compiled.find captures n argument) ∈
        compiled.findings captures arguments := mem_findings_iff.mpr ⟨n, declared, rfl⟩
    refine ⟨consistent _ member, fun required => ?_⟩
    have present := supplied _ member
    simpa [required, Option.isSome_iff_ne_none] using present

/-- An extraction is complete when the message matches and everything found is. -/
theorem extract_eq_complete_iff {values : List (String × Option String)} :
    compiled.extract arguments message = .complete values ↔
      ∃ captures, compiled.pattern.captures? message.toList = some captures ∧
        compiled.Complete captures arguments ∧
        Json.Fields.sort ((compiled.findings captures arguments).map fun found =>
          (found.1.id, found.2.value)) = values := by
  unfold extract
  cases compiled.pattern.captures? message.toList with
  | none => simp
  | some captures =>
    simp only [Option.some.injEq, exists_eq_left', complete_iff]
    rw [← findings]
    constructor
    · intro complete
      split at complete
      next => contradiction
      next consistent =>
        split at complete
        next => contradiction
        next supplied =>
          exact ⟨⟨consistent, Option.map_eq_none_iff.mp supplied⟩, Extraction.complete.inj complete⟩
    · rintro ⟨⟨consistent, supplied⟩, rfl⟩
      rw [consistent, supplied]
      rfl

/-- What is reported missing is the first required argument of which nothing was found. -/
theorem missing?_extract (matched : compiled.pattern.captures? message.toList = some captures) :
    (compiled.extract arguments message).missing? =
      ((compiled.findings captures arguments).find? fun (argument, finding) =>
        !argument.optional && finding.value.isNone).map fun found => found.1.id := by
  unfold extract
  rw [matched]
  dsimp only
  rw [← findings]
  split
  next => rfl
  next =>
    split
    next missing => exact missing.symm
    next complete => exact complete.symm

/-- What is found has a field for each argument. -/
theorem keys_findings (compiled : Compiled) (captures : List Pattern.Capture)
    (arguments : List Argument) :
    Json.Fields.keys ((compiled.findings captures arguments).map fun found =>
      (found.1.id, found.2.value)) = arguments.map Argument.id := by
  unfold Json.Fields.keys findings
  rw [List.map_map, List.map_map]
  exact Argument.map_numbered Argument.id arguments

/-- Sorting keeps the fields, one for each argument. -/
theorem keys_sort_findings_perm (distinct : (arguments.map Argument.id).Nodup) :
    (Json.Fields.keys (Json.Fields.sort ((compiled.findings captures arguments).map fun found =>
      (found.1.id, found.2.value)))).Perm (arguments.map Argument.id) := by
  have listed := keys_findings compiled captures arguments
  exact listed ▸ (Json.Fields.sort_perm (listed ▸ distinct)).map Prod.fst

/-- What a complete extraction keeps under the key of an argument is what was found of it. -/
theorem get?_yielded (distinct : (arguments.map Argument.id).Nodup)
    {values : List (String × Option String)}
    (yielded : Json.Fields.sort ((compiled.findings captures arguments).map fun found =>
      (found.1.id, found.2.value)) = values)
    (declared : Argument.withOrdinal? arguments n = some argument) :
    Json.Fields.get? argument.id values = some (compiled.find captures n argument).value := by
  have listed := keys_findings compiled captures arguments
  have member : (argument.id, (compiled.find captures n argument).value) ∈
      (compiled.findings captures arguments).map fun found => (found.1.id, found.2.value) :=
    List.mem_map.mpr ⟨(argument, _), mem_findings_iff.mpr ⟨n, declared, rfl⟩, rfl⟩
  exact yielded ▸ Json.Fields.get?_sort_of_mem (listed ▸ distinct) member

/-- What a complete extraction yields for an argument is what was found of it. -/
theorem text?_eq (distinct : (arguments.map Argument.id).Nodup)
    {values : List (String × Option String)}
    (yielded : Json.Fields.sort ((compiled.findings captures arguments).map fun found =>
      (found.1.id, found.2.value)) = values)
    (declared : Argument.withOrdinal? arguments n = some argument) :
    (Extraction.complete values).text? arguments n =
      (compiled.find captures n argument).value.map String.toList := by
  unfold Extraction.text?
  rw [declared]
  show (Json.Fields.get? argument.id values).bind _ = _
  rw [get?_yielded distinct yielded declared]
  rfl

end Compiled

end ChatCommand
