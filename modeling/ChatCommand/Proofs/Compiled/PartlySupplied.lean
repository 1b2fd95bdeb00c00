import ChatCommand.Pattern.Limits
import ChatCommand.Proofs.Compiled.Compilation
import ChatCommand.Proofs.Compiled.Findings
import ChatCommand.Proofs.Pattern.Foremost
import Mathlib

/-!
# Arguments that are only partly supplied

The blocks of an optional argument are to be there all together or not at all, and the text of an
argument that is used is to be there with them. Blocks may be repeated, stand in one another or in
blocks of other arguments, or come without any use of their argument. Whatever the shape, what is
reported is exact: an argument is reported just when it is only partly supplied, and each entry
says what is wrong with one block.

## Main definitions

- `Pattern.Captured`: a group was captured.
- `Compiled.PartlySupplied`: some block of an argument is there, another or the text is missing.
- `Compiled.Reports`: what is reported of one argument.

## Main results

- `Compiled.reports_find`: what is found of an argument is reported exactly.
- `Compiled.inconsistencies_exact`: the report on a message, and when the extraction succeeds.
-/

namespace ChatCommand

namespace Pattern

variable {captures : List Capture} {group : Group}

/-- The group is among the groups captured. -/
def Captured (captures : List Capture) (group : Group) : Prop :=
  group ∈ captures.map Capture.group

theorem isSome_textOf?_iff : (textOf? captures group).isSome = true ↔ Captured captures group := by
  rw [Option.isSome_iff_ne_none, ne_eq, textOf?_eq_none_iff, Decidable.not_not, Captured]

theorem isSome_textOf?_eq (group other : Group) :
    (textOf? captures group).isSome = (textOf? captures other).isSome ↔
      (Captured captures group ↔ Captured captures other) := by
  rw [Bool.eq_iff_iff, isSome_textOf?_iff, isSome_textOf?_iff]

end Pattern

namespace Compiled

open Pattern (textOf? Captured isSome_textOf?_iff isSome_textOf?_eq)

variable {compiled : Compiled} {captures : List Pattern.Capture} {arguments : List Argument}
  {argument : Argument} {message : String} {n k : Nat}

/-- Some block of the argument is there, while another block of it is missing, or its text is
although the template uses it. -/
def PartlySupplied (compiled : Compiled) (captures : List Pattern.Capture) (n : Nat) : Prop :=
  ∃ k, .keyOff n k ∈ compiled.pattern.groups ∧ Captured captures (.keyOff n k) ∧
    ((∃ l, .keyOff n l ∈ compiled.pattern.groups ∧ ¬ Captured captures (.keyOff n l)) ∨
      (n ∈ compiled.template.referenced ∧ ¬ Captured captures (.argument n)))

/-- What is reported of the argument with an ordinal. -/
structure Reports (compiled : Compiled) (captures : List Pattern.Capture) (n : Nat)
    (argument : Argument) (report : List Inconsistency) : Prop where
  /-- Something is reported just of an optional argument that is only partly supplied. -/
  filled : report ≠ [] ↔ argument.optional = true ∧ compiled.PartlySupplied captures n
  /-- Every entry names the argument and speaks of one of its blocks. -/
  about : ∀ entry ∈ report, entry.name = argument.name ∧
    .keyOff n entry.occurrence ∈ compiled.pattern.groups
  /-- No block is reported twice. -/
  once : (report.map Inconsistency.occurrence).Nodup
  /-- A later block is reported just when it disagrees with the first one, with what it is. -/
  later : ∀ k isPresent, 2 ≤ k →
    (⟨argument.name, k, isPresent⟩ ∈ report ↔
      argument.optional = true ∧ .keyOff n k ∈ compiled.pattern.groups ∧
        (isPresent = true ↔ Captured captures (.keyOff n k)) ∧
        ¬ (Captured captures (.keyOff n k) ↔ Captured captures (.keyOff n 1)))
  /-- The first block is reported just when it is there without the text that is used. -/
  first : ∀ isPresent,
    ⟨argument.name, 1, isPresent⟩ ∈ report ↔
      argument.optional = true ∧ isPresent = true ∧ Captured captures (.keyOff n 1) ∧
        n ∈ compiled.template.referenced ∧ ¬ Captured captures (.argument n)

/-! ### The blocks of an argument -/

theorem keyOff_mem_groups_iff :
    .keyOff n k ∈ compiled.pattern.groups ↔ 1 ≤ k ∧ k ≤ compiled.template.blockCount n := by
  rw [pattern, Template.toPattern_eq, Template.keyOff_mem_groups_iff, Template.Opens,
    List.count_nil, Nat.zero_add, Template.blockCount]
  rfl

theorem getElem?_blockTexts (index : Nat) :
    (compiled.blockTexts captures n)[index]? =
      if index < compiled.template.blockCount n then
        some (textOf? captures (.keyOff n (index + 1)))
      else none := by
  unfold blockTexts
  rw [List.getElem?_map]
  by_cases bound : index < compiled.template.blockCount n
  · rw [if_pos bound, List.getElem?_range bound]
    rfl
  · rw [if_neg bound, List.getElem?_eq_none (by simpa using bound)]
    rfl

/-- What is found to disagree are the later blocks that are there when the first one is missing, or
the other way round. -/
theorem mem_disagreeing_iff {blocks : List (Option (List Char))} {entry : Inconsistency} :
    entry ∈ disagreeing argument blocks ↔
      entry.name = argument.name ∧ 2 ≤ entry.occurrence ∧
        ∃ first block, blocks[0]? = some first ∧ blocks[entry.occurrence - 1]? = some block ∧
          entry.wasPresent = block.isSome ∧ block.isSome ≠ first.isSome := by
  cases blocks with
  | nil => simp [disagreeing]
  | cons first others =>
    unfold disagreeing
    rw [List.mem_filterMap]
    constructor
    · rintro ⟨⟨occurrence, isPresent⟩, member, made⟩
      obtain ⟨index, bound, same⟩ := List.mem_mapIdx.mp member
      obtain ⟨rfl, rfl⟩ := Prod.mk.inj same
      dsimp only at made
      split at made
      next => contradiction
      next differs =>
        obtain rfl := Option.some.inj made
        refine ⟨rfl, Nat.le_add_left 2 index, first, others[index], rfl, ?_, rfl, differs⟩
        simp [bound]
    · rintro ⟨named, later, head, block, here, there, shown, differs⟩
      obtain rfl : first = head := Option.some.inj here
      -- The occurrences of the later blocks are counted from two.
      obtain ⟨index, position⟩ : ∃ index, entry.occurrence = index + 2 :=
        ⟨entry.occurrence - 2, by omega⟩
      have found : others[index]? = some block := by
        rw [position] at there
        exact there
      obtain ⟨bound, rfl⟩ := List.getElem?_eq_some_iff.mp found
      refine ⟨(index + 2, others[index].isSome), List.mem_mapIdx.mpr ⟨index, bound, rfl⟩, ?_⟩
      dsimp only
      rw [if_neg differs, ← named, ← position, ← shown]

theorem nodup_disagreeing (blocks : List (Option (List Char))) :
    ((disagreeing argument blocks).map Inconsistency.occurrence).Nodup := by
  cases blocks with
  | nil => exact .nil
  | cons first others =>
    unfold disagreeing
    unfold List.Nodup
    rw [List.pairwise_map, List.pairwise_filterMap]
    -- The blocks are numbered in order, and an entry keeps the number.
    have numbered : (others.mapIdx fun index block => (index + 2, block.isSome)).Pairwise
        fun one other => one.1 ≠ other.1 := by
      rw [List.pairwise_iff_getElem]
      intro i j boundI boundJ order
      simp only [List.getElem_mapIdx, ne_eq]
      omega
    refine numbered.imp ?_
    rintro ⟨k, isPresent⟩ ⟨l, isPresent'⟩ different entry made entry' made'
    dsimp only at different made made'
    split at made
    next => contradiction
    next =>
      split at made'
      next => contradiction
      next =>
        obtain rfl := Option.some.inj made
        obtain rfl := Option.some.inj made'
        exact different

/-- The blocks that disagree, told by the groups captured. -/
theorem mem_disagreeing_blockTexts_iff {entry : Inconsistency} :
    entry ∈ disagreeing argument (compiled.blockTexts captures n) ↔
      entry.name = argument.name ∧ 2 ≤ entry.occurrence ∧
        .keyOff n entry.occurrence ∈ compiled.pattern.groups ∧
        (entry.wasPresent = true ↔ Captured captures (.keyOff n entry.occurrence)) ∧
        ¬ (Captured captures (.keyOff n entry.occurrence) ↔
          Captured captures (.keyOff n 1)) := by
  rw [mem_disagreeing_iff, keyOff_mem_groups_iff]
  simp only [getElem?_blockTexts, Option.ite_none_right_eq_some, Option.some.injEq]
  refine and_congr_right fun _ => and_congr_right fun later => ?_
  have position : entry.occurrence - 1 + 1 = entry.occurrence := by omega
  rw [position, ← isSome_textOf?_eq, ← isSome_textOf?_iff, ← Bool.eq_iff_iff]
  constructor
  · rintro ⟨_, _, ⟨-, rfl⟩, ⟨bound, rfl⟩, shown, differs⟩
    exact ⟨⟨by omega, by omega⟩, shown, differs⟩
  · rintro ⟨⟨-, bound⟩, shown, differs⟩
    exact ⟨_, _, ⟨by omega, rfl⟩, ⟨by omega, rfl⟩, shown, differs⟩

/-! ### What is reported -/

/-- Of an optional argument the blocks that disagree are reported, and the first one besides when it
is there without its text. -/
theorem inconsistencies_findOptional :
    (compiled.findOptional captures n argument).inconsistencies =
      disagreeing argument (compiled.blockTexts captures n) ++
        if (compiled.blockTexts captures n)[0]?.join.isSome = true ∧
            n ∈ compiled.template.referenced ∧ textOf? captures (.argument n) = none then
          [⟨argument.name, 1, true⟩]
        else [] := by
  unfold findOptional
  generalize compiled.blockTexts captures n = blocks
  generalize textOf? captures (.argument n) = captured
  rcases blocks with - | ⟨- | block, others⟩
  · simp
  · simp
  · rcases captured with - | text
    · by_cases used : n ∈ compiled.template.referenced
      · simp [used]
      · simp [used]
    · simp

theorem nodup_findOptional :
    ((compiled.findOptional captures n argument).inconsistencies.map
      Inconsistency.occurrence).Nodup := by
  rw [inconsistencies_findOptional, List.map_append]
  split
  next =>
    -- The entry about the first block comes after entries about later ones only.
    have alone : [1].Nodup := List.nodup_cons.mpr ⟨List.not_mem_nil, .nil⟩
    refine List.nodup_append.mpr ⟨nodup_disagreeing _, alone, ?_⟩
    intro k later l first
    obtain ⟨entry, member, rfl⟩ := List.mem_map.mp later
    have bound := (mem_disagreeing_iff.mp member).2.1
    have position : l = 1 := List.mem_singleton.mp first
    omega
  next => simpa using nodup_disagreeing _

/-- Only groups of the pattern are captured. -/
theorem mem_groups_of_captured
    (matched : compiled.pattern.captures? message.toList = some captures) {group : Group}
    (captured : Captured captures group) : group ∈ compiled.pattern.groups := by
  obtain ⟨split, -, rfl, -⟩ := Template.exists_first_of_captures? matched
  rw [pattern, Template.toPattern_eq]
  exact (split.groups_captures_sublist [] 0).subset captured

theorem isSome_firstBlock_iff
    (matched : compiled.pattern.captures? message.toList = some captures) :
    (compiled.blockTexts captures n)[0]?.join.isSome = true ↔
      Captured captures (.keyOff n 1) := by
  rw [getElem?_blockTexts]
  by_cases exist : 0 < compiled.template.blockCount n
  · rw [if_pos exist]
    exact isSome_textOf?_iff
  · rw [if_neg exist]
    refine ⟨nofun, fun captured => ?_⟩
    have bounds := keyOff_mem_groups_iff.mp (mem_groups_of_captured matched captured)
    omega

theorem mem_inconsistencies_findOptional_iff
    (matched : compiled.pattern.captures? message.toList = some captures)
    {entry : Inconsistency} :
    entry ∈ (compiled.findOptional captures n argument).inconsistencies ↔
      (entry.name = argument.name ∧ 2 ≤ entry.occurrence ∧
        .keyOff n entry.occurrence ∈ compiled.pattern.groups ∧
        (entry.wasPresent = true ↔ Captured captures (.keyOff n entry.occurrence)) ∧
        ¬ (Captured captures (.keyOff n entry.occurrence) ↔
          Captured captures (.keyOff n 1))) ∨
      (entry = ⟨argument.name, 1, true⟩ ∧ Captured captures (.keyOff n 1) ∧
        n ∈ compiled.template.referenced ∧ ¬ Captured captures (.argument n)) := by
  have there := isSome_firstBlock_iff (n := n) matched
  have missing : ¬ Captured captures (.argument n) ↔ textOf? captures (.argument n) = none := by
    rw [← isSome_textOf?_iff, Option.not_isSome_iff_eq_none]
  rw [inconsistencies_findOptional, List.mem_append, mem_disagreeing_blockTexts_iff, ← there,
    missing]
  refine or_congr_right ?_
  split
  next bare => simp [bare]
  next other =>
    refine ⟨nofun, ?_⟩
    rintro ⟨-, bare⟩
    exact absurd bare other

/-- Something is reported just when the argument is only partly supplied. -/
theorem inconsistencies_findOptional_ne_nil_iff
    (matched : compiled.pattern.captures? message.toList = some captures) :
    (compiled.findOptional captures n argument).inconsistencies ≠ [] ↔
      compiled.PartlySupplied captures n := by
  constructor
  · intro filled
    obtain ⟨entry, member⟩ := List.exists_mem_of_ne_nil _ filled
    rcases (mem_inconsistencies_findOptional_iff matched).mp member with
      ⟨-, -, listed, -, differs⟩ | ⟨-, there, used, bare⟩
    · -- Of the first block and the one reported, one is there and the other is missing.
      have bounds := keyOff_mem_groups_iff.mp listed
      have opens : .keyOff n 1 ∈ compiled.pattern.groups :=
        keyOff_mem_groups_iff.mpr ⟨Nat.le_refl 1, by omega⟩
      by_cases there : Captured captures (.keyOff n 1)
      · refine ⟨1, opens, there, .inl ⟨entry.occurrence, listed, ?_⟩⟩
        intro other
        exact differs ⟨fun _ => there, fun _ => other⟩
      · have other : Captured captures (.keyOff n entry.occurrence) := by
          by_contra missing
          exact differs ⟨fun other => absurd other missing, fun here => absurd here there⟩
        exact ⟨entry.occurrence, listed, other, .inl ⟨1, opens, there⟩⟩
    · exact ⟨1, mem_groups_of_captured matched there, there, .inr ⟨used, bare⟩⟩
  · rintro ⟨k, listed, there, cause⟩
    -- A block that differs from the first one is reported, whichever of the two is there.
    have later (l : Nat) (isPresent : Bool) (opens : .keyOff n l ∈ compiled.pattern.groups)
        (shown : isPresent = true ↔ Captured captures (.keyOff n l))
        (differs : ¬ (Captured captures (.keyOff n l) ↔ Captured captures (.keyOff n 1))) :
        (compiled.findOptional captures n argument).inconsistencies ≠ [] := by
      have bounds := keyOff_mem_groups_iff.mp opens
      have other : l ≠ 1 := by
        rintro rfl
        exact differs Iff.rfl
      have position : 2 ≤ l := by omega
      have reported : ⟨argument.name, l, isPresent⟩ ∈
          (compiled.findOptional captures n argument).inconsistencies :=
        (mem_inconsistencies_findOptional_iff matched).mpr
          (.inl ⟨rfl, position, opens, shown, differs⟩)
      exact List.ne_nil_of_mem reported
    by_cases first : Captured captures (.keyOff n 1)
    · rcases cause with ⟨l, opens, missing⟩ | ⟨used, bare⟩
      · apply later l false opens
        · simp [missing]
        · simp [missing, first]
      · exact List.ne_nil_of_mem ((mem_inconsistencies_findOptional_iff matched).mpr
          (.inr ⟨rfl, first, used, bare⟩))
    · apply later k true listed
      · simp [there]
      · simp [there, first]

/-- What is found of an argument is reported exactly. -/
theorem reports_find (matched : compiled.pattern.captures? message.toList = some captures)
    (n : Nat) (argument : Argument) :
    compiled.Reports captures n argument (compiled.find captures n argument).inconsistencies := by
  -- Nothing is ever reported of a required argument.
  by_cases optional : argument.optional = true
  · rw [find_of_optional optional]
    constructor
    · rw [inconsistencies_findOptional_ne_nil_iff matched]
      simp [optional]
    · intro entry member
      rcases (mem_inconsistencies_findOptional_iff matched).mp member with
        ⟨named, -, opens, -⟩ | ⟨rfl, there, -⟩
      · exact ⟨named, opens⟩
      · exact ⟨rfl, mem_groups_of_captured matched there⟩
    · exact nodup_findOptional
    · intro k isPresent later
      rw [mem_inconsistencies_findOptional_iff matched, Inconsistency.mk.injEq]
      constructor
      · rintro (⟨-, -, disagrees⟩ | ⟨⟨-, rfl, -⟩, -⟩)
        · exact ⟨optional, disagrees⟩
        · omega
      · rintro ⟨-, disagrees⟩
        exact .inl ⟨rfl, later, disagrees⟩
    · intro isPresent
      rw [mem_inconsistencies_findOptional_iff matched, Inconsistency.mk.injEq]
      constructor
      · rintro (⟨-, later, -⟩ | ⟨⟨-, -, rfl⟩, bare⟩)
        · exact absurd later (Nat.not_succ_le_self 1)
        · exact ⟨optional, rfl, bare⟩
      · rintro ⟨-, rfl, bare⟩
        exact .inr ⟨⟨rfl, rfl, rfl⟩, bare⟩
  · have required : argument.optional = false := Bool.eq_false_iff.mpr optional
    rw [find_of_required required]
    constructor <;> simp [required]

/-! ### The report on a message -/

/-- The report on a message goes through the arguments in the order of declaration. -/
theorem inconsistencies_extract
    (matched : compiled.pattern.captures? message.toList = some captures) :
    (compiled.extract arguments message).inconsistencies =
      (compiled.findings captures arguments).flatMap fun found => found.2.inconsistencies := by
  unfold extract
  rw [matched]
  dsimp only
  rw [← findings]
  split
  next first rest reported => exact reported.symm
  next silent =>
    rw [silent]
    split <;> rfl

theorem exists_complete_of_succeeded
    (succeeded : (compiled.extract arguments message).succeeded = true) :
    ∃ captures, compiled.pattern.captures? message.toList = some captures ∧
      compiled.Complete captures arguments := by
  obtain ⟨values, extracted⟩ := Extraction.succeeded_iff.mp succeeded
  obtain ⟨captures, matched, complete, -⟩ := extract_eq_complete_iff.mp extracted
  exact ⟨captures, matched, complete⟩

theorem succeeded_extract_iff
    (matched : compiled.pattern.captures? message.toList = some captures) :
    (compiled.extract arguments message).succeeded = true ↔
      compiled.Complete captures arguments := by
  constructor
  · intro succeeded
    obtain ⟨captures', matched', complete⟩ := exists_complete_of_succeeded succeeded
    obtain rfl := Option.some.inj (matched.symm.trans matched')
    exact complete
  · intro complete
    rw [Extraction.succeeded_iff]
    exact ⟨_, extract_eq_complete_iff.mpr ⟨captures, matched, complete, rfl⟩⟩

/-- An extraction succeeds when no optional argument is only partly supplied and every required one
is captured. -/
theorem succeeded_extract_iff_captured
    (matched : compiled.pattern.captures? message.toList = some captures) :
    (compiled.extract arguments message).succeeded = true ↔
      ∀ n argument, Argument.withOrdinal? arguments n = some argument →
        (argument.optional = true → ¬ compiled.PartlySupplied captures n) ∧
          (argument.optional = false → Captured captures (.argument n)) := by
  rw [succeeded_extract_iff matched]
  refine forall_congr' fun n => forall_congr' fun argument => imp_congr_right fun _ => ?_
  have filled := (reports_find matched n argument).filled
  apply and_congr
  · rw [← not_iff_not, ← ne_eq, filled, Classical.not_imp, not_not]
  · refine imp_congr_right fun required => ?_
    rw [find_of_required required, Option.isSome_map, isSome_textOf?_iff]

/-- Of a message that matches, exactly the optional arguments that are only partly supplied are
reported, in the order of declaration, each by the blocks that disagree with its first one and by
the first one when the text that is used is missing there. The extraction succeeds when there is no
such argument and every required argument is captured. -/
theorem inconsistencies_exact
    (matched : compiled.pattern.captures? message.toList = some captures)
    (arguments : List Argument) :
    (∃ reports : List (List Inconsistency),
      List.Forall₂ (fun entry report => compiled.Reports captures entry.1 entry.2 report)
        (Argument.numbered arguments) reports ∧
      (compiled.extract arguments message).inconsistencies = reports.flatten) ∧
    ((compiled.extract arguments message).succeeded = true ↔
      ∀ n argument, Argument.withOrdinal? arguments n = some argument →
        (argument.optional = true → ¬ compiled.PartlySupplied captures n) ∧
          (argument.optional = false → Captured captures (.argument n))) := by
  refine ⟨?_, succeeded_extract_iff_captured matched⟩
  refine ⟨(Argument.numbered arguments).map fun entry =>
    (compiled.find captures entry.1 entry.2).inconsistencies, ?_, ?_⟩
  · rw [List.forall₂_map_right_iff]
    exact List.forall₂_same.mpr fun entry _ => reports_find matched entry.1 entry.2
  · rw [inconsistencies_extract matched, findings, List.flatMap_map, List.flatMap_def]

open scoped Pattern.Limits in
/-- The inner one of two blocks is missing while the text is given in a third one. -/
theorem inconsistencies_exact_ban : ∃ compiled captures reports,
    compile "!" [.required "user" "User", .ofOptional "reason" "Reason"]
        "<prefix>ban $1{opt $2}[ for {opt $2}[long]]{opt $2}[: $2]" = .ok compiled ∧
      compiled.pattern.captures? "!ban Bob for : spam".toList = some captures ∧
      List.Forall₂ (fun entry report => compiled.Reports captures entry.1 entry.2 report)
        [(1, .required "user" "User"), (2, .ofOptional "reason" "Reason")] reports ∧
      reports.flatten = [⟨"Reason", 2, false⟩] := by
  have compiles : compile "!" [.required "user" "User", .ofOptional "reason" "Reason"]
      "<prefix>ban $1{opt $2}[ for {opt $2}[long]]{opt $2}[: $2]" =
      .ok ⟨"!", .sigil (.literal "ban ".toList (.argument 1
        (.keyOff 2 (.literal " for ".toList (.keyOff 2 (.literal "long".toList .nil) .nil))
          (.keyOff 2 (.literal ": ".toList (.argument 2 .nil)) .nil))))⟩ :=
    compile_eq_ok_iff.mpr ⟨rfl, by cbv, by decide⟩
  have matched : Pattern.captures? (pattern ⟨"!", .sigil (.literal "ban ".toList (.argument 1
        (.keyOff 2 (.literal " for ".toList (.keyOff 2 (.literal "long".toList .nil) .nil))
          (.keyOff 2 (.literal ": ".toList (.argument 2 .nil)) .nil))))⟩)
      "!ban Bob for : spam".toList =
      some [⟨.argument 1, 5, "Bob".toList⟩, ⟨.keyOff 2 1, 8, " for ".toList⟩,
        ⟨.keyOff 2 3, 13, ": spam".toList⟩, ⟨.argument 2, 15, "spam".toList⟩] := by cbv
  obtain ⟨reports, each, reported⟩ := (inconsistencies_exact matched
    [.required "user" "User", .ofOptional "reason" "Reason"]).1
  refine ⟨_, _, reports, compiles, matched, each, reported.symm.trans ?_⟩
  cbv

end Compiled

end ChatCommand
