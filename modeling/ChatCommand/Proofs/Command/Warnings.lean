import ChatCommand.Command.Definition
import ChatCommand.Pattern.Limits
import ChatCommand.Proofs.Compiled.Compilation
import ChatCommand.Proofs.Compiled.Findings
import ChatCommand.Proofs.Pattern.Foremost
import ChatCommand.Proofs.Template.Scoping
import Mathlib.Data.List.Find

/-!
# Warnings and messages

The warnings about arguments are read off the template alone, and yet they say what messages can do.
A required argument is used outside all blocks or not at all, so it is captured in every message or
in none. An optional argument without a block is used nowhere. And without such warnings there is a
message that supplies everything.

## Main definitions

- `LintWarning.neverReferenced?`: the required argument that a warning is about.
- `Definition.WarningsExact`: what the warnings about arguments say of all messages.

## Main results

- `Definition.mem_lint_iff`: the warnings about a definition.
- `Definition.warningsExact_of_compile`: the warnings about arguments are exact.
-/

namespace ChatCommand

open Pattern (textOf?)
open Template (Split)

variable {definition : Definition} {template : Template} {arguments : List Argument}
  {argument : Argument} {compiled : Compiled} {sigil id : String} {n : Nat}

/-! ### The warnings about a definition -/

/-- The required argument that is never referenced, when a warning says so. -/
def LintWarning.neverReferenced? (warning : LintWarning) : Option String :=
  match warning.problem with
  | .neverReferenced id => some id
  | _ => none

namespace Definition

theorem lintArgument_eq_some_iff {problem : LintProblem} :
    lintArgument template n argument = some problem ↔
      (argument.optional = true ∧ n ∉ template.blockOwners ∧ problem = .noBlock argument.id) ∨
        (argument.optional = false ∧ n ∉ template.referenced ∧
          problem = .neverReferenced argument.id) := by
  unfold lintArgument
  simp only [Template.mem_keyedOff_iff]
  cases argument.optional with
  | true => by_cases owner : n ∈ template.blockOwners <;> simp [owner, eq_comm]
  | false => by_cases used : n ∈ template.referenced <;> simp [used, eq_comm]

/-- The warnings about arguments are those about each of them. -/
theorem mem_lint_iff {problem : LintProblem} (about : problem ≠ .otherFirstWord) :
    ⟨definition.name, problem⟩ ∈ definition.lint template ↔
      ∃ n argument, Argument.withOrdinal? definition.arguments n = some argument ∧
        lintArgument template n argument = some problem := by
  unfold lint
  dsimp only
  rw [List.mem_map]
  constructor
  · rintro ⟨_, member, same⟩
    obtain rfl := (LintWarning.mk.inj same).2
    rcases List.mem_append.mp member with member | last
    · obtain ⟨⟨n, argument⟩, declared, found⟩ := List.mem_filterMap.mp member
      exact ⟨n, argument, Argument.mem_numbered_iff.mp declared, found⟩
    · split at last
      · contradiction
      · exact absurd (List.mem_singleton.mp last) about
  · rintro ⟨n, argument, declared, found⟩
    exact ⟨problem, List.mem_append_left _ (List.mem_filterMap.mpr
      ⟨(n, argument), Argument.mem_numbered_iff.mpr declared, found⟩), rfl⟩

/-- The first warning about a required argument is about the first one that is not used. -/
theorem findSome?_neverReferenced (definition : Definition) (template : Template) :
    (definition.lint template).findSome? LintWarning.neverReferenced? =
      ((Argument.numbered definition.arguments).find? fun (n, argument) =>
        !argument.optional && n ∉ template.referenced).map fun entry => entry.2.id := by
  unfold lint
  dsimp only
  rw [List.findSome?_map, List.findSome?_append]
  have last : List.findSome? (LintWarning.neverReferenced? ∘ fun problem =>
      ⟨definition.name, problem⟩)
      (if definition.opensWithName template then [] else [.otherFirstWord]) = none := by
    split <;> rfl
  rw [last, Option.or_none]
  -- The two searches go through the arguments in the same order.
  induction Argument.numbered definition.arguments with
  | nil => rfl
  | cons entry entries ih =>
    obtain ⟨n, argument⟩ := entry
    simp only [List.filterMap_cons]
    cases found : lintArgument template n argument with
    | none =>
      rw [List.find?_cons_of_neg]
      · exact ih
      · simp only [Bool.and_eq_true, Bool.not_eq_true', decide_eq_true_eq, not_and]
        intro required unused
        exact nomatch found.symm.trans
          (lintArgument_eq_some_iff.mpr (.inr ⟨required, unused, rfl⟩))
    | some problem =>
      rw [List.findSome?_cons]
      rcases lintArgument_eq_some_iff.mp found with ⟨optional, -, rfl⟩ | ⟨required, unused, rfl⟩
      · rw [List.find?_cons_of_neg (by simp [optional])]
        exact ih
      · rw [List.find?_cons_of_pos (by simp [required, unused])]
        rfl

/-- When no warning is about an argument, nothing is wrong with the use of any. -/
theorem lintArgument_eq_none
    (silent : ∀ warning ∈ definition.lint template, warning.problem = .otherFirstWord)
    (declared : Argument.withOrdinal? definition.arguments n = some argument) :
    lintArgument template n argument = none := by
  refine Option.eq_none_iff_forall_ne_some.mpr fun problem found => ?_
  have about : problem ≠ .otherFirstWord := by
    rcases lintArgument_eq_some_iff.mp found with ⟨-, -, rfl⟩ | ⟨-, -, rfl⟩ <;> exact nofun
  exact about (silent _ ((mem_lint_iff about).mpr ⟨n, argument, declared, found⟩))

end Definition

/-! ### Messages -/

/-- A required argument is captured in every message or in none. -/
theorem isSome_find_of_required (split : Split sigil.toList compiled.template)
    (wellFormed : compiled.template.WellFormed arguments)
    (declared : Argument.withOrdinal? arguments n = some argument)
    (required : argument.optional = false) :
    (compiled.find (split.captures [] 0) n argument).value.isSome = true ↔
      n ∈ compiled.template.referenced := by
  rw [Compiled.find_of_required required, Option.isSome_map]
  constructor
  · intro captured
    refine Decidable.not_not.mp fun unused => ?_
    rw [split.textOf?_captures_eq_none (mt Template.argument_mem_groups_iff.mp unused)] at captured
    contradiction
  · intro used
    exact split.isSome_textOf?_of_outside (wellFormed.mem_uses_of_used declared required used) 0

/-- Of an optional argument without a block nothing is found. -/
theorem find_of_noBlock (split : Split sigil.toList compiled.template)
    (wellFormed : compiled.template.WellFormed arguments)
    (declared : Argument.withOrdinal? arguments n = some argument)
    (optional : argument.optional = true) (noBlock : n ∉ compiled.template.blockOwners) :
    compiled.find (split.captures [] 0) n argument = ⟨[], none⟩ := by
  have unused : n ∉ compiled.template.referenced :=
    mt (wellFormed.mem_blockOwners_of_used declared optional) noBlock
  rw [Compiled.find_of_optional optional]
  refine Compiled.findOptional_of_noBlock noBlock (split.textOf?_captures_eq_none ?_)
  exact mt Template.argument_mem_groups_iff.mp unused

/-- In the message in which everything is there, an argument is supplied when it is used or owns a
block, as the case may be. -/
theorem find_full (wellFormed : compiled.template.WellFormed arguments)
    (declared : Argument.withOrdinal? arguments n = some argument)
    (unwarned : Definition.lintArgument compiled.template n argument = none) :
    (compiled.find ((Split.full compiled.sigil.toList compiled.template).captures [] 0) n
        argument).inconsistencies = [] ∧
      (compiled.find ((Split.full compiled.sigil.toList compiled.template).captures [] 0) n
        argument).value.isSome = true := by
  have silent (problem : LintProblem) :
      Definition.lintArgument compiled.template n argument ≠ some problem := by
    rw [unwarned]
    exact nofun
  cases optional : argument.optional with
  | false =>
    refine ⟨by rw [Compiled.find_of_required optional], ?_⟩
    refine (isSome_find_of_required _ wellFormed declared optional).mpr ?_
    refine Decidable.not_not.mp fun unused => ?_
    exact silent _ (Definition.lintArgument_eq_some_iff.mpr (.inr ⟨optional, unused, rfl⟩))
  | true =>
    have owner : n ∈ compiled.template.blockOwners := Decidable.not_not.mp fun noBlock =>
      silent _ (Definition.lintArgument_eq_some_iff.mpr (.inl ⟨optional, noBlock, rfl⟩))
    rw [Compiled.find_of_optional optional]
    -- All groups of the pattern are captured, so all its blocks are there, and its text if any.
    refine Compiled.findOptional_of_present ?_ ?_ ?_
    · have count : 0 < compiled.template.blockCount n := List.count_pos_iff.mpr owner
      simpa [Compiled.blockTexts] using Nat.ne_of_gt count
    · intro block member
      obtain ⟨k, bound, rfl⟩ := List.mem_map.mp member
      refine Split.isSome_textOf?_full_iff.mpr (Template.keyOff_mem_groups_iff.mpr ?_)
      have low := List.mem_range.mp bound
      unfold Template.Opens
      rw [List.count_nil, Nat.zero_add]
      exact ⟨Nat.succ_pos k, low⟩
    · intro used
      exact Split.isSome_textOf?_full_iff.mpr (Template.argument_mem_groups_iff.mpr used)

/-! ### Exactness -/

namespace Definition

/-- What the warnings about arguments say of all messages. -/
structure WarningsExact (definition : Definition) (compiled : Compiled) : Prop where
  /-- In every message that matches, the first required argument that is never referenced is the one
  reported missing; when there is none, nothing is. -/
  missing : ∀ message, (compiled.pattern.captures? message.toList).isSome = true →
    (compiled.extract definition.arguments message).missing? =
      (definition.lint compiled.template).findSome? LintWarning.neverReferenced?
  /-- An optional argument without a block is never supplied. -/
  absent : ∀ id, ⟨definition.name, .noBlock id⟩ ∈ definition.lint compiled.template →
    ∀ message values, compiled.extract definition.arguments message = .complete values →
      Json.Fields.get? id values = some none
  /-- Without a warning about an argument, some message supplies all arguments. -/
  supplied : (∀ warning ∈ definition.lint compiled.template, warning.problem = .otherFirstWord) →
    ∃ message values, compiled.extract definition.arguments message = .complete values ∧
      ∀ argument ∈ definition.arguments, ∃ text,
        Json.Fields.get? argument.id values = some (some text)

variable {message : String} {values : List (String × Option String)}

/-- The first required argument that is never referenced is reported missing. -/
theorem missing?_eq_findSome? (wellFormed : compiled.template.WellFormed definition.arguments)
    (matched : (compiled.pattern.captures? message.toList).isSome = true) :
    (compiled.extract definition.arguments message).missing? =
      (definition.lint compiled.template).findSome? LintWarning.neverReferenced? := by
  obtain ⟨captures, matched⟩ := Option.isSome_iff_exists.mp matched
  obtain ⟨split, -, rfl, -⟩ := Template.exists_first_of_captures? matched
  rw [Compiled.missing?_extract matched, findSome?_neverReferenced]
  unfold Compiled.findings
  rw [List.find?_map, Option.map_map]
  -- Argument by argument, what is not used is what is not found.
  refine congrArg (Option.map _) (List.find?_congr ?_)
  rintro ⟨n, argument⟩ member
  have declared := Argument.mem_numbered_iff.mp member
  cases kind : argument.optional with
  | true => simp [kind]
  | false =>
    have found := isSome_find_of_required split wellFormed declared kind
    rw [Bool.eq_iff_iff]
    simp [kind, ← found, Option.isNone_iff_eq_none]

theorem get?_of_noBlock (wellFormed : compiled.template.WellFormed definition.arguments)
    (distinct : (definition.arguments.map Argument.id).Nodup)
    (warned : ⟨definition.name, .noBlock id⟩ ∈ definition.lint compiled.template)
    (extracted : compiled.extract definition.arguments message = .complete values) :
    Json.Fields.get? id values = some none := by
  have about : LintProblem.noBlock id ≠ .otherFirstWord := nofun
  obtain ⟨n, argument, declared, found⟩ := (mem_lint_iff about).mp warned
  obtain ⟨captures, matched, -, yielded⟩ := Compiled.extract_eq_complete_iff.mp extracted
  obtain ⟨split, -, rfl, -⟩ := Template.exists_first_of_captures? matched
  rcases lintArgument_eq_some_iff.mp found with ⟨optional, noBlock, same⟩ | ⟨-, -, other⟩
  · obtain rfl := LintProblem.noBlock.inj same
    rw [Compiled.get?_yielded distinct yielded declared,
      find_of_noBlock split wellFormed declared optional noBlock]
  · contradiction

theorem exists_message_of_silent (wellFormed : compiled.template.WellFormed definition.arguments)
    (distinct : (definition.arguments.map Argument.id).Nodup)
    (silent : ∀ warning ∈ definition.lint compiled.template, warning.problem = .otherFirstWord) :
    ∃ message values, compiled.extract definition.arguments message = .complete values ∧
      ∀ argument ∈ definition.arguments, ∃ text,
        Json.Fields.get? argument.id values = some (some text) := by
  have found (n : Nat) (argument : Argument)
      (declared : Argument.withOrdinal? definition.arguments n = some argument) :=
    find_full wellFormed declared (lintArgument_eq_none silent declared)
  have matched := Template.captures?_full compiled.sigil compiled.template
  rw [← String.toList_ofList
    (l := (Split.full compiled.sigil.toList compiled.template).message)] at matched
  have extracted := Compiled.extract_eq_complete_iff.mpr ⟨_, matched, fun n argument declared =>
    ⟨(found n argument declared).1, fun _ => (found n argument declared).2⟩, rfl⟩
  refine ⟨_, _, extracted, fun argument member => ?_⟩
  obtain ⟨index, here⟩ := List.mem_iff_getElem?.mp member
  have declared : Argument.withOrdinal? definition.arguments (index + 1) = some argument := here
  obtain ⟨text, given⟩ := Option.isSome_iff_exists.mp (found _ _ declared).2
  exact ⟨text, by rw [Compiled.get?_yielded distinct rfl declared, given]⟩

/-- The warnings about arguments say what messages can do. -/
theorem warningsExact_of_compile [Pattern.Builder]
    (distinct : (definition.arguments.map Argument.id).Nodup)
    (compiles : compile sigil definition.arguments definition.source = .ok compiled) :
    definition.WarningsExact compiled := by
  obtain ⟨rfl, read, -⟩ := compile_eq_ok_iff.mp compiles
  obtain ⟨body, shape, lawful, once⟩ := Template.lawful_of_parse read
  have wellFormed : compiled.template.WellFormed definition.arguments :=
    shape ▸ lawful.wellFormed once
  exact ⟨fun _ matched => missing?_eq_findSome? wellFormed matched,
    fun _ warned _ _ extracted => get?_of_noBlock wellFormed distinct warned extracted,
    exists_message_of_silent wellFormed distinct⟩

open scoped Pattern.Limits in
/-- A required argument that is never referenced is missing in every message. -/
theorem warningsExact_of_compile_mute : ∃ compiled,
    compile "!" [.required "who" "who", .required "why" "why"] "<prefix>mute $1" = .ok compiled ∧
      WarningsExact ⟨"mute", "<prefix>mute $1", none,
        [.required "who" "who", .required "why" "why"]⟩ compiled ∧
      (compiled.extract [.required "who" "who", .required "why" "why"] "!Mute Ann").missing? =
        some "why" := by
  have compiles : compile "!" [.required "who" "who", .required "why" "why"] "<prefix>mute $1" =
      .ok ⟨"!", .sigil (.literal "mute ".toList (.argument 1 .nil))⟩ :=
    compile_eq_ok_iff.mpr ⟨rfl, by cbv, by decide⟩
  have exactness : WarningsExact ⟨"mute", "<prefix>mute $1", none,
      [.required "who" "who", .required "why" "why"]⟩ _ :=
    warningsExact_of_compile (by decide) compiles
  exact ⟨_, compiles, exactness, (exactness.missing "!Mute Ann" (by cbv)).trans (by cbv)⟩

end Definition

end ChatCommand
