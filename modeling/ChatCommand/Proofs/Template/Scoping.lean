import ChatCommand.Proofs.Template.Reading
import ChatCommand.Proofs.Template.Uses
import Mathlib

/-!
# Templates that were read are well-formed

The draft of a template is a stack of unfinished sequences, the innermost on top, each collected
latest segment first. Every one of them is lawful in its own scope, the owners of the blocks that
are still open below it, and together they use exactly the arguments claimed so far, none twice.
Each step keeps this, and closing a block makes one lawful sequence out of two.

## Main definitions

- `Template.Lawful`: a sequence keeps the rules of its scope.
- `Template.Draft.Lawful`: the invariant of drafts.

## Main results

- `Draft.Lawful.step`: each step keeps the invariant.
- `wellFormed_of_parse`: a template that was read is well-formed.
-/

namespace ChatCommand.Template

/-- An argument may be used inside the given blocks: an optional one in a block of its own, a
required one in none. -/
structure Use.Allowed (arguments : List Argument) (occurrence : Use) : Prop where
  declared : ∃ found, Argument.withOrdinal? arguments occurrence.ordinal = some found
  inside : ∀ found, Argument.withOrdinal? arguments occurrence.ordinal = some found →
    found.optional = true → occurrence.ordinal ∈ occurrence.scope
  outside : ∀ found, Argument.withOrdinal? arguments occurrence.ordinal = some found →
    found.optional = false → occurrence.scope = []

/-- There is an optional argument with an ordinal. -/
def IsOptional (arguments : List Argument) (n : Nat) : Prop :=
  ∃ found, Argument.withOrdinal? arguments n = some found ∧ found.optional = true

/-- A sequence keeps the rules when it stands inside the blocks of `scope`. -/
structure Lawful (arguments : List Argument) (scope : List Nat) (segments : Template) : Prop where
  plain : segments.sigilCount = 0
  owners : ∀ n ∈ segments.blockOwners, IsOptional arguments n
  uses : ∀ occurrence ∈ segments.uses scope, occurrence.Allowed arguments
  literals : segments.NormalLiterals

namespace Lawful

variable {arguments : List Argument} {scope : List Nat} {segments content : Template} {n : Nat}

theorem nil : Lawful arguments scope nil where
  plain := rfl
  owners := nofun
  uses := nofun
  literals := trivial

theorem literal {text : List Char} (filled : text ≠ [])
    (apart : segments.startsWithLiteral = false) (lawful : segments.Lawful arguments scope) :
    (literal text segments).Lawful arguments scope where
  plain := lawful.plain
  owners := lawful.owners
  uses := lawful.uses
  literals := ⟨filled, apart, lawful.literals⟩

theorem argument (allowed : Use.Allowed arguments ⟨n, scope⟩)
    (lawful : segments.Lawful arguments scope) :
    (argument n segments).Lawful arguments scope where
  plain := lawful.plain
  owners := lawful.owners
  uses := List.forall_mem_cons.mpr ⟨allowed, lawful.uses⟩
  literals := lawful.literals

theorem keyOff (owner : IsOptional arguments n)
    (inside : content.Lawful arguments (n :: scope)) (lawful : segments.Lawful arguments scope) :
    (keyOff n content segments).Lawful arguments scope where
  plain := by simp [sigilCount, inside.plain, lawful.plain]
  owners := by
    intro m member
    rcases List.mem_cons.mp member with rfl | member
    · exact owner
    · exact (List.mem_append.mp member).elim (inside.owners m) (lawful.owners m)
  uses := List.forall_mem_append.mpr ⟨inside.uses, lawful.uses⟩
  literals := ⟨inside.literals, lawful.literals⟩

theorem of_literal {text : List Char}
    (lawful : (Template.literal text segments).Lawful arguments scope) :
    segments.Lawful arguments scope where
  plain := lawful.plain
  owners := lawful.owners
  uses := lawful.uses
  literals := lawful.literals.2.2

theorem of_argument (lawful : (Template.argument n segments).Lawful arguments scope) :
    Use.Allowed arguments ⟨n, scope⟩ ∧ segments.Lawful arguments scope := by
  obtain ⟨allowed, uses⟩ := List.forall_mem_cons.mp lawful.uses
  exact ⟨allowed, lawful.plain, lawful.owners, uses, lawful.literals⟩

theorem of_keyOff (lawful : (Template.keyOff n content segments).Lawful arguments scope) :
    IsOptional arguments n ∧ content.Lawful arguments (n :: scope) ∧
      segments.Lawful arguments scope := by
  obtain ⟨plainInside, plain⟩ := Nat.add_eq_zero_iff.mp lawful.plain
  obtain ⟨owner, owners⟩ := List.forall_mem_cons.mp lawful.owners
  obtain ⟨ownersInside, owners⟩ := List.forall_mem_append.mp owners
  obtain ⟨usesInside, uses⟩ := List.forall_mem_append.mp lawful.uses
  exact ⟨owner, ⟨plainInside, ownersInside, usesInside, lawful.literals.1⟩,
    plain, owners, uses, lawful.literals.2⟩

theorem reverse (lawful : segments.Lawful arguments scope) :
    segments.reverse.Lawful arguments scope where
  plain := (sigilCount_reverse segments).trans lawful.plain
  owners := fun n member => lawful.owners n ((blockOwners_reverse segments).mem_iff.mp member)
  uses := fun occurrence member =>
    lawful.uses occurrence ((uses_reverse segments scope).mem_iff.mp member)
  literals := lawful.literals.reverse

end Lawful

/-! ### The invariant of drafts -/

/-- The owners of the open blocks, the innermost first. -/
def scopeOf (frames : List Frame) : List Nat := frames.map Frame.owner

/-- Every open block belongs to an optional argument, and what stands before it is lawful in the
scope around it. -/
def FramesLawful (arguments : List Argument) : List Frame → Prop
  | [] => True
  | frame :: frames =>
    IsOptional arguments frame.owner ∧
      frame.before.Lawful arguments (scopeOf frames) ∧ FramesLawful arguments frames

namespace Draft

/-- The invariant of drafts. -/
structure Lawful (arguments : List Argument) (draft : Draft) : Prop where
  built : draft.built.Lawful arguments (scopeOf draft.frames)
  /-- The pending literal has no literal beside it. -/
  apart : draft.built.startsWithLiteral = false
  frames : FramesLawful arguments draft.frames
  once : draft.claimed.Nodup
  /-- The unfinished sequences use the arguments claimed so far and no others. -/
  claimed : (draft.built.referenced ++
    draft.frames.flatMap fun frame => frame.before.referenced).Perm draft.claimed

variable {arguments : List Argument} {draft next : Draft} {spot : Token.Spot}

@[simp]
theorem referenced_flushed (draft : Draft) :
    draft.flushed.referenced = draft.built.referenced := by
  unfold flushed
  split <;> simp [referenced]

theorem Lawful.flushed (lawful : draft.Lawful arguments) :
    draft.flushed.Lawful arguments (scopeOf draft.frames) := by
  unfold Draft.flushed
  split
  next => exact lawful.built
  next filled =>
    refine lawful.built.literal ?_ lawful.apart
    simpa using filled

theorem Lawful.empty : Lawful arguments Draft.empty where
  built := .nil
  apart := rfl
  frames := trivial
  once := .nil
  claimed := .nil

theorem Lawful.pushChar (lawful : draft.Lawful arguments) (c : Char) :
    (draft.pushChar c).Lawful arguments where
  built := lawful.built
  apart := lawful.apart
  frames := lawful.frames
  once := lawful.once
  claimed := lawful.claimed

theorem Lawful.pushArgument (lawful : draft.Lawful arguments) {n : Nat}
    (allowed : Use.Allowed arguments ⟨n, scopeOf draft.frames⟩) (fresh : n ∉ draft.claimed) :
    (draft.pushArgument n).Lawful arguments where
  built := lawful.flushed.argument allowed
  apart := rfl
  frames := lawful.frames
  once := List.nodup_cons.mpr ⟨fresh, lawful.once⟩
  claimed := by
    simpa [Draft.pushArgument, referenced] using lawful.claimed

theorem Lawful.openBlock (lawful : draft.Lawful arguments) {n : Nat}
    (owner : IsOptional arguments n) (position : Nat) :
    (draft.openBlock n position).Lawful arguments where
  built := .nil
  apart := rfl
  frames := ⟨owner, lawful.flushed, lawful.frames⟩
  once := lawful.once
  claimed := by
    simpa [Draft.openBlock, referenced] using lawful.claimed

theorem Lawful.closeBlock (lawful : draft.Lawful arguments) {frame : Frame}
    {frames : List Frame} (opened : draft.frames = frame :: frames) :
    (draft.closeBlock frame frames).Lawful arguments := by
  obtain ⟨owner, before, others⟩ : FramesLawful arguments (frame :: frames) :=
    opened ▸ lawful.frames
  have inside : draft.flushed.reverse.Lawful arguments (frame.owner :: scopeOf frames) := by
    have flushed := lawful.flushed
    rw [opened] at flushed
    exact flushed.reverse
  refine ⟨.keyOff owner inside before, rfl, others, lawful.once, ?_⟩
  -- The content of the block is what was the innermost sequence.
  have content := referenced_reverse draft.flushed
  rw [referenced_flushed] at content
  have claimed := lawful.claimed
  rw [opened, List.flatMap_cons, ← List.append_assoc] at claimed
  exact ((content.append_right _).append_right _).trans claimed

/-- Each step keeps the invariant. -/
theorem Lawful.step (lawful : draft.Lawful arguments)
    (h : Template.step arguments draft spot = .ok next) : next.Lawful arguments := by
  rcases step_cases h with ⟨c, -, rfl⟩ |
    ⟨digits, n, found, -, declared, -, fresh, inside, outside, rfl⟩ |
    ⟨header, n, found, -, declared, owns, rfl⟩ | ⟨frame, frames, -, opened, rfl⟩
  · exact lawful.pushChar c
  · refine lawful.pushArgument ⟨⟨found, declared⟩, ?_, ?_⟩ fresh
    · intro other again owns
      exact inside (Option.some.inj (declared.symm.trans again) ▸ owns)
    · intro other again required
      rw [outside (Option.some.inj (declared.symm.trans again) ▸ required)]
      rfl
  · exact lawful.openBlock ⟨found, declared, owns⟩ spot.position
  · exact lawful.closeBlock opened

end Draft

/-! ### Templates that were read -/

/-- A template that was read is the prefix and a lawful sequence, with no argument used twice. -/
theorem lawful_of_parse {arguments : List Argument} {source : String} {template : Template}
    (read : parse arguments source = .ok template) :
    ∃ body, template = sigil body ∧ body.Lawful arguments [] ∧ body.referenced.Nodup := by
  obtain ⟨text, draft, -, run, closed, rfl⟩ := parse_eq_ok_iff.mp read
  have lawful : draft.Lawful arguments :=
    run_induction .empty (fun lawful stepped => lawful.step stepped) run
  have flushed := lawful.flushed
  rw [closed] at flushed
  refine ⟨_, rfl, flushed.reverse, ?_⟩
  have claimed := lawful.claimed
  rw [closed] at claimed
  refine ((referenced_reverse draft.flushed).nodup_iff).mpr ?_
  simpa using claimed.nodup_iff.mpr lawful.once

theorem Lawful.wellFormed {arguments : List Argument} {body : Template}
    (lawful : body.Lawful arguments []) (once : body.referenced.Nodup) :
    (sigil body).WellFormed arguments where
  opens := ⟨body, rfl, lawful.plain⟩
  declared := by
    rintro n (used | owner)
    · rw [← map_ordinal_uses _ []] at used
      obtain ⟨occurrence, member, rfl⟩ := List.mem_map.mp used
      obtain ⟨found, declared⟩ := (lawful.uses occurrence member).declared
      exact bounds_of_withOrdinal? declared
    · obtain ⟨found, declared, -⟩ := lawful.owners n owner
      exact bounds_of_withOrdinal? declared
  once := once
  owners := lawful.owners
  inside := fun occurrence member => (lawful.uses occurrence member).inside
  outside := fun occurrence member => (lawful.uses occurrence member).outside
  literals := lawful.literals

theorem WellFormed.lawful {arguments : List Argument} {body : Template}
    (wellFormed : (sigil body).WellFormed arguments) : body.Lawful arguments [] where
  plain := by
    obtain ⟨_, same, plain⟩ := wellFormed.opens
    rwa [Template.sigil.inj same]
  owners := wellFormed.owners
  uses := fun occurrence member => by
    have used : occurrence.ordinal ∈ body.referenced := mem_referenced_iff.mpr ⟨_, member⟩
    exact ⟨wellFormed.exists_of_used used, wellFormed.inside occurrence member,
      wellFormed.outside occurrence member⟩
  literals := wellFormed.literals

/-- A template that was read is well-formed. -/
theorem wellFormed_of_parse {arguments : List Argument} {source : String} {template : Template}
    (read : parse arguments source = .ok template) :
    template.WellFormed arguments := by
  obtain ⟨body, rfl, lawful, once⟩ := lawful_of_parse read
  exact lawful.wellFormed once

/-- A block may stand inside a block of another argument, before the use of that argument. -/
theorem wellFormed_of_parse_nested :
    (sigil (literal "mute ".toList (argument 1 (keyOff 2 (literal [' '] (keyOff 3
      (literal "for ".toList (argument 3 (literal [' '] nil)))
      (literal "because ".toList (argument 2 nil)))) nil)))).WellFormed
        [.required "target" "target", .ofOptional "reason" "reason",
          .ofOptional "duration" "duration"] := by
  have read : parse [.required "target" "target", .ofOptional "reason" "reason",
      .ofOptional "duration" "duration"]
      "<prefix>mute $1{opt $2}[ {opt $3}[for $3 ]because $2]" = .ok (sigil
        (literal "mute ".toList (argument 1 (keyOff 2 (literal [' '] (keyOff 3
          (literal "for ".toList (argument 3 (literal [' '] nil)))
          (literal "because ".toList (argument 2 nil)))) nil)))) := by cbv
  exact wellFormed_of_parse read

end ChatCommand.Template
