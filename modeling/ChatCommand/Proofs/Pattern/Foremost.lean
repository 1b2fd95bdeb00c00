import ChatCommand.Proofs.Pattern.Captures
import ChatCommand.Proofs.Pattern.Filling
import ChatCommand.Proofs.Pattern.FirstSplit

/-!
# What can be captured

A group that a pattern does not have is never captured. An argument outside all blocks is captured
whenever a message matches. And there is a message in which every group of the pattern is captured:
all its blocks are there, and each of its arguments is a single character. No other split of that
message comes before this one, since no choice could be made better.

## Main definitions

- `Template.Split.full`: the split in which everything is there.

## Main results

- `argument_mem_groups_iff`, `keyOff_mem_groups_iff`: the groups of a pattern.
- `Split.isSome_textOf?_of_outside`: an argument outside all blocks is always captured.
- `captures?_full`: there is a message in which all groups are captured.
-/

namespace ChatCommand.Template

open Pattern (textOf? textOf?_cons textOf?_append textOf?_eq_none_iff)

variable {sigilText : List Char} {template : Template} {earlier : List Nat} {n k : Nat}

/-! ### The groups of a pattern -/

theorem argument_mem_groups_iff :
    .argument n ∈ (template.numbered sigilText earlier).groups ↔ n ∈ template.referenced := by
  induction template generalizing earlier with
  | nil => simp [numbered, Pattern.groups, referenced]
  | sigil rest ih => exact ih
  | literal text rest ih => exact ih
  | argument m rest ih => simp [numbered, Pattern.groups, referenced, ih]
  | keyOff m content rest ihContent ihRest =>
    simp [numbered, Pattern.groups, referenced, ihContent, ihRest]

theorem keyOff_mem_groups_iff :
    .keyOff n k ∈ (template.numbered sigilText earlier).groups ↔ template.Opens earlier n k := by
  induction template generalizing earlier with
  | nil => simp [numbered, Pattern.groups, Opens, blockOwners]
  | sigil rest ih => exact ih
  | literal text rest ih => exact ih
  | argument m rest ih =>
    refine List.mem_cons.trans ?_
    simp [ih, Opens, blockOwners]
  | keyOff m content rest ihContent ihRest =>
    rw [opens_keyOff_iff]
    simp [numbered, Pattern.groups, ihContent, ihRest]

namespace Split

/-! ### Arguments outside all blocks -/

/-- An argument that is used outside all further blocks is captured by every split. -/
theorem isSome_textOf?_of_outside {scope : List Nat} (split : Split sigilText template)
    (outside : ⟨n, scope⟩ ∈ template.uses scope) (place : Nat) :
    (textOf? (split.captures earlier place) (.argument n)).isSome = true := by
  induction split generalizing earlier place with
  | nil => contradiction
  | sigil spelled same after ih => exact ih outside _
  | literal spelled same after ih => exact ih outside _
  | @argument m rest text filled after ih =>
    simp only [captures, textOf?_cons]
    split
    next => rfl
    next other =>
      rcases List.mem_cons.mp outside with same | outside
      · exact absurd (congrArg (Group.argument ∘ Use.ordinal) same).symm other
      · exact ih outside _
  | present inside after ihInside ihAfter =>
    simp only [captures, textOf?_cons, reduceCtorEq, if_false, textOf?_append, Option.isSome_or,
      Bool.or_eq_true]
    exact .inr (ihAfter (mem_uses_of_keyOff outside) _)
  | absent after ih => exact ih (mem_uses_of_keyOff outside) _

/-! ### The split in which everything is there -/

/-- The split in which all blocks are there and each argument is a single character. -/
def full (sigilText : List Char) : (template : Template) → Split sigilText template
  | .nil => .nil
  | .sigil rest => .sigil sigilText rfl (full sigilText rest)
  | .literal text rest => .literal text rfl (full sigilText rest)
  | .argument _ rest => .argument ['x'] (List.cons_ne_nil _ _) (full sigilText rest)
  | .keyOff _ content rest => .present (full sigilText content) (full sigilText rest)

/-- The split in which everything is there captures all groups of the pattern. -/
theorem groups_captures_full (earlier : List Nat) (place : Nat) :
    ((full sigilText template).captures earlier place).map Pattern.Capture.group =
      (template.numbered sigilText earlier).groups := by
  induction template generalizing earlier place with
  | nil => rfl
  | sigil rest ih => exact ih earlier _
  | literal text rest ih => exact ih earlier _
  | argument n rest ih => exact congrArg _ (ih earlier _)
  | keyOff n content rest ihContent ihRest =>
    simp only [full, captures, numbered, Pattern.groups, List.map_cons, List.map_append, ihContent,
      ihRest]

theorem isSome_textOf?_full_iff {group : Group} :
    (textOf? ((full sigilText template).captures [] 0) group).isSome = true ↔
      group ∈ (template.numbered sigilText []).groups := by
  rw [Option.isSome_iff_ne_none, ne_eq, textOf?_eq_none_iff, not_not, groups_captures_full]

/-- Every block that can be there is there, and every text is as short as can be. -/
theorem choices_full :
    ∀ choice ∈ (full sigilText template).choices, choice = .present ∨ choice = .text 1 := by
  induction template with
  | nil => exact List.forall_mem_nil _
  | sigil rest ih => exact ih
  | literal text rest ih => exact ih
  | argument n rest ih => exact List.forall_mem_cons.mpr ⟨.inr rfl, ih⟩
  | keyOff n content rest ihContent ihRest =>
    exact List.forall_mem_cons.mpr ⟨.inl rfl, List.forall_mem_append.mpr ⟨ihContent, ihRest⟩⟩

theorem text_zero_not_mem_choices (split : Split sigilText template) :
    .text 0 ∉ split.choices := by
  induction split with
  | nil => exact List.not_mem_nil
  | sigil spelled same after ih => exact ih
  | literal spelled same after ih => exact ih
  | argument text filled after ih =>
    refine List.not_mem_cons_of_ne_of_not_mem (fun empty => filled ?_) ih
    exact List.eq_nil_of_length_eq_zero (Choice.text.inj empty).symm
  | present inside after ihInside ihAfter =>
    simp only [choices, List.mem_cons, List.mem_append, reduceCtorEq, false_or, not_or]
    exact ⟨ihInside, ihAfter⟩
  | absent after ih => simpa [choices] using ih

/-- No split comes before the one in which everything is there. -/
theorem not_precedes_full (split : Split sigilText template) :
    ¬ split.Precedes (full sigilText template) := by
  rintro ⟨common, first, second, before, behind, chosen, best, order⟩
  -- Where the two differ, the choice of the other one would have to be better than the best.
  have member : second ∈ (full sigilText template).choices := by simp [best]
  rcases choices_full second member with rfl | rfl
  · cases first <;> exact order
  · cases first with
    | present | absent => exact order
    | text k =>
      obtain rfl : k = 0 := Nat.lt_one_iff.mp order
      exact split.text_zero_not_mem_choices (by simp [chosen])

end Split

/-- In the message in which everything is there, all of it is captured. -/
theorem captures?_full (sigil : String) (template : Template) :
    (template.toPattern sigil).captures? (Split.full sigil.toList template).message =
      some ((Split.full sigil.toList template).captures [] 0) := by
  obtain ⟨captures, matched⟩ := Option.isSome_iff_exists.mp
    (isSome_captures?_iff.mpr ⟨Split.full sigil.toList template, rfl⟩)
  obtain ⟨split, -, rfl, first⟩ := exists_first_of_captures? matched
  rcases first (Split.full sigil.toList template) rfl with same | precedes
  · rw [matched, same]
  · exact absurd precedes split.not_precedes_full

end ChatCommand.Template
