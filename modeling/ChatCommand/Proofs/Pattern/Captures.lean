import ChatCommand.Proofs.Pattern.Numbering
import ChatCommand.Proofs.Pattern.Split

/-!
# Groups captured by a split

The groups of a pattern have different names, so what a split captures can be read back group by
group: the text of each argument that it passes, and of each block whether it is there.

## Main results

- `Template.Split.agrees_captures`: a split agrees with what it captures.
-/

namespace ChatCommand

namespace Pattern

variable {captures : List Capture} {group : Group}

theorem textOf?_cons (capture : Capture) (captures : List Capture) (group : Group) :
    textOf? (capture :: captures) group =
      if capture.group = group then some capture.text else textOf? captures group := by
  unfold textOf?
  rw [List.find?_cons]
  by_cases same : capture.group = group
  · simp [same]
  · simp [same]

theorem textOf?_append (front back : List Capture) (group : Group) :
    textOf? (front ++ back) group = (textOf? front group).or (textOf? back group) := by
  unfold textOf?
  rw [List.find?_append]
  cases front.find? (·.group = group) <;> rfl

theorem textOf?_eq_none_iff :
    textOf? captures group = none ↔ group ∉ captures.map Capture.group := by
  unfold textOf?
  rw [Option.map_eq_none_iff, List.find?_eq_none]
  simp

end Pattern

namespace Template.Split

open Pattern (textOf? textOf?_cons textOf?_append textOf?_eq_none_iff)

variable {sigilText : List Char} {template : Template}

/-- A split captures groups of the pattern, in order. -/
theorem groups_captures_sublist (split : Split sigilText template) (earlier : List Nat)
    (place : Nat) :
    ((split.captures earlier place).map Pattern.Capture.group).Sublist
      (template.numbered sigilText earlier).groups := by
  induction split generalizing earlier place with
  | nil => exact .slnil
  | sigil spelled same after ih => exact ih earlier _
  | literal spelled same after ih => exact ih earlier _
  | argument text filled after ih => exact (ih earlier _).cons_cons _
  | present inside after ihInside ihAfter =>
    simp only [captures, numbered, Pattern.groups, List.map_cons, List.map_append]
    exact ((ihInside _ _).append (ihAfter _ _)).cons_cons _
  | absent after ih =>
    exact ((ih _ _).trans (List.sublist_append_right _ _)).cons _

theorem textOf?_captures_eq_none (split : Split sigilText template) {earlier : List Nat}
    {place : Nat} {group : Group}
    (foreign : group ∉ (template.numbered sigilText earlier).groups) :
    textOf? (split.captures earlier place) group = none :=
  textOf?_eq_none_iff.mpr fun member =>
    foreign ((split.groups_captures_sublist earlier place).subset member)

/-- No argument has an empty text captured. -/
theorem textOf?_argument_ne_nil (split : Split sigilText template) {earlier : List Nat}
    {place n : Nat} {text : List Char}
    (captured : textOf? (split.captures earlier place) (.argument n) = some text) : text ≠ [] := by
  induction split generalizing earlier place with
  | nil => contradiction
  | sigil spelled same after ih => exact ih captured
  | literal spelled same after ih => exact ih captured
  | argument chars filled after ih =>
    simp only [captures, textOf?_cons] at captured
    split at captured
    next => exact Option.some.inj captured ▸ filled
    next => exact ih captured
  | present inside after ihInside ihAfter =>
    simp only [captures, textOf?_cons, reduceCtorEq, if_false,
      textOf?_append, Option.or_eq_some_iff] at captured
    rcases captured with here | ⟨-, there⟩
    · exact ihInside here
    · exact ihAfter there
  | absent after ih => exact ih captured

/-- A split agrees with any captures that give its groups what it captures itself. -/
theorem agrees_of_textOf? {captured : List Pattern.Capture} (split : Split sigilText template)
    {earlier : List Nat} {place : Nat}
    (distinct : (template.numbered sigilText earlier).groups.Nodup)
    (same : ∀ group ∈ (template.numbered sigilText earlier).groups,
      textOf? captured group = textOf? (split.captures earlier place) group) :
    split.Agrees (fun n => textOf? captured (.argument n))
      (fun n k => (textOf? captured (.keyOff n k)).isSome) earlier := by
  induction split generalizing earlier place with
  | nil => trivial
  | sigil spelled _ after ih => exact ih distinct same
  | literal spelled _ after ih => exact ih distinct same
  | @argument n rest text filled after ih =>
    obtain ⟨fresh, distinct⟩ := List.nodup_cons.mp distinct
    obtain ⟨here, same⟩ := List.forall_mem_cons.mp same
    refine ⟨by simpa [captures, textOf?_cons] using here,
      @ih earlier (place + text.length) distinct fun group member => ?_⟩
    have other : Group.argument n ≠ group := fun equal => fresh (equal ▸ member)
    simpa [captures, textOf?_cons, other] using same group member
  | @present n content rest inside after ihInside ihAfter =>
    obtain ⟨fresh, distinct⟩ := List.nodup_cons.mp distinct
    obtain ⟨distinctInside, distinctAfter, apart⟩ := List.nodup_append.mp distinct
    obtain ⟨here, same⟩ := List.forall_mem_cons.mp same
    rw [List.mem_append, not_or] at fresh
    obtain ⟨sameInside, sameAfter⟩ := List.forall_mem_append.mp same
    -- The groups of the block, of its content and of the rest are all different, so each part of
    -- the split sees its own captures only.
    refine ⟨by simp [here, captures, textOf?_cons],
      @ihInside (earlier ++ [n]) place distinctInside fun group member => ?_,
      @ihAfter (earlier ++ n :: content.blockOwners) (place + inside.message.length) distinctAfter
        fun group member => ?_⟩
    · have other : Group.keyOff n (earlier.count n + 1) ≠ group :=
        fun equal => fresh.1 (equal ▸ member)
      rw [sameInside group member]
      simp only [captures, textOf?_cons, other, if_false, textOf?_append]
      rw [after.textOf?_captures_eq_none fun later => apart _ member _ later rfl,
        Option.or_none]
    · have other : Group.keyOff n (earlier.count n + 1) ≠ group :=
        fun equal => fresh.2 (equal ▸ member)
      rw [sameAfter group member]
      simp only [captures, textOf?_cons, other, if_false, textOf?_append]
      rw [inside.textOf?_captures_eq_none fun sooner => apart _ sooner _ member rfl,
        Option.none_or]
  | @absent n content rest after ih =>
    obtain ⟨fresh, distinct⟩ := List.nodup_cons.mp distinct
    obtain ⟨here, same⟩ := List.forall_mem_cons.mp same
    refine ⟨?_, ih (List.nodup_append.mp distinct).2.1 fun group member =>
      same group (List.mem_append_right _ member)⟩
    have missing : textOf? (after.captures (earlier ++ n :: content.blockOwners) place)
        (.keyOff n (earlier.count n + 1)) = none :=
      after.textOf?_captures_eq_none fun later => fresh (List.mem_append_right _ later)
    show (textOf? captured (.keyOff n (earlier.count n + 1))).isSome = false
    rw [here]
    simp only [captures]
    rw [missing]
    rfl

/-- A split agrees with what it captures. -/
theorem agrees_captures (split : Split sigilText template)
    (distinct : (template.numbered sigilText []).groups.Nodup) (place : Nat) :
    split.Agrees (fun n => textOf? (split.captures [] place) (.argument n))
      (fun n k => (textOf? (split.captures [] place) (.keyOff n k)).isSome) [] :=
  split.agrees_of_textOf? distinct fun _ _ => rfl

end Template.Split

end ChatCommand
