import ChatCommand.Pattern.Matching

/-!
# Splits of a message

A template says how a message is to be split: a literal gives a text up to letter case, an argument
any non-empty text, a block its content or nothing. A split records one way to do so. Its choices,
read from left to right, are the lengths of the argument texts and whether each block is there; a
block inside a missing block leaves no choice. Splits of one template are put in order by the first
choice in which they differ.

## Main definitions

- `Template.Split`: the splits along a template.
- `Template.Split.message`: the message that is split.
- `Template.Split.captures`: the groups captured.
- `Template.Split.Precedes`: the order of priority.
- `Template.Split.Agrees`: a split with given texts and given blocks.
-/

namespace ChatCommand.Template

/-- A way to split a message along a template. -/
inductive Split (sigilText : List Char) : Template → Type where
  | nil : Split sigilText .nil
  | sigil {rest : Template} (spelled : List Char)
      (same : spelled.map Text.fold = sigilText.map Text.fold) (after : Split sigilText rest) :
      Split sigilText (.sigil rest)
  | literal {text : List Char} {rest : Template} (spelled : List Char)
      (same : spelled.map Text.fold = text.map Text.fold) (after : Split sigilText rest) :
      Split sigilText (.literal text rest)
  | argument {n : Nat} {rest : Template} (text : List Char) (filled : text ≠ [])
      (after : Split sigilText rest) : Split sigilText (.argument n rest)
  /-- The block is there. -/
  | present {n : Nat} {content rest : Template} (inside : Split sigilText content)
      (after : Split sigilText rest) : Split sigilText (.keyOff n content rest)
  /-- The block is missing, and so is everything inside it. -/
  | absent {n : Nat} {content rest : Template} (after : Split sigilText rest) :
      Split sigilText (.keyOff n content rest)

/-! ### Choices -/

/-- What a template leaves open: whether a block is there, how long a text is. -/
inductive Choice where
  | present
  | absent
  | text (length : Nat)
  deriving DecidableEq, Repr

namespace Choice

/-- A present block comes before an absent one, a shorter text before a longer one. -/
def Before : Choice → Choice → Prop
  | present, absent => True
  | text k, text l => k < l
  | _, _ => False

theorem Before.asymm {one other : Choice} (h : one.Before other) : ¬ other.Before one := by
  cases one <;> cases other <;> simp_all [Before]
  omega

/-- Of two lists of choices, the one that is ahead where they first differ. -/
def Ahead (one other : List Choice) : Prop :=
  ∃ common first second before behind,
    one = common ++ first :: before ∧ other = common ++ second :: behind ∧ first.Before second

variable {one other more rest : List Choice}

theorem Ahead.of_head {first second : Choice} (h : first.Before second) :
    Ahead (first :: one) (second :: other) :=
  ⟨[], first, second, one, other, rfl, rfl, h⟩

theorem Ahead.append_left (h : Ahead one other) (common : List Choice) :
    Ahead (common ++ one) (common ++ other) := by
  obtain ⟨shared, first, second, before, behind, rfl, rfl, order⟩ := h
  exact ⟨common ++ shared, first, second, before, behind, (List.append_assoc ..).symm,
    (List.append_assoc ..).symm, order⟩

theorem Ahead.append_right (h : Ahead one other) (more rest : List Choice) :
    Ahead (one ++ more) (other ++ rest) := by
  obtain ⟨shared, first, second, before, behind, rfl, rfl, order⟩ := h
  exact ⟨shared, first, second, before ++ more, behind ++ rest, by simp, by simp, order⟩

theorem Ahead.asymm (h : Ahead one other) : ¬ Ahead other one := by
  obtain ⟨shared, first, second, before, behind, rfl, rfl, order⟩ := h
  rintro ⟨common, second', first', behind', before', there, here, reverse⟩
  -- The two lists agree on the shorter of the common parts and differ right behind it.
  induction shared generalizing common with
  | nil =>
    cases common with
    | nil =>
      obtain ⟨rfl, -⟩ := List.cons.inj here
      obtain ⟨rfl, -⟩ := List.cons.inj there
      exact order.asymm reverse
    | cons choice common =>
      obtain ⟨rfl, -⟩ := List.cons.inj here
      obtain ⟨rfl, -⟩ := List.cons.inj there
      exact order.asymm order
  | cons choice shared ih =>
    cases common with
    | nil =>
      obtain ⟨rfl, -⟩ := List.cons.inj here
      obtain ⟨rfl, -⟩ := List.cons.inj there
      exact reverse.asymm reverse
    | cons choice' common => exact ih common (List.cons.inj there).2 (List.cons.inj here).2

end Choice

namespace Split

variable {sigilText : List Char} {template : Template}

/-- The message that is split. -/
def message {template : Template} : Split sigilText template → List Char
  | nil => []
  | sigil spelled _ after => spelled ++ after.message
  | literal spelled _ after => spelled ++ after.message
  | argument text _ after => text ++ after.message
  | present inside after => inside.message ++ after.message
  | absent after => after.message

/-- The choices made, from left to right. -/
def choices {template : Template} : Split sigilText template → List Choice
  | nil => []
  | sigil _ _ after => after.choices
  | literal _ _ after => after.choices
  | argument text _ after => .text text.length :: after.choices
  | present inside after => .present :: (inside.choices ++ after.choices)
  | absent after => .absent :: after.choices

/-- The order of priority: at the first choice in which two splits differ, one is ahead. -/
def Precedes (one other : Split sigilText template) : Prop :=
  Choice.Ahead one.choices other.choices

theorem Precedes.asymm {one other : Split sigilText template} (h : one.Precedes other) :
    ¬ other.Precedes one :=
  Choice.Ahead.asymm h

/-- The groups captured, in the order in which they open, when the message stands at a place.
The blocks of an argument are counted in the order in which they open in the template, missing ones
included; `earlier` are the owners of those that opened before. -/
def captures {template : Template} (earlier : List Nat) (place : Nat) :
    Split sigilText template → List Pattern.Capture
  | nil => []
  | sigil spelled _ after => after.captures earlier (place + spelled.length)
  | literal spelled _ after => after.captures earlier (place + spelled.length)
  | @argument _ n _ text _ after =>
    ⟨.argument n, place, text⟩ :: after.captures earlier (place + text.length)
  | @present _ n content _ inside after =>
    ⟨.keyOff n (earlier.count n + 1), place, inside.message⟩ ::
      (inside.captures (earlier ++ [n]) place ++
        after.captures (earlier ++ n :: content.blockOwners) (place + inside.message.length))
  | @absent _ n content _ after => after.captures (earlier ++ n :: content.blockOwners) place

/-- The split gives every argument that it passes the text of `text`, and of the blocks that it
comes to just those are there that `there` names. -/
def Agrees {template : Template} (text : Nat → Option (List Char)) (there : Nat → Nat → Bool)
    (earlier : List Nat) : Split sigilText template → Prop
  | nil => True
  | sigil _ _ after => after.Agrees text there earlier
  | literal _ _ after => after.Agrees text there earlier
  | @argument _ n _ chars _ after => text n = some chars ∧ after.Agrees text there earlier
  | @present _ n content _ inside after =>
    there n (earlier.count n + 1) = true ∧ inside.Agrees text there (earlier ++ [n]) ∧
      after.Agrees text there (earlier ++ n :: content.blockOwners)
  | @absent _ n content _ after =>
    there n (earlier.count n + 1) = false ∧
      after.Agrees text there (earlier ++ n :: content.blockOwners)

end Split

end ChatCommand.Template
