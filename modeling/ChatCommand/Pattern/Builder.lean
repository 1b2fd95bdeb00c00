import ChatCommand.Pattern.Basic

/-!
# Building patterns

A pattern is built before messages are matched with it. Two groups of it may not share a name. What
builds patterns may besides refuse one that is nested too deep or becomes too large; where these
limits are, and in which words a pattern is refused, is its own affair.

## Main definitions

- `Pattern.Builder`: the limits and the words of what builds patterns.
- `Pattern.isBuildable`: whether a pattern can be built.
-/

namespace ChatCommand.Pattern

/-- What builds patterns. As an instance it is the same one wherever patterns are built. -/
class Builder where
  /-- Whether a pattern is neither nested too deep nor too large. -/
  hasRoom : Pattern → Bool
  /-- The text with which a pattern is refused. -/
  refusal : Pattern → String

/-- Whether a pattern can be built. -/
def isBuildable [Builder] (pattern : Pattern) : Bool :=
  decide pattern.groups.Nodup && Builder.hasRoom pattern

/-- The groups of a pattern that can be built are different. -/
theorem groups_nodup_of_isBuildable [Builder] {pattern : Pattern}
    (buildable : pattern.isBuildable = true) : pattern.groups.Nodup := by
  unfold isBuildable at buildable
  rw [Bool.and_eq_true] at buildable
  exact of_decide_eq_true buildable.1

end ChatCommand.Pattern
