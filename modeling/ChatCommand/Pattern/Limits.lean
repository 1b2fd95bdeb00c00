import ChatCommand.Pattern.Builder

/-!
# Limits to go by

Limits for running the program, in blocks and characters. They are on the safe side of what people
write by hand, and they are open only where they are asked for: what holds of commands holds under
any limits.
-/

namespace ChatCommand.Pattern

/-- The number of characters and groups. -/
def size : Pattern → Nat
  | done => 0
  | text chars rest => chars.length + rest.size
  | capture _ rest => rest.size + 1
  | block _ _ content rest => content.size + rest.size + 1

/-- How many blocks are nested. -/
def depth : Pattern → Nat
  | done => 0
  | text _ rest | capture _ rest => rest.depth
  | block _ _ content rest => max (content.depth + 1) rest.depth

namespace Limits

/-- A builder with room for a hundred nested blocks and some ten thousand characters. -/
scoped instance : Builder where
  hasRoom pattern := pattern.depth ≤ 100 && pattern.size ≤ 20000
  refusal _ := "the pattern is too large, nested too deep or names a group twice"

end Limits

end ChatCommand.Pattern
