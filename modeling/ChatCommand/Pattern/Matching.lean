import ChatCommand.Pattern.Basic
import ChatCommand.Text.Folding

/-!
# Matching

A message matches a pattern when it can be split along it. Of several splits one is chosen by
the rule that a block is there if it can be and a capture is as short as it can be, decided from
left to right. So that no choice is ever taken back, it is first worked out, from the end of the
pattern to its beginning, from which places of the message the rest of the pattern can reach the
end. This takes time proportional to the product of the two lengths.

## Main definitions

- `Pattern.reach`: the places from which a pattern can be followed to given places.
- `Pattern.Plan`: a pattern with the places that its choices depend on.
- `Pattern.captures?`: the groups captured in a message.
-/

namespace ChatCommand.Pattern

/-- For each place of a message, the first one first, whether something can go on from there. A
message of `n` characters has `n + 1` places. -/
abbrev Places := List Bool

/-- The places of a case-folded message from which a character leads to one of the given
places. -/
def Places.beforeChar (folded : List Char) (c : Char) (places : Places) : Places :=
  let letter := Text.fold c
  List.zipWith (fun m next => letter == m && next) folded places.tail ++ [false]

/-- The places of a case-folded message from which a text leads to one of the given places. -/
def Places.beforeText (folded : List Char) (chars : List Char) (places : Places) : Places :=
  chars.foldr (Places.beforeChar folded) places

/-- For each place, whether it or a later one is among the given places. -/
def Places.orLater (places : Places) : Places :=
  places.foldr (fun here later => (here || later.headD false) :: later) []

/-- The places from which at least one character leads to one of the given places. -/
def Places.beforeSome (places : Places) : Places := Places.orLater places.tail ++ [false]

/-- The last place alone. -/
def Places.last (message : List Char) : Places := List.replicate message.length false ++ [true]

/-- A pattern with the places that its choices depend on. -/
inductive Plan where
  | done
  | text (length : Nat) (rest : Plan)
  /-- A capture may end where the rest can go on. -/
  | capture (ordinal : Nat) (ends : Places) (rest : Plan)
  /-- A block may be there where its content can go on. -/
  | block (ordinal occurrence : Nat) (starts : Places) (content rest : Plan)
  deriving Repr

/-- The plan of a pattern in a case-folded message, and the places from which the pattern leads
to one of the given places. -/
def reach (folded : List Char) (places : Places) : Pattern → Plan × Places
  | done => (.done, places)
  | text chars rest =>
    let (plan, after) := rest.reach folded places
    (.text chars.length plan, after.beforeText folded chars)
  | capture n rest =>
    let (plan, after) := rest.reach folded places
    (.capture n after plan, after.beforeSome)
  | block n k content rest =>
    let (plan, after) := rest.reach folded places
    -- The content leads to the rest, and without the block the rest comes at once.
    let (inside, starts) := content.reach folded after
    (.block n k starts inside plan, List.zipWith (· || ·) starts after)

/-- A group with the place where its text begins. -/
structure Capture where
  group : Group
  start : Nat
  text : List Char
  deriving DecidableEq, Repr

/-- A place of a message with the characters from there on. -/
structure Spot where
  place : Nat
  ahead : List Char
  deriving DecidableEq, Repr

/-- Goes on by some characters. -/
def Spot.advance (spot : Spot) (count : Nat) : Spot :=
  ⟨spot.place + count, spot.ahead.drop count⟩

/-- Follows a plan, taking every choice by the rule: the captures in the order in which their
groups open, and where the plan ends. -/
def Plan.follow : Plan → Spot → List Capture × Spot
  | done, spot => ([], spot)
  | text length rest, spot => rest.follow (spot.advance length)
  | capture n ends rest, spot =>
    -- The nearest place at which the rest can go on ends the capture.
    let count := (ends.drop (spot.place + 1)).idxOf true + 1
    let (captures, final) := rest.follow (spot.advance count)
    (⟨.argument n, spot.place, spot.ahead.take count⟩ :: captures, final)
  | block n k starts content rest, spot =>
    -- The block is there as soon as it can be.
    if (starts[spot.place]?).getD false then
      let (inside, after) := content.follow spot
      let (captures, final) := rest.follow after
      (⟨.keyOff n k, spot.place, spot.ahead.take (after.place - spot.place)⟩ ::
        (inside ++ captures), final)
    else rest.follow spot

/-- The groups captured when a whole message matches. -/
def captures? (pattern : Pattern) (message : List Char) : Option (List Capture) :=
  let (plan, starts) := pattern.reach (message.map Text.fold) (Places.last message)
  if starts.headD false then some (plan.follow ⟨0, message⟩).1 else none

/-- The text captured by a group. -/
def textOf? (captures : List Capture) (group : Group) : Option (List Char) :=
  (captures.find? (·.group = group)).map Capture.text

end ChatCommand.Pattern
