/-!
# Ranges of code points

A property of characters is stored as a list of closed ranges of code points, and a
character-to-character map as a list of runs that each shift their members by one distance.
-/

namespace ChatCommand.Text

/-- Whether a character's code point lies in one of the closed ranges. -/
def inRanges (ranges : List (Nat × Nat)) (c : Char) : Bool :=
  ranges.any fun range => range.1 ≤ c.toNat && c.toNat ≤ range.2

theorem inRanges_iff {ranges : List (Nat × Nat)} {c : Char} :
    inRanges ranges c = true ↔ ∃ range ∈ ranges, range.1 ≤ c.toNat ∧ c.toNat ≤ range.2 := by
  simp [inRanges]

/-- A character is not in two lists of ranges that have nothing in common. -/
theorem inRanges_of_apart {ranges others : List (Nat × Nat)} {c : Char}
    (apart : ∀ range ∈ ranges, ∀ other ∈ others, range.2 < other.1 ∨ other.2 < range.1)
    (within : inRanges ranges c = true) : inRanges others c = false := by
  rw [Bool.eq_false_iff, Ne, inRanges_iff]
  rintro ⟨other, listed, low, high⟩
  obtain ⟨range, member, least, most⟩ := inRanges_iff.mp within
  have := apart range member other listed
  omega

/-- Every `step`-th code point from `first` to `last` is mapped to the one `shift` away. -/
structure CodeRun where
  first : Nat
  last : Nat
  step : Nat
  shift : Int
  deriving DecidableEq, Repr

/-- Whether the run moves the given code point. -/
def CodeRun.covers (run : CodeRun) (code : Nat) : Bool :=
  run.first ≤ code && code ≤ run.last && (code - run.first) % run.step == 0

/-- The character that the first run covering `c` maps it to, and `c` where none does. -/
def mapByRuns (runs : List CodeRun) (c : Char) : Char :=
  match runs.find? (·.covers c.toNat) with
  | some run => Char.ofNat (Int.toNat (c.toNat + run.shift))
  | none => c

end ChatCommand.Text
