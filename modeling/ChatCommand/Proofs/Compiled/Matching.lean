import ChatCommand.Pattern.Limits
import ChatCommand.Proofs.Compiled.Compilation
import ChatCommand.Proofs.Pattern.Filling
import ChatCommand.Proofs.Pattern.FirstSplit
import Mathlib

/-!
# Messages of compiled commands

A message matches a compiled command just when it can be split along the template, and what is
captured is read from the first of its splits.

## Main results

- `captures?_of_compile`: which messages match, and what is captured.
-/

namespace ChatCommand

open Template (Mark Split)

variable {sigil source : String} {arguments : List Argument} {compiled : Compiled}

/-- A message matches a compiled command just when it can be split along the template, and then the
groups captured are those of its first split. What is written with non-empty texts for the
arguments and any choice of blocks matches. -/
theorem captures?_of_compile [Pattern.Builder]
    (compiles : compile sigil arguments source = .ok compiled) (message : List Char) :
    ((compiled.pattern.captures? message).isSome = true ↔
      ∃ split : Split sigil.toList compiled.template, split.message = message) ∧
    (∀ captures, compiled.pattern.captures? message = some captures →
      ∃ split : Split sigil.toList compiled.template, split.message = message ∧
        split.captures [] 0 = captures ∧
        ∀ other : Split sigil.toList compiled.template, other.message = message →
          other = split ∨ split.Precedes other) ∧
    ∀ (texts : Nat → List Char) (there : Nat → Nat → Bool),
      (∀ n ∈ compiled.template.referenced, texts n ≠ []) →
      ∃ written, compiled.template.fill sigil.toList (fun n => some (texts n)) there [] =
          some written ∧
        (compiled.pattern.captures? (written.map Mark.char)).isSome = true := by
  obtain ⟨rfl, -, -⟩ := compile_eq_ok_iff.mp compiles
  refine ⟨Template.isSome_captures?_iff, ?_, ?_⟩
  · intro captures matched
    exact Template.exists_first_of_captures? matched
  · intro texts there nonempty
    obtain ⟨written, split, filled, whole⟩ := Template.exists_split_of_fill there [] nonempty
    exact ⟨written, filled, Template.isSome_captures?_iff.mpr ⟨split, whole⟩⟩

open scoped Pattern.Limits in
/-- Of the ways to split a message at an `as`, the first one captures as little as it can. -/
theorem captures?_of_compile_cut : ∃ compiled,
    compile "!" [.required "what" "what", .ofOptional "why" "why"]
        "<prefix>cut $1{opt $2}[ as $2]" = .ok compiled ∧
      ∃ split : Split ['!'] compiled.template, split.message = "!CUT a as b as c".toList ∧
        split.captures [] 0 =
          [⟨.argument 1, 5, ['a']⟩, ⟨.keyOff 2 1, 6, " as b as c".toList⟩,
            ⟨.argument 2, 10, "b as c".toList⟩] ∧
        ∀ other : Split ['!'] compiled.template, other.message = "!CUT a as b as c".toList →
          other = split ∨ split.Precedes other := by
  have compiles : compile "!" [.required "what" "what", .ofOptional "why" "why"]
      "<prefix>cut $1{opt $2}[ as $2]" = .ok ⟨"!", .sigil (.literal "cut ".toList
        (.argument 1 (.keyOff 2 (.literal " as ".toList (.argument 2 .nil)) .nil)))⟩ :=
    compile_eq_ok_iff.mpr ⟨rfl, by cbv, by decide⟩
  refine ⟨_, compiles, ?_⟩
  exact (captures?_of_compile compiles "!CUT a as b as c".toList).2.1 _ (by cbv)

end ChatCommand
