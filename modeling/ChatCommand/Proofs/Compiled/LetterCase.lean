import ChatCommand.Pattern.Limits
import ChatCommand.Proofs.Compiled.Compilation
import ChatCommand.Proofs.Compiled.Correspondence
import ChatCommand.Proofs.Pattern.FirstSplit
import Mathlib

/-!
# Letter case of messages

The matcher compares a message with the pattern by its case folding alone, and when it follows the
plan made in this way it goes by the places of the message and never looks at a character again. So
from messages that agree up to letter case the same groups are captured at the same places. The
arguments are extracted from all of them or from none, and what is yielded for an argument is what
stands at these places in the message at hand.

## Main definitions

- `Pattern.Capture.Aligned`: a group captured at the same places of two messages.
- `Compiled.SameRange`: the texts at the same places of two messages.

## Main results

- `Pattern.Plan.follow_aligned`: a plan goes by the places.
- `Pattern.captures?_aligned`: what is captured from messages that agree up to letter case.
- `Compiled.extract_of_sameLetters`: what is extracted from them.
-/

namespace ChatCommand

namespace Pattern

variable {message other : List Char} {captures captures' : List Capture}

/-- The characters that are ahead of a place, up to some number, are a piece. -/
theorem Piece.of_take (message : List Char) (start count : Nat) :
    Piece message start (start + ((message.drop start).take count).length)
      ((message.drop start).take count) where
  ahead := by
    rw [← List.drop_drop]
    exact (List.prefix_iff_eq_append.mp (List.take_prefix count _)).symm
  finish_eq := rfl

/-- The same group is captured at the same places of two messages. -/
structure Capture.Aligned (message other : List Char) (capture capture' : Capture) : Prop where
  group_eq : capture.group = capture'.group
  start_eq : capture.start = capture'.start
  pieces : ∃ finish, Piece message capture.start finish capture.text ∧
    Piece other capture'.start finish capture'.text

theorem Capture.Aligned.of_take (sized : message.length = other.length) (group : Group)
    (start count : Nat) :
    Aligned message other ⟨group, start, (message.drop start).take count⟩
      ⟨group, start, (other.drop start).take count⟩ where
  group_eq := rfl
  start_eq := rfl
  pieces := by
    have lengths : ((message.drop start).take count).length =
        ((other.drop start).take count).length := by
      simp [sized]
    exact ⟨_, .of_take message start count, lengths ▸ .of_take other start count⟩

/-- In messages of one length a plan captures the same groups at the same places, whatever the
characters are. -/
theorem Plan.follow_aligned (plan : Plan) (sized : message.length = other.length) (place : Nat) :
    List.Forall₂ (Capture.Aligned message other) (plan.follow ⟨place, message.drop place⟩).1
        (plan.follow ⟨place, other.drop place⟩).1 ∧
      ∃ finish, (plan.follow ⟨place, message.drop place⟩).2 = ⟨finish, message.drop finish⟩ ∧
        (plan.follow ⟨place, other.drop place⟩).2 = ⟨finish, other.drop finish⟩ := by
  induction plan generalizing place with
  | done => exact ⟨.nil, place, rfl, rfl⟩
  | text length rest ih =>
    simp only [follow, Template.advance_drop]
    exact ih (place + length)
  | capture n ends rest ih =>
    -- The plan tells from the place how long the text is.
    simp only [follow, Template.advance_drop]
    obtain ⟨captures, finish⟩ := ih (place + ((ends.drop (place + 1)).idxOf true + 1))
    exact ⟨.cons (.of_take sized _ _ _) captures, finish⟩
  | block n k starts content rest ihContent ihRest =>
    simp only [follow]
    split
    next =>
      -- The content ends in one place on both sides, from which the rest goes on.
      obtain ⟨inner, middle, ended, endedToo⟩ := ihContent place
      rw [ended, endedToo]
      obtain ⟨outer, finish⟩ := ihRest middle
      exact ⟨.cons (.of_take sized _ _ _) (List.rel_append inner outer), finish⟩
    next => exact ihRest place

/-- Of messages that agree up to letter case both match or neither does, and the same groups are
captured at the same places. -/
theorem captures?_aligned (pattern : Pattern)
    (same : message.map Text.fold = other.map Text.fold) :
    Option.Rel (List.Forall₂ (Capture.Aligned message other)) (pattern.captures? message)
      (pattern.captures? other) := by
  have sized : message.length = other.length := by simpa using congrArg List.length same
  -- The plan is made of the folded message and its length, which the two messages share.
  rw [Template.captures?_eq, Template.captures?_eq, same, Places.last, Places.last, sized]
  split
  next => exact .some (Plan.follow_aligned _ sized 0).1
  next => exact .none

/-- The texts captured at the same places correspond. -/
theorem corresponding_of_aligned
    (aligned : List.Forall₂ (Capture.Aligned message other) captures captures') :
    Corresponding (fun group text text' => ∃ start finish,
      ⟨group, start, text⟩ ∈ captures ∧ ⟨group, start, text'⟩ ∈ captures' ∧
        Piece message start finish text ∧ Piece other start finish text') captures captures' := by
  induction aligned with
  | nil => exact fun _ => .none
  | @cons capture capture' captures captures' head _ ih =>
    intro group
    rw [textOf?_cons, textOf?_cons, ← head.group_eq]
    split
    next here =>
      subst here
      obtain ⟨finish, piece, pieceToo⟩ := head.pieces
      refine .some ⟨capture.start, finish, List.mem_cons_self, ?_, piece, ?_⟩
      · rw [head.group_eq, head.start_eq]
        exact List.mem_cons_self
      · rwa [head.start_eq]
    next =>
      refine (ih group).imp fun text text' => ?_
      rintro ⟨start, finish, member, memberToo, pieces⟩
      exact ⟨start, finish, List.mem_cons_of_mem _ member, List.mem_cons_of_mem _ memberToo, pieces⟩

end Pattern

namespace Compiled

variable {compiled : Compiled} {message other : String}

/-- The texts of a group that is captured at the same places of two messages. -/
def SameRange (compiled : Compiled) (message other : String) (group : Group)
    (text text' : List Char) : Prop :=
  ∃ captures captures' start finish,
    compiled.pattern.captures? message.toList = some captures ∧
    compiled.pattern.captures? other.toList = some captures' ∧
    ⟨group, start, text⟩ ∈ captures ∧ ⟨group, start, text'⟩ ∈ captures' ∧
    Pattern.Piece message.toList start finish text ∧ Pattern.Piece other.toList start finish text'

/-- From messages that agree up to letter case the same arguments are extracted, with the texts at
the same places. -/
theorem extract_corresponds_of_map_fold
    (same : message.toList.map Text.fold = other.toList.map Text.fold) (compiled : Compiled)
    (arguments : List Argument) :
    (compiled.extract arguments message).Corresponds
      (Argument.Yields arguments (compiled.SameRange message other))
      (compiled.extract arguments other) := by
  refine extract_corresponds rfl ?_ arguments
  have aligned := compiled.pattern.captures?_aligned same
  generalize found : compiled.pattern.captures? message.toList = captures? at aligned ⊢
  generalize foundToo : compiled.pattern.captures? other.toList = captures'? at aligned ⊢
  cases aligned with
  | none => exact .none
  | @some captures captures' aligned =>
    refine .some fun group => (Pattern.corresponding_of_aligned aligned group).imp ?_
    rintro text text' ⟨start, finish, pieces⟩
    exact ⟨captures, captures', start, finish, found, foundToo, pieces⟩

/-- Arguments are extracted from all messages that agree up to letter case, or from none. -/
theorem succeeded_of_map_fold {arguments : List Argument}
    (same : message.toList.map Text.fold = other.toList.map Text.fold)
    (succeeded : (compiled.extract arguments message).succeeded = true) :
    (compiled.extract arguments other).succeeded = true :=
  (extract_corresponds_of_map_fold same compiled arguments).flags_eq.1 ▸ succeeded

/-- Of messages whose characters agree one by one up to letter case, both match or neither does,
with the same groups captured at the same places. The outcomes of extraction are the same but for
the texts: each text yielded from the second message stands there at the very places at which the
text yielded under the same key from the first message stands in that one. -/
theorem extract_of_sameLetters
    (same : List.Forall₂ (fun c d => Text.fold c = Text.fold d) message.toList other.toList)
    (compiled : Compiled) (arguments : List Argument) :
    Option.Rel (List.Forall₂ (Pattern.Capture.Aligned message.toList other.toList))
        (compiled.pattern.captures? message.toList) (compiled.pattern.captures? other.toList) ∧
      (compiled.extract arguments message).succeeded =
        (compiled.extract arguments other).succeeded ∧
      (compiled.extract arguments message).isMismatch =
        (compiled.extract arguments other).isMismatch ∧
      (compiled.extract arguments message).inconsistencies =
        (compiled.extract arguments other).inconsistencies ∧
      (compiled.extract arguments message).missing? =
        (compiled.extract arguments other).missing? ∧
      List.Forall₂ (Json.Fields.Corresponds fun key =>
          Option.Rel (Argument.Yields arguments (compiled.SameRange message other) key))
        (compiled.extract arguments message).values (compiled.extract arguments other).values := by
  have folded : message.toList.map Text.fold = other.toList.map Text.fold := by
    rwa [← List.forall₂_eq_eq_eq, List.forall₂_map_left_iff, List.forall₂_map_right_iff]
  have corresponds := extract_corresponds_of_map_fold folded compiled arguments
  obtain ⟨succeeded, mismatch, inconsistencies, missing⟩ := corresponds.flags_eq
  exact ⟨compiled.pattern.captures?_aligned folded, succeeded, mismatch, inconsistencies, missing,
    corresponds.forall₂_values⟩

/-! ### A kick -/

/-- Someone to kick, perhaps with a reason. -/
def kickArguments : List Argument := [.required "who" "Who", .ofOptional "why" "Why"]

/-- The command that kicks. -/
def kick : Compiled :=
  ⟨"!", .sigil (.literal "kick ".toList
    (.argument 1 (.keyOff 2 (.literal " as ".toList (.argument 2 .nil)) .nil)))⟩

open scoped Pattern.Limits in
/-- A Kelvin sign and a long `s` stand for letters of the command, of its literal and of both
texts. -/
theorem extract_of_sameLetters_kelvin :
    compile "!" kickArguments "<prefix>kick $1{opt $2}[ as $2]" = .ok kick ∧
      (kick.extract kickArguments "!Kick Kate as Spam").values =
        [("who", some "Kate"), ("why", some "Spam")] ∧
      (kick.extract kickArguments "!\u212Aic\u212A \u212AATE a\u017F \u017Fpam").values =
        [("who", some "\u212AATE"), ("why", some "\u017Fpam")] ∧
      List.Forall₂ (Json.Fields.Corresponds fun key => Option.Rel (Argument.Yields kickArguments
          (kick.SameRange "!Kick Kate as Spam" "!\u212Aic\u212A \u212AATE a\u017F \u017Fpam") key))
        [("who", some "Kate"), ("why", some "Spam")]
        [("who", some "\u212AATE"), ("why", some "\u017Fpam")] := by
  have same : List.Forall₂ (fun c d => Text.fold c = Text.fold d) "!Kick Kate as Spam".toList
      "!\u212Aic\u212A \u212AATE a\u017F \u017Fpam".toList := by
    rw [← List.forall₂_map_right_iff, ← List.forall₂_map_left_iff, List.forall₂_eq_eq_eq]
    decide
  have plain : (kick.extract kickArguments "!Kick Kate as Spam").values =
      [("who", some "Kate"), ("why", some "Spam")] := by cbv
  have odd : (kick.extract kickArguments "!\u212Aic\u212A \u212AATE a\u017F \u017Fpam").values =
      [("who", some "\u212AATE"), ("why", some "\u017Fpam")] := by cbv
  obtain ⟨-, -, -, -, -, values⟩ := extract_of_sameLetters same kick kickArguments
  rw [plain, odd] at values
  exact ⟨compile_eq_ok_iff.mpr ⟨rfl, by cbv, by decide⟩, plain, odd, values⟩

end Compiled

end ChatCommand
