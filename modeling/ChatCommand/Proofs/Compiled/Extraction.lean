import ChatCommand.Pattern.Limits
import ChatCommand.Proofs.Compiled.Findings
import ChatCommand.Proofs.Compiled.Matching
import ChatCommand.Proofs.Pattern.Captures
import ChatCommand.Proofs.Template.Scoping

/-!
# Extraction gives back what was written

When every argument is extracted, the template filled with the texts is the message again, with a
block being there just when the value of its argument is. What was captured of an optional argument
is its value because it is used only beneath a block of its own, and all its blocks are there or
missing together.

## Main results

- `agrees_text?`: a complete extraction agrees with the split it comes from.
- `fill_of_extract`: filling the template with what was extracted gives the message back.
-/

namespace ChatCommand

open Pattern (textOf?)
open Template (Mark Split)

variable {sigil source message : String} {arguments : List Argument} {compiled : Compiled}
  {captures : List Pattern.Capture} {text : Nat → Option (List Char)}

/-- A split agrees with what is found in its captures when nothing is only partly supplied. -/
theorem agrees_of_complete {split : Split sigil.toList compiled.template}
    (agrees : split.Agrees (fun n => textOf? captures (.argument n))
      (fun n k => (textOf? captures (.keyOff n k)).isSome) [])
    (wellFormed : compiled.template.WellFormed arguments)
    (complete : compiled.Complete captures arguments)
    (yielded : ∀ n argument, Argument.withOrdinal? arguments n = some argument →
      text n = (compiled.find captures n argument).value.map String.toList) :
    split.Agrees text (fun n _ => (text n).isSome) [] := by
  -- Blocks belong to optional arguments, of which all blocks agree; a use of an optional argument
  -- stands in a block of its own, and a required argument is never missing.
  refine agrees.of_supplied ?_ ?_ (List.forall_mem_nil _)
  · rintro n k ⟨low, high⟩
    rw [List.count_nil] at low high
    rw [Nat.zero_add] at high
    have owner : n ∈ compiled.template.blockOwners :=
      List.count_pos_iff.mp (Nat.lt_of_lt_of_le low high)
    obtain ⟨argument, declared, optional⟩ := wellFormed.owners n owner
    rw [complete.isSome_block declared optional low high, yielded n argument declared,
      Option.isSome_map]
  · rintro ⟨n, scope⟩ member opened chars captured
    have used : n ∈ compiled.template.referenced := by
      rw [← Template.map_ordinal_uses _ []]
      exact List.mem_map_of_mem member
    obtain ⟨argument, declared⟩ := wellFormed.exists_of_used used
    have supplied : (compiled.find captures n argument).value.isSome = true := by
      cases optional : argument.optional with
      | false => exact (complete n argument declared).2 optional
      | true =>
        have own := opened n (wellFormed.inside _ member argument declared optional)
        rwa [yielded n argument declared, Option.isSome_map] at own
    have value := complete.value_eq declared used supplied
    rw [captured] at value
    show text n = some chars
    rw [yielded n argument declared, value]
    simp

/-- When every argument is extracted, filling the template with the texts gives a message as long
as the one received, the same where a text is written and the same up to letter case elsewhere; no
argument that is used has an empty text. -/
theorem fill_of_extract [Pattern.Builder] (distinct : (arguments.map Argument.id).Nodup)
    (compiles : compile sigil arguments source = .ok compiled)
    (succeeded : (compiled.extract arguments message).succeeded = true) :
    (∃ written,
      compiled.template.fill sigil.toList ((compiled.extract arguments message).text? arguments)
          (fun n _ => ((compiled.extract arguments message).text? arguments n).isSome) [] =
        some written ∧
      List.Forall₂ Mark.Fits written message.toList) ∧
    ∀ n ∈ compiled.template.referenced, ∀ chars,
      (compiled.extract arguments message).text? arguments n = some chars → chars ≠ [] := by
  obtain ⟨rfl, read, buildable⟩ := compile_eq_ok_iff.mp compiles
  obtain ⟨body, shape, lawful, once⟩ := Template.lawful_of_parse read
  have wellFormed : compiled.template.WellFormed arguments := shape ▸ lawful.wellFormed once
  obtain ⟨values, extracted⟩ := Extraction.succeeded_iff.mp succeeded
  rw [extracted]
  obtain ⟨captures, matched, complete, yielded⟩ := Compiled.extract_eq_complete_iff.mp extracted
  -- The captures are those of the first split, which holds the texts to be written back.
  obtain ⟨split, whole, rfl, -⟩ := Template.exists_first_of_captures? matched
  have groups := Pattern.groups_nodup_of_isBuildable buildable
  rw [Compiled.pattern, Template.toPattern_eq] at groups
  have text_eq (n : Nat) (argument : Argument)
      (declared : Argument.withOrdinal? arguments n = some argument) :=
    Compiled.text?_eq distinct yielded declared
  refine ⟨?_, ?_⟩
  · have agrees := agrees_of_complete (split.agrees_captures groups 0) wellFormed complete text_eq
    rw [← whole]
    exact agrees.exists_fill
  · intro n used chars given
    obtain ⟨argument, declared⟩ := wellFormed.exists_of_used used
    rw [text_eq n argument declared] at given
    have supplied : (compiled.find (split.captures [] 0) n argument).value.isSome = true := by
      rw [← Option.isSome_map (f := String.toList), given]
      rfl
    rw [complete.value_eq declared used supplied] at given
    have captured : textOf? (split.captures [] 0) (.argument n) = some chars := by
      simpa using given
    exact split.textOf?_argument_ne_nil captured

open scoped Pattern.Limits in
/-- A time in two blocks, one inside the other, is written back with the letter case kept. -/
theorem fill_of_extract_mute : ∃ compiled text,
    compile "!" [.required "who" "who", .ofOptional "time" "time"]
        "<prefix>mute $1{opt $2}[ for {opt $2}[$2]]" = .ok compiled ∧
      text 1 = some "Ann".toList ∧ text 2 = some "1H".toList ∧
      ∃ written, compiled.template.fill ['!'] text (fun n _ => (text n).isSome) [] = some written ∧
        List.Forall₂ Mark.Fits written "!Mute Ann FOR 1H".toList := by
  have compiles : compile "!" [.required "who" "who", .ofOptional "time" "time"]
      "<prefix>mute $1{opt $2}[ for {opt $2}[$2]]" = .ok ⟨"!", .sigil (.literal "mute ".toList
        (.argument 1 (.keyOff 2 (.literal " for ".toList (.keyOff 2 (.argument 2 .nil) .nil))
          .nil)))⟩ :=
    compile_eq_ok_iff.mpr ⟨rfl, by cbv, by decide⟩
  have refilled := fill_of_extract (by decide) compiles
    (show (Compiled.extract _ _ "!Mute Ann FOR 1H").succeeded = true by cbv)
  exact ⟨_, _, compiles, by cbv, by cbv, refilled.1⟩

end ChatCommand
