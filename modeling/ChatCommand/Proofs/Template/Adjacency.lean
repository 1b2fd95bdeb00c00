import ChatCommand.Proofs.Template.ErrorPlace
import ChatCommand.Proofs.Template.Flattening
import ChatCommand.Proofs.Template.Scoping

/-!
# Arguments side by side

A draft carries one truth value: whether an argument may stand directly before the next token. For
every open block it also keeps the value with which the block was opened. These are the values of
one pass over the unfinished sequences, so they are exact: a template that was read has text between
any two arguments, whichever blocks are there, and an argument is refused only when some choice of
the blocks closed before it puts another one directly before it.

## Main definitions

- `Draft.Flagged`: the truth values of a draft are those of one pass.
- `FlattensOpen`: what a template comes down to when its last blocks are there.
- `MayEndInArgument`: an argument may stand at the end of a text.

## Main results

- `Draft.Flagged.step`: each step keeps the values exact.
- `keepsApart_of_parse`: what was read keeps its arguments apart.
- `Reached.close`, `FlattensOpen.enclose`: what closing the open blocks makes of a draft.
- `parse_adjacency_exact`: the check is exact in both directions.
-/

namespace ChatCommand.Template

variable {arguments : List Argument} {draft next : Draft} {spot : Token.Spot} {n : Nat}
  {before : Bool}
  {frame : Frame} {frames : List Frame} {items : List Item}

/-! ### The values of a draft -/

/-- Whether an argument may stand directly before the innermost open sequence. -/
def flagBefore : List Frame → Bool
  | [] => false
  | frame :: _ => frame.afterArgument

/-- The values kept with the open blocks are those of one pass over what stands before them. -/
def FramesFlagged : List Frame → Prop
  | [] => True
  | frame :: frames =>
    frame.before.reverse.KeepsApart (flagBefore frames) ∧
      frame.afterArgument = frame.before.reverse.endsInArgument (flagBefore frames) ∧
      FramesFlagged frames

namespace Draft

/-- The truth values of a draft are those of one pass over its unfinished sequences, and the pass
finds no two arguments side by side. -/
structure Flagged (draft : Draft) : Prop where
  apart : draft.flushed.reverse.KeepsApart (flagBefore draft.frames)
  flag : draft.afterArgument = draft.flushed.reverse.endsInArgument (flagBefore draft.frames)
  frames : FramesFlagged draft.frames

theorem keepsApart_reverse_flushed :
    draft.flushed.reverse.KeepsApart before ↔ draft.built.reverse.KeepsApart before := by
  rw [reverse_flushed, keepsApart_append]
  split <;> simp [KeepsApart]

theorem Flagged.empty : Flagged Draft.empty where
  apart := trivial
  flag := rfl
  frames := trivial

theorem Flagged.pushChar (flagged : draft.Flagged) (c : Char) : (draft.pushChar c).Flagged where
  apart := by
    have apart := keepsApart_reverse_flushed.mp flagged.apart
    exact keepsApart_reverse_flushed.mpr apart
  flag := by
    rw [reverse_flushed, endsInArgument_append]
    rfl
  frames := flagged.frames

theorem Flagged.pushArgument (flagged : draft.Flagged) (clear : draft.afterArgument = false)
    (n : Nat) : (draft.pushArgument n).Flagged where
  apart := by
    rw [reverse_flushed_pushArgument, keepsApart_append]
    exact ⟨flagged.apart, flagged.flag.symm.trans clear, trivial⟩
  flag := by
    rw [reverse_flushed_pushArgument, endsInArgument_append]
    rfl
  frames := flagged.frames

theorem Flagged.openBlock (flagged : draft.Flagged) (n position : Nat) :
    (draft.openBlock n position).Flagged where
  apart := trivial
  flag := rfl
  frames := ⟨flagged.apart, flagged.flag, flagged.frames⟩

theorem Flagged.closeBlock (flagged : draft.Flagged) (opened : draft.frames = frame :: frames) :
    (draft.closeBlock frame frames).Flagged := by
  obtain ⟨apart, flag, others⟩ := flagged
  rw [opened] at apart flag others
  obtain ⟨apartBefore, flagFrame, others⟩ := others
  -- The pass goes through what stands before the block and then into its content.
  rw [show flagBefore (frame :: frames) = frame.afterArgument from rfl, flagFrame] at apart flag
  refine ⟨?_, ?_, others⟩
  · rw [reverse_flushed_closeBlock, keepsApart_append]
    exact ⟨apartBefore, apart, trivial⟩
  · rw [reverse_flushed_closeBlock, endsInArgument_append]
    show (frame.afterArgument || draft.afterArgument) = _
    rw [flag, flagFrame]
    rfl

/-- Each step keeps the values exact. -/
theorem Flagged.step (flagged : draft.Flagged)
    (taken : Template.step arguments draft spot = .ok next) : next.Flagged := by
  rcases step_cases taken with ⟨c, -, rfl⟩ | ⟨digits, n, found, -, -, clear, -, -, -, rfl⟩ |
    ⟨header, n, found, -, -, -, rfl⟩ | ⟨frame, frames, -, opened, rfl⟩
  · exact flagged.pushChar c
  · exact flagged.pushArgument clear n
  · exact flagged.openBlock n spot.position
  · exact flagged.closeBlock opened

end Draft

theorem Reached.flagged {done ahead : List Char} (reached : Reached arguments draft done ahead) :
    draft.Flagged := by
  induction reached with
  | start => exact .empty
  | token _ _ taken ih => exact ih.step taken

/-- What was read keeps its arguments apart. -/
theorem keepsApart_of_parse {source : String} {template : Template}
    (read : parse arguments source = .ok template) :
    ∃ body, template = sigil body ∧ body.KeepsApart false := by
  obtain ⟨opening, text, draft, -, -, reached, closed, rfl⟩ := parse_eq_ok_iff_reached.mp read
  have apart := reached.flagged.apart
  rw [closed] at apart
  exact ⟨_, rfl, apart⟩

/-! ### Open blocks -/

/-- The template comes down to the items with its last `open` blocks there, each the last segment
of the one around it. -/
inductive FlattensOpen : Nat → Template → List Item → Prop
  | closed {template : Template} {items : List Item} (flattens : template.Flattens items) :
      FlattensOpen 0 template items
  | opened {k n : Nat} {before content : Template} {front back : List Item}
      (outside : before.Flattens front) (inside : FlattensOpen k content back) :
      FlattensOpen (k + 1) (before ++ keyOff n content nil) (front ++ back)

theorem FlattensOpen.sigil {k : Nat} {template : Template}
    (flattens : FlattensOpen k template items) :
    FlattensOpen k (sigil template) (.sigil :: items) := by
  cases flattens with
  | closed flattens => exact .closed (.sigil flattens)
  | opened outside inside => exact .opened (.sigil outside) inside

/-- The template that results when the open blocks are closed around a sequence. -/
def enclose : List Frame → Template → Template
  | [], inner => inner
  | frame :: frames, inner =>
    enclose frames (frame.before.reverse ++ keyOff frame.owner inner nil)

/-- Closing brackets close the open blocks one by one. -/
theorem Reached.close {done : List Char}
    (reached : Reached arguments draft done (List.replicate draft.frames.length ']')) :
    ∃ final, Reached arguments final (done ++ List.replicate draft.frames.length ']') [] ∧
      final.frames = [] ∧ final.flushed.reverse = enclose draft.frames draft.flushed.reverse := by
  -- On the open blocks, the innermost first: it is the one that the next bracket closes.
  induction stack : draft.frames generalizing draft done with
  | nil =>
    rw [stack] at reached
    refine ⟨draft, ?_, stack, rfl⟩
    rwa [List.length_nil, List.replicate_zero, List.append_nil]
  | cons frame frames ih =>
    rw [stack, List.length_cons, List.replicate_succ] at reached
    have taken : step arguments draft ⟨.close, tag.length + bytes done⟩ =
        .ok (draft.closeBlock frame frames) := by
      unfold step
      simp only [stack]
    have onward : Reached arguments (draft.closeBlock frame frames) (done ++ [']'])
        (List.replicate frames.length ']') := .token reached .close taken
    obtain ⟨final, finished, closed, made⟩ := ih onward rfl
    refine ⟨final, ?_, closed, ?_⟩
    · rwa [List.length_cons, List.replicate_succ, List.append_cons]
    · rw [made, Draft.reverse_flushed_closeBlock]
      rfl

/-- When an argument may stand at the end of the innermost sequence, some choice of the closed
blocks makes one stand at the end of the whole. -/
theorem FlattensOpen.enclose {k : Nat} {inner : Template} (flagged : FramesFlagged frames)
    (flattens : FlattensOpen k inner items)
    (ends : Item.endsInArgument (flagBefore frames) items = true) :
    ∃ items, FlattensOpen (k + frames.length) (enclose frames inner) items ∧
      Item.endsInArgument false items = true := by
  induction frames generalizing k inner items with
  | nil => exact ⟨items, flattens, ends⟩
  | cons frame frames ih =>
    obtain ⟨-, flag, others⟩ := flagged
    -- What stands before the block is chosen to end as the value kept with the block says.
    obtain ⟨front, outside, carried⟩ := exists_flattens (flagBefore frames) frame.before.reverse
    rw [List.length_cons, Nat.add_comm frames.length, ← Nat.add_assoc]
    refine ih others (.opened outside flattens) ?_
    rw [Item.endsInArgument_append, carried, ← flag]
    exact ends

/-- With the blocks closed that are open behind `front`, this is a template; and when these blocks
are there, some choice of the others makes the template end in an argument. -/
def MayEndInArgument (arguments : List Argument) (front : List Char) : Prop :=
  ∃ k template items n,
    parse arguments (String.ofList (front ++ List.replicate k ']')) = .ok template ∧
      FlattensOpen k template items ∧ items.getLast? = some (.argument n)

theorem mayEndInArgument_of_reached {opening done : List Char}
    (same : Text.sameAscii tag opening = true)
    (reached : Reached arguments draft done (List.replicate draft.frames.length ']'))
    (standing : draft.afterArgument = true) : MayEndInArgument arguments (opening ++ done) := by
  obtain ⟨final, finished, closed, made⟩ := reached.close
  obtain ⟨-, flag, frames⟩ := reached.flagged
  obtain ⟨inside, flattens, carried⟩ :=
    exists_flattens (flagBefore draft.frames) draft.flushed.reverse
  rw [← flag, standing] at carried
  obtain ⟨items, whole, ends⟩ := FlattensOpen.enclose frames (.closed flattens) carried
  rw [Nat.zero_add] at whole
  -- The prefix in front does not change how the items end.
  replace ends : Item.endsInArgument false (.sigil :: items) = true := ends
  obtain ⟨n, last⟩ := Item.exists_getLast?_eq ends
  refine ⟨_, _, _, n, ?_, whole.sigil, last⟩
  rw [List.append_assoc, parse_of_reached same finished, finish_eq_ok_iff.mpr ⟨closed, rfl⟩, made]
  rfl

/-! ### Exactness -/

/-- In a template that was read there is text between any two successive arguments, whichever blocks
are there; and an argument is refused as adjacent only when it may stand directly behind another
one. -/
theorem parse_adjacency_exact (arguments : List Argument) :
    (∀ source template, parse arguments source = .ok template →
      template.ArgumentsSeparated) ∧
    ∀ source position,
      parse arguments source = .error ⟨.adjacentArguments, position⟩ →
        ∃ front back, source.toList = front ++ '$' :: back ∧ bytes front = position ∧
          MayEndInArgument arguments front := by
  constructor
  · intro source template read
    obtain ⟨body, rfl, lawful, -⟩ := lawful_of_parse read
    obtain ⟨_, same, apart⟩ := keepsApart_of_parse read
    obtain rfl := Template.sigil.inj same
    exact (argumentsSeparated_iff lawful.plain lawful.literals).mpr apart
  · intro source position failed
    rcases parse_cases_of_error failed with ⟨tagless, -⟩ | ⟨opening, text, whole, same, place⟩
    · nomatch (ParseError.mk.inj tagless).1
    rcases place with ⟨stuck, done, c, rest, rfl, reached, fails⟩ | ⟨draft, -, ended⟩
    · rcases step_cases_of_error fails with ⟨digits, token, here, -, behind⟩ |
        ⟨-, -, -, other | other⟩ | ⟨-, -, -, -, -, other | other⟩ | ⟨-, other⟩
      -- Only an argument is refused as adjacent.
      · obtain rfl : c = '$' := Token.sign_of_cut token
        refine ⟨opening ++ done, rest, ?_, ?_, ?_⟩
        · rw [whole, List.append_assoc]
        · rw [bytes_append, bytes_eq_of_sameAscii same]
          exact here.symm
        · -- The sign of an argument is no digit, and neither is a closing bracket.
          refine mayEndInArgument_of_reached same (reached.congr (fun _ => ?_) nofun) (behind rfl)
          cases stuck.frames <;> trivial
      all_goals simp at other
    · obtain ⟨frame, frames, -, other⟩ := finish_eq_error_iff.mp ended
      simp at other

/-- An argument behind a block is refused when another one stands directly before the block. -/
theorem parse_adjacency_exact_block :
    parse [.required "x" "x", .ofOptional "y" "y", .required "z" "z"]
        "<prefix>a $1{opt $2}[ b $2 c]$3" = .error ⟨.adjacentArguments, 29⟩ ∧
      ∃ front back, "<prefix>a $1{opt $2}[ b $2 c]$3".toList = front ++ '$' :: back ∧
        bytes front = 29 ∧
        MayEndInArgument [.required "x" "x", .ofOptional "y" "y", .required "z" "z"] front := by
  have failed : parse [.required "x" "x", .ofOptional "y" "y", .required "z" "z"]
      "<prefix>a $1{opt $2}[ b $2 c]$3" = .error ⟨.adjacentArguments, 29⟩ := by cbv
  exact ⟨failed, (parse_adjacency_exact _).2 _ _ failed⟩

end ChatCommand.Template
