import ChatCommand.Proofs.Pattern.Split
import ChatCommand.Proofs.Template.Uses
import Mathlib.Data.List.Forall2

/-!
# Filling a template

A template can be filled with texts, the blocks that are to be there being given by their numbers.
What is written that way fits every message that splits with the same texts and the same blocks:
the texts character by character, the rest up to letter case.

## Main definitions

- `Template.Mark`: a written character, which may stand for the same letter in another case.
- `Template.fill`: what is written for given texts and blocks.
- `Template.Opens`: the blocks of a template by their numbers.

## Main results

- `Split.Agrees.exists_fill`: what is written fits the message that is split.
- `Split.Agrees.of_supplied`: texts and blocks may be told from the arguments alone.
- `exists_agrees_of_fill`: what is written with non-empty texts can be split into them again.
-/

namespace ChatCommand.Template

variable {sigilText : List Char} {template : Template}

/-- A written character. -/
structure Mark where
  char : Char
  /-- Whether it comes from the text of an argument. -/
  verbatim : Bool
  deriving DecidableEq, Repr

namespace Mark

/-- The marks of a text of an argument. -/
def given (text : List Char) : List Mark := text.map fun c => ⟨c, true⟩

/-- The marks of a text that stands for itself. -/
def fixed (text : List Char) : List Mark := text.map fun c => ⟨c, false⟩

/-- A character in a message is the one written, or the same up to letter case where none of an
argument is written. -/
def Fits (mark : Mark) (c : Char) : Prop :=
  if mark.verbatim then c = mark.char else Text.fold c = Text.fold mark.char

@[simp]
theorem map_char_given (text : List Char) : (given text).map char = text := by
  simp [given, Function.comp_def]

@[simp]
theorem map_char_fixed (text : List Char) : (fixed text).map char = text := by
  simp [fixed, Function.comp_def]

theorem fits_given (text : List Char) : List.Forall₂ Fits (given text) text := by
  rw [given, List.forall₂_map_left_iff]
  exact List.forall₂_same.mpr fun _ _ => rfl

theorem fits_fixed {text spelled : List Char}
    (same : spelled.map Text.fold = text.map Text.fold) :
    List.Forall₂ Fits (fixed text) spelled := by
  induction text generalizing spelled with
  | nil =>
    obtain rfl := List.map_eq_nil_iff.mp same
    exact .nil
  | cons c text ih =>
    obtain ⟨d, rest, rfl, here, there⟩ := List.map_eq_cons_iff.mp same
    exact .cons here (ih there)

end Mark

/-- What is written for a template, when each argument has its text and each block is there or not
by its number. The blocks of an argument are counted as in the pattern, `earlier` being the owners
of those that opened before. Nothing is written when a text is missing. -/
def fill (sigilText : List Char) (text : Nat → Option (List Char)) (there : Nat → Nat → Bool)
    (earlier : List Nat) : Template → Option (List Mark)
  | nil => some []
  | sigil rest => do
    let after ← rest.fill sigilText text there earlier
    return Mark.fixed sigilText ++ after
  | literal chars rest => do
    let after ← rest.fill sigilText text there earlier
    return Mark.fixed chars ++ after
  | argument n rest => do
    let chars ← text n
    let after ← rest.fill sigilText text there earlier
    return Mark.given chars ++ after
  | keyOff n content rest => do
    let inside ← if there n (earlier.count n + 1) then
      content.fill sigilText text there (earlier ++ [n]) else some []
    let after ← rest.fill sigilText text there (earlier ++ n :: content.blockOwners)
    return inside ++ after

/-- The block of an argument with a number opens in the template, when this stands behind the blocks
of the owners in `earlier`. -/
def Opens (template : Template) (earlier : List Nat) (n k : Nat) : Prop :=
  earlier.count n < k ∧ k ≤ earlier.count n + template.blockOwners.count n

section

variable {content rest : Template} {earlier : List Nat} {m n k : Nat}

/-- The blocks of a sequence that begins with a block: this one, those inside it, and those behind
it. -/
theorem opens_keyOff_iff :
    (keyOff m content rest).Opens earlier n k ↔
      (n = m ∧ k = earlier.count m + 1) ∨ content.Opens (earlier ++ [m]) n k ∨
        rest.Opens (earlier ++ m :: content.blockOwners) n k := by
  simp only [Opens, blockOwners, List.count_cons, List.count_append, List.count_nil, beq_iff_eq]
  by_cases same : m = n
  · subst same
    simp only [if_true, true_and]
    omega
  · simp only [same, Ne.symm same, if_false, false_and, false_or]
    omega

theorem opens_keyOff : (keyOff n content rest).Opens earlier n (earlier.count n + 1) :=
  opens_keyOff_iff.mpr (.inl ⟨rfl, rfl⟩)

theorem Opens.of_content (opens : content.Opens (earlier ++ [m]) n k) :
    (keyOff m content rest).Opens earlier n k :=
  opens_keyOff_iff.mpr (.inr (.inl opens))

theorem Opens.of_rest (opens : rest.Opens (earlier ++ m :: content.blockOwners) n k) :
    (keyOff m content rest).Opens earlier n k :=
  opens_keyOff_iff.mpr (.inr (.inr opens))

end

namespace Split

variable {text value : Nat → Option (List Char)} {there : Nat → Nat → Bool}
  {supplied : Nat → Bool} {earlier scope : List Nat}

/-- What is written with the texts and the blocks of a split fits its message. -/
theorem Agrees.exists_fill {split : Split sigilText template}
    (agrees : split.Agrees text there earlier) :
    ∃ written, template.fill sigilText text there earlier = some written ∧
      List.Forall₂ Mark.Fits written split.message := by
  -- On the split: each part of the message fits what is written in its place.
  induction split generalizing earlier with
  | nil => exact ⟨[], rfl, .nil⟩
  | sigil spelled same after ih =>
    obtain ⟨written, filled, fits⟩ := ih agrees
    refine ⟨Mark.fixed sigilText ++ written, ?_, List.rel_append (Mark.fits_fixed same) fits⟩
    simp [fill, filled]
  | literal spelled same after ih =>
    obtain ⟨written, filled, fits⟩ := ih agrees
    refine ⟨_, ?_, List.rel_append (Mark.fits_fixed same) fits⟩
    simp [fill, filled]
  | argument chars nonempty after ih =>
    obtain ⟨here, agrees⟩ := agrees
    obtain ⟨written, filled, fits⟩ := ih agrees
    refine ⟨Mark.given chars ++ written, ?_, List.rel_append (Mark.fits_given chars) fits⟩
    simp [fill, here, filled]
  | present inside after ihInside ihAfter =>
    obtain ⟨here, agreesInside, agreesAfter⟩ := agrees
    obtain ⟨content, filledInside, fitsInside⟩ := ihInside agreesInside
    obtain ⟨written, filledAfter, fitsAfter⟩ := ihAfter agreesAfter
    refine ⟨content ++ written, ?_, List.rel_append fitsInside fitsAfter⟩
    simp [fill, here, filledInside, filledAfter]
  | absent after ih =>
    obtain ⟨here, agrees⟩ := agrees
    obtain ⟨written, filled, fits⟩ := ih agrees
    refine ⟨written, ?_, fits⟩
    simp [fill, here, filled]

/-- Blocks that are there by number may be told from the arguments that are supplied, and texts
from the captures of arguments all of whose surrounding blocks belong to supplied ones. -/
theorem Agrees.of_supplied {split : Split sigilText template}
    (agrees : split.Agrees text there earlier)
    (blocks : ∀ n k, template.Opens earlier n k → there n k = supplied n)
    (texts : ∀ occurrence ∈ template.uses scope, (∀ m ∈ occurrence.scope, supplied m = true) →
      ∀ chars, text occurrence.ordinal = some chars → value occurrence.ordinal = some chars)
    (opened : ∀ m ∈ scope, supplied m = true) :
    split.Agrees value (fun n _ => supplied n) earlier := by
  induction split generalizing earlier scope with
  | nil => trivial
  | sigil spelled same after ih => exact ih agrees blocks texts opened
  | literal spelled same after ih => exact ih agrees blocks texts opened
  | argument chars nonempty after ih =>
    obtain ⟨given, agrees⟩ := agrees
    obtain ⟨here, texts⟩ := List.forall_mem_cons.mp texts
    exact ⟨here opened chars given, ih agrees blocks texts opened⟩
  | @present n content rest inside after ihInside ihAfter =>
    obtain ⟨here, agreesInside, agreesAfter⟩ := agrees
    obtain ⟨textsInside, textsAfter⟩ := List.forall_mem_append.mp texts
    -- What stands inside the block stands in the scope of a supplied argument again.
    have owner : supplied n = true := by rw [← blocks _ _ opens_keyOff, here]
    refine ⟨owner, ?_, ?_⟩
    · exact ihInside agreesInside (fun m k opens => blocks m k opens.of_content) textsInside
        (List.forall_mem_cons.mpr ⟨owner, opened⟩)
    · exact ihAfter agreesAfter (fun m k opens => blocks m k opens.of_rest) textsAfter opened
  | @absent n content rest after ih =>
    obtain ⟨here, agrees⟩ := agrees
    obtain ⟨-, textsAfter⟩ := List.forall_mem_append.mp texts
    have owner : supplied n = false := by rw [← blocks _ _ opens_keyOff, here]
    exact ⟨owner, ih agrees (fun m k opens => blocks m k opens.of_rest) textsAfter opened⟩

end Split

/-- What is written with non-empty texts can be split into the same texts and blocks. -/
theorem exists_agrees_of_fill {texts : Nat → List Char} (there : Nat → Nat → Bool)
    (earlier : List Nat) (nonempty : ∀ n ∈ template.referenced, texts n ≠ []) :
    ∃ (written : List Mark) (split : Split sigilText template),
      template.fill sigilText (fun n => some (texts n)) there earlier = some written ∧
        split.message = written.map Mark.char ∧
        split.Agrees (fun n => some (texts n)) there earlier := by
  -- On the template, with the owners of the blocks that opened before what is written.
  induction template generalizing earlier with
  | nil => exact ⟨[], .nil, rfl, rfl, trivial⟩
  | sigil rest ih =>
    obtain ⟨written, split, filled, whole, agrees⟩ := ih earlier nonempty
    refine ⟨Mark.fixed sigilText ++ written, .sigil sigilText rfl split, ?_, ?_, agrees⟩
    · simp [fill, filled]
    · simp [Split.message, whole]
  | literal chars rest ih =>
    obtain ⟨written, split, filled, whole, agrees⟩ := ih earlier nonempty
    refine ⟨Mark.fixed chars ++ written, .literal chars rfl split, ?_, ?_, agrees⟩
    · simp [fill, filled]
    · simp [Split.message, whole]
  | argument n rest ih =>
    obtain ⟨here, nonempty⟩ := List.forall_mem_cons.mp nonempty
    obtain ⟨written, split, filled, whole, agrees⟩ := ih earlier nonempty
    refine ⟨Mark.given (texts n) ++ written, .argument (texts n) here split, ?_, ?_, rfl, agrees⟩
    · simp [fill, filled]
    · simp [Split.message, whole]
  | keyOff n content rest ihContent ihRest =>
    obtain ⟨inner, outer⟩ := List.forall_mem_append.mp nonempty
    obtain ⟨written, after, filled, whole, agrees⟩ :=
      ihRest (earlier ++ n :: content.blockOwners) outer
    by_cases chosen : there n (earlier.count n + 1) = true
    · obtain ⟨inside, split, filledInside, wholeInside, within⟩ := ihContent (earlier ++ [n]) inner
      refine ⟨inside ++ written, .present split after, ?_, ?_, chosen, within, agrees⟩
      · simp [fill, chosen, filledInside, filled]
      · simp [Split.message, wholeInside, whole]
    · refine ⟨written, .absent after, ?_, whole, Bool.eq_false_iff.mpr chosen, agrees⟩
      simp [fill, chosen, filled]

/-- What is written with non-empty texts can be split. -/
theorem exists_split_of_fill {texts : Nat → List Char} (there : Nat → Nat → Bool)
    (earlier : List Nat) (nonempty : ∀ n ∈ template.referenced, texts n ≠ []) :
    ∃ (written : List Mark) (split : Split sigilText template),
      template.fill sigilText (fun n => some (texts n)) there earlier = some written ∧
        split.message = written.map Mark.char := by
  obtain ⟨written, split, filled, whole, -⟩ := exists_agrees_of_fill there earlier nonempty
  exact ⟨written, split, filled, whole⟩

end ChatCommand.Template
