import ChatCommand.Proofs.Text.Run
import ChatCommand.Template.Parser

/-!
# Spellings of templates

A template can be written in many ways: letters of the tag and of the word `opt` in either case,
characters with or without a backslash, numbers with zeros in front, white space in the head of a
block. The texts that write a template are described here by its segments, without regard to how
they are read. Whether a text writes something can depend on what stands behind it: a lone backslash
writes itself only at the very end, and the digits of an argument must not run into others.

## Main definitions

- `Numeral`, `Keyword`, `BlockHead`: digits, the beginning of a block's head, and the whole head.
- `SpellsChar`, `SpellsText`, `Spells`: a text writes a character, a literal, a sequence in front of
  another text.
- `IsSpelling`: a whole text writes a template.
-/

namespace ChatCommand.Template

/-- Digits that write a number, with any zeros in front. -/
structure Numeral where
  digits : List Char
  filled : digits ≠ []
  decimal : Text.Within Char.isDigit digits

/-- The number written. -/
def Numeral.value (numeral : Numeral) : Nat := Text.natOfDigits numeral.digits

/-- The beginning of a block's head, up to the argument: a brace, the word `opt`, and white space
behind the word and possibly before it. -/
structure Keyword where
  gap : List Char
  word : List Char
  space : List Char
  gap_blank : Text.Within Text.isBlank gap
  same : Text.sameAscii ['o', 'p', 't'] word = true
  apart : space ≠ []
  space_blank : Text.Within Text.isBlank space

namespace Keyword

/-- What is written behind the brace. -/
def inner (keyword : Keyword) : List Char := keyword.gap ++ keyword.word ++ keyword.space

/-- What is written. -/
def text (keyword : Keyword) : List Char := '\x7b' :: keyword.inner

end Keyword

/-- The head of a block, `{opt $N}[`. -/
structure BlockHead extends Keyword where
  numeral : Numeral
  tail : List Char
  tail_blank : Text.Within Text.isBlank tail

namespace BlockHead

/-- The argument that owns the block. -/
def owner (head : BlockHead) : Nat := head.numeral.value

/-- What is written behind the brace. -/
def body (head : BlockHead) : List Char :=
  head.inner ++ '$' :: (head.numeral.digits ++ head.tail ++ ['\x7d', '['])

/-- What is written. -/
def written (head : BlockHead) : List Char := '\x7b' :: head.body

end BlockHead

/-- The characters that do not stand for themselves. -/
def signs : List Char := ['\\', '$', '\x7b', ']']

/-- A text writes a character in front of another text. -/
inductive SpellsChar : Char → List Char → List Char → Prop
  | bare {c : Char} {behind : List Char} (plain : c ∉ signs) : SpellsChar c [c] behind
  | escaped (c : Char) {behind : List Char} : SpellsChar c ['\\', c] behind
  /-- At the very end there is nothing to escape. -/
  | lone : SpellsChar '\\' ['\\'] []

/-- A text writes the characters of a literal in front of another text. -/
inductive SpellsText : List Char → List Char → List Char → Prop
  | nil {behind : List Char} : SpellsText [] [] behind
  | cons {c : Char} {chars front text behind : List Char}
      (first : SpellsChar c front (text ++ behind)) (others : SpellsText chars text behind) :
      SpellsText (c :: chars) (front ++ text) behind

/-- A text writes a sequence of segments in front of another text. -/
inductive Spells : Template → List Char → List Char → Prop
  | nil {behind : List Char} : Spells nil [] behind
  | literal {chars front text behind : List Char} {rest : Template}
      (spelled : SpellsText chars front (text ++ behind)) (after : Spells rest text behind) :
      Spells (literal chars rest) (front ++ text) behind
  | argument {text behind : List Char} {rest : Template} (numeral : Numeral)
      (ends : Text.OpensOutside Char.isDigit (text ++ behind)) (after : Spells rest text behind) :
      Spells (argument numeral.value rest) ('$' :: (numeral.digits ++ text)) behind
  | keyOff {inside text behind : List Char} {content rest : Template} (head : BlockHead)
      (within : Spells content inside (']' :: text ++ behind)) (after : Spells rest text behind) :
      Spells (keyOff head.owner content rest) (head.written ++ inside ++ ']' :: text) behind

/-- A text writes a template: the tag in any case of letters, then the segments behind the
prefix. -/
def IsSpelling (source : List Char) (template : Template) : Prop :=
  ∃ opening text body, source = opening ++ text ∧ Text.sameAscii tag opening = true ∧
    template = sigil body ∧ Spells body text []

/-! ### One after another -/

variable {chars more front back behind : List Char} {template other : Template}

theorem SpellsText.append (first : SpellsText chars front (back ++ behind))
    (second : SpellsText more back behind) :
    SpellsText (chars ++ more) (front ++ back) behind := by
  generalize ahead : back ++ behind = rest at first
  induction first with
  | nil => exact second
  | @cons c chars front text rest first _ ih =>
    subst ahead
    rw [← List.append_assoc] at first
    rw [List.append_assoc front]
    exact .cons first (ih rfl)

theorem Spells.append (first : Spells template front (back ++ behind))
    (second : Spells other back behind) : Spells (template ++ other) (front ++ back) behind := by
  generalize ahead : back ++ behind = rest at first
  induction first with
  | nil => exact second
  | literal spelled _ ih =>
    subst ahead
    rw [← List.append_assoc] at spelled
    rw [List.append_assoc]
    exact .literal spelled (ih rfl)
  | argument numeral ends _ ih =>
    subst ahead
    rw [← List.append_assoc] at ends
    rw [List.cons_append, List.append_assoc]
    exact .argument numeral ends (ih rfl)
  | keyOff head within _ _ ih =>
    subst ahead
    rw [List.cons_append, ← List.append_assoc, ← List.cons_append] at within
    rw [List.append_assoc, List.cons_append]
    exact .keyOff head within (ih rfl)

end ChatCommand.Template
