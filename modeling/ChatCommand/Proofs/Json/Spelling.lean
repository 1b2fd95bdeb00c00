import ChatCommand.Json.Printer
import ChatCommand.Json.Reader
import ChatCommand.Proofs.Text.Run
import Mathlib.Data.List.Forall2

/-!
# Spellings of JSON values

A value can be spelled in many ways that differ in the spaces between its parts only. The text on
one line and the text over several lines are two of them.

## Main definitions

- `Json.Listed`: things that follow one another with commas between them.
- `Json.Spells`: a value is spelled by a text.

## Main results

- `Json.spells_compact`, `Json.spells_pretty`: what is written is a spelling.
-/

namespace ChatCommand.Json

open Reader (isSpace)
open Text (Within)

theorem within_nil : Within isSpace [] := nofun

/-- What stands in front of an item or a field: spaces, and behind another one a comma too. -/
def Gap (first : Bool) (text : List Char) : Prop :=
  if first then Within isSpace text
  else ∃ before after, text = before ++ ',' :: after ∧ Within isSpace before ∧ Within isSpace after

theorem gap_true_iff {text : List Char} : Gap true text ↔ Within isSpace text := Iff.rfl

theorem gap_false_iff {text : List Char} : Gap false text ↔
    ∃ before after, text = before ++ ',' :: after ∧ Within isSpace before ∧ Within isSpace after :=
  Iff.rfl

/-- The text spells some things one after the other; `first` before the first one. -/
inductive Listed {α : Type} (spells : α → List Char → Prop) : Bool → List α → List Char → Prop
  | nil {first : Bool} {spaces : List Char} (spaced : Within isSpace spaces) :
    Listed spells first [] spaces
  | cons {first : Bool} {a : α} {rest : List α} {gap text more : List Char} (apart : Gap first gap)
    (spelled : spells a text) (others : Listed spells false rest more) :
    Listed spells first (a :: rest) (gap ++ (text ++ more))

/-- The text spells a field: the key, a colon and the value. -/
inductive SpellsField (spells : Json → List Char → Prop) : String × Json → List Char → Prop
  | field {key : String} {value : Json} {before after text : List Char}
    (spacedBefore : Within isSpace before) (spacedAfter : Within isSpace after)
    (spelled : spells value text) :
    SpellsField spells (key, value)
      ((stringLiteral key).toList ++ (before ++ ':' :: (after ++ text)))

/-- The text spells a value. -/
inductive Spells : Json → List Char → Prop
  | null : Spells .null "null".toList
  | bool (b : Bool) : Spells (.bool b) (if b then "true" else "false").toList
  | number (n : Number) : Spells (.number n) n.render.toList
  | text (s : String) : Spells (.text s) (stringLiteral s).toList
  | array {items : List Json} {inside : List Char} (listed : Listed Spells true items inside) :
    Spells (.array items) ('[' :: (inside ++ [']']))
  | object {fields : List (String × Json)} {inside : List Char}
    (listed : Listed (SpellsField Spells) true fields inside) :
    Spells (.object fields) ('\x7b' :: (inside ++ ['\x7d']))

/-- What follows the quote that opens a string. -/
def quoteBehind (s : String) : List Char := s.toList.flatMap escapedChar ++ ['"']

theorem toList_stringLiteral (s : String) : (stringLiteral s).toList = '"' :: quoteBehind s := by
  simp [stringLiteral, quoteBehind]

/-- The text spells what follows the key of a field. -/
def SpellsBehindKey (value : Json) (text : List Char) : Prop :=
  ∃ before after spelling, text = before ++ ':' :: (after ++ spelling) ∧ Within isSpace before ∧
    Within isSpace after ∧ value.Spells spelling

theorem SpellsField.exists_behindKey {key : String} {value : Json} {text : List Char}
    (spelled : SpellsField Spells (key, value) text) :
    ∃ behind, text = '"' :: (quoteBehind key ++ behind) ∧ SpellsBehindKey value behind := by
  cases spelled with
  | field spacedBefore spacedAfter spelled =>
    rw [toList_stringLiteral]
    exact ⟨_, rfl, _, _, _, rfl, spacedBefore, spacedAfter, spelled⟩

/-! ### What is written -/

section Lists

variable {α : Type} {spells : α → List Char → Prop} {as : List α} {texts : List (List Char)}
  {lead trail : List Char}

theorem intercalate_cons (separator text : List Char) (texts : List (List Char)) :
    separator.intercalate (text :: texts) = text ++ texts.flatMap (separator ++ ·) := by
  induction texts generalizing text with
  | nil => simp
  | cons next texts ih => simp [List.intercalate_cons_cons, ih]

theorem listed_behind (leading : Within isSpace lead) (trailing : Within isSpace trail)
    (each : List.Forall₂ spells as texts) :
    Listed spells false as (texts.flatMap ((',' :: lead) ++ ·) ++ trail) := by
  induction each with
  | nil => exact .nil trailing
  | cons spelled _ others =>
    have apart : Gap false (',' :: lead) :=
      gap_false_iff.mpr ⟨[], lead, rfl, within_nil, leading⟩
    rw [List.flatMap_cons, List.append_assoc, List.append_assoc]
    exact .cons apart spelled others

/-- Spellings with commas between them, each behind the same spaces, spell one after the other. -/
theorem listed_intercalate (leading : Within isSpace lead) (trailing : Within isSpace trail)
    (each : List.Forall₂ spells as texts) :
    Listed spells true as (lead ++ ((',' :: lead).intercalate texts ++ trail)) := by
  cases each with
  | nil => exact .nil (List.forall_mem_append.mpr ⟨leading, trailing⟩)
  | cons spelled others =>
    rw [intercalate_cons, List.append_assoc]
    exact .cons leading spelled (listed_behind leading trailing others)

end Lists

mutual

/-- The text of a value on one line spells it. -/
theorem spells_compact : ∀ value : Json, Spells value value.compact.toList
  | .null => .null
  | .bool b => .bool b
  | .number n => .number n
  | .text s => .text s
  | .array items => by
    have spelled := Spells.array
      (listed_intercalate within_nil within_nil (forall₂_compactItems items))
    simpa [compact, String.toList_intercalate] using spelled
  | .object fields => by
    have spelled := Spells.object
      (listed_intercalate within_nil within_nil (forall₂_compactFields fields))
    simpa [compact, String.toList_intercalate] using spelled

theorem forall₂_compactItems : ∀ items : List Json,
    List.Forall₂ Spells items ((compact.compactItems items).map String.toList)
  | [] => .nil
  | item :: rest => .cons (spells_compact item) (forall₂_compactItems rest)

theorem forall₂_compactFields : ∀ fields : List (String × Json),
    List.Forall₂ (SpellsField Spells) fields ((compact.compactFields fields).map String.toList)
  | [] => .nil
  | (key, value) :: rest => by
    have spelled : SpellsField Spells (key, value) _ :=
      .field within_nil within_nil (spells_compact value)
    refine .cons ?_ (forall₂_compactFields rest)
    simpa using spelled

end

theorem within_lineBreak (level : Nat) : Within isSpace (lineBreak level).toList := by
  have spaces : Within isSpace (List.replicate (2 * level) ' ') := by
    intro c member
    rw [List.eq_of_mem_replicate member]
    rfl
  have written : (lineBreak level).toList = '\n' :: List.replicate (2 * level) ' ' := by
    simp [lineBreak]
  rw [written]
  exact List.forall_mem_cons.mpr ⟨rfl, spaces⟩

mutual

theorem spells_prettyAt (level : Nat) : ∀ value : Json, Spells value (value.prettyAt level).toList
  | .null => .null
  | .bool b => spells_compact (.bool b)
  | .number n => .number n
  | .text s => .text s
  | .array [] => by simpa [prettyAt] using Spells.array (.nil within_nil)
  | .object [] => by simpa [prettyAt] using Spells.object (.nil within_nil)
  | .array (item :: rest) => by
    have spelled := Spells.array (listed_intercalate (within_lineBreak (level + 1))
      (within_lineBreak level) (forall₂_prettyItems (level + 1) (item :: rest)))
    simpa [prettyAt, String.toList_intercalate] using spelled
  | .object (field :: rest) => by
    have spelled := Spells.object (listed_intercalate (within_lineBreak (level + 1))
      (within_lineBreak level) (forall₂_prettyFields (level + 1) (field :: rest)))
    simpa [prettyAt, String.toList_intercalate] using spelled

theorem forall₂_prettyItems (level : Nat) : ∀ items : List Json,
    List.Forall₂ Spells items ((prettyAt.prettyItems level items).map String.toList)
  | [] => .nil
  | item :: rest => .cons (spells_prettyAt level item) (forall₂_prettyItems level rest)

theorem forall₂_prettyFields (level : Nat) : ∀ fields : List (String × Json),
    List.Forall₂ (SpellsField Spells) fields
      ((prettyAt.prettyFields level fields).map String.toList)
  | [] => .nil
  | (key, value) :: rest => by
    have space : Within isSpace [' '] := List.forall_mem_singleton.mpr rfl
    have spelled : SpellsField Spells (key, value) _ :=
      .field within_nil space (spells_prettyAt level value)
    refine .cons ?_ (forall₂_prettyFields level rest)
    simpa using spelled

end

/-- The text of a value over several lines spells it. -/
theorem spells_pretty (value : Json) : Spells value value.pretty.toList := spells_prettyAt 0 value

end ChatCommand.Json
