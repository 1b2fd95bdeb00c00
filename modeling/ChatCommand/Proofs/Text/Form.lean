import ChatCommand.Pattern.Basic
import ChatCommand.Proofs.Text.Run
import ChatCommand.Text.DecimalDigit

/-!
# Forms of texts

A form is a regular expression with the few operators that are needed to say which texts are
numbers, identifiers, digests or links. A text has a form as a whole, so how a search would come to
it plays no part. Two sorts of forms are easy to tell: those of a few texts, which can be listed,
and the repetitions of a class of characters.

## Main definitions

- `Text.Form`, `Text.Form.Matches`: forms and the texts that have them.
- `Text.Form.written`: a form as it is usually written.
- `Text.Form.Lists`: all texts that have a form.

## Main results

- `Text.Form.matches_times_char_iff`: repetitions of a class.
- `Text.Form.Lists.seq`, `Text.Form.Lists.either`, `Text.Form.Lists.optional`: how lists of texts
  go with the operators.
-/

namespace ChatCommand.Text

/-- A class of characters. -/
inductive CharClass where
  /-- The decimal digits of all scripts. -/
  | digit
  /-- The characters that are no white space. -/
  | solid
  /-- The characters of some ranges. -/
  | ranges (bounds : List (Char × Char))

namespace CharClass

/-- Whether a character belongs to a class. -/
def holds : CharClass → Char → Bool
  | digit, c => isDecimalDigit c
  | solid, c => !isBlank c
  | ranges bounds, c => bounds.any fun (low, high) => low ≤ c && c ≤ high

/-- A range, or the only character of it. -/
def writtenRange : Char × Char → List Char
  | (low, high) => if low = high then [low] else [low, '-', high]

/-- A class as it is usually written. -/
def written : CharClass → List Char
  | digit => ['\\', 'd']
  | solid => ['\\', 'S']
  | ranges bounds => '[' :: bounds.flatMap writtenRange ++ [']']

end CharClass

/-- A form that texts can have. -/
inductive Form where
  /-- A single character. -/
  | char (members : CharClass)
  /-- Nothing but the given text. -/
  | word (text : String)
  | seq (first second : Form)
  | either (first second : Form)
  /-- A form repeated at least and, if there is such a bound, at most so many times. -/
  | times (form : Form) (least : Nat) (most? : Option Nat)

namespace Form

/-- Something of a form, or nothing. -/
def optional (form : Form) : Form := times form 0 (some 1)

/-- The text as a whole has the form. -/
def Matches : Form → List Char → Prop
  | char members, text => ∃ c, members.holds c = true ∧ text = [c]
  | word chars, text => text = chars.toList
  | seq first second, text =>
    ∃ opening rest, text = opening ++ rest ∧ first.Matches opening ∧ second.Matches rest
  | either first second, text => first.Matches text ∨ second.Matches text
  | times form least most?, text =>
    ∃ parts : List (List Char), text = parts.flatten ∧ least ≤ parts.length ∧
      (∀ most ∈ most?, parts.length ≤ most) ∧ ∀ part ∈ parts, form.Matches part

/-! ### Written forms -/

/-- What stands behind a form that is repeated. -/
def quantifier : Nat → Option Nat → List Char
  | 0, none => ['*']
  | 1, none => ['+']
  | 0, some 1 => ['?']
  | least, none => '\x7b' :: Nat.toDigits 10 least ++ [',', '\x7d']
  | least, some most =>
    if least = most then '\x7b' :: Nat.toDigits 10 least ++ ['\x7d']
    else '\x7b' :: Nat.toDigits 10 least ++ ',' :: Nat.toDigits 10 most ++ ['\x7d']

/-- Where a form stands, from the loosest to the tightest place. -/
inductive Place where
  | alternative
  | part
  | repeated
  deriving DecidableEq

/-- A form as it is written at its place, with a group around it where it would fall apart. -/
def writtenAt (place : Place) : Form → List Char
  | char members => members.written
  | word text =>
    grouped (place = .repeated && text.length != 1) (text.toList.flatMap Pattern.escapedChar)
  | seq first second =>
    grouped (place = .repeated) (first.writtenAt .part ++ second.writtenAt .part)
  | either first second =>
    grouped (place != .alternative)
      (first.writtenAt .alternative ++ '|' :: second.writtenAt .alternative)
  | times form least most? =>
    grouped (place = .repeated) (form.writtenAt .repeated ++ quantifier least most?)
where
  grouped (needed : Bool) (inner : List Char) : List Char :=
    if needed then ['(', '?', ':'] ++ inner ++ [')'] else inner

/-- The usual way to write that a text as a whole has a form. -/
def written (form : Form) : String :=
  String.ofList ('^' :: form.writtenAt .part ++ ['$'])

/-! ### Texts of a form -/

variable {form first second : Form} {members : CharClass} {text : List Char}

theorem matches_seq_iff :
    (seq first second).Matches text ↔
      ∃ opening rest, text = opening ++ rest ∧ first.Matches opening ∧ second.Matches rest :=
  .rfl

theorem matches_optional_iff : form.optional.Matches text ↔ text = [] ∨ form.Matches text := by
  constructor
  · rintro ⟨parts, rfl, -, most, each⟩
    match parts with
    | [] => exact .inl rfl
    | [part] => exact .inr (by simpa using each)
    | _ :: _ :: _ => exact absurd (most 1 rfl) (by simp)
  · rintro (rfl | matched)
    · exact ⟨[], rfl, Nat.zero_le _, fun _ _ => Nat.zero_le _, nofun⟩
    · refine ⟨[text], by simp, Nat.zero_le _, ?_, List.forall_mem_singleton.mpr matched⟩
      rintro _ ⟨⟩
      exact Nat.le_refl 1

/-- Parts that are single characters of a class are the characters of one text. -/
theorem exists_chars {parts : List (List Char)}
    (each : ∀ part ∈ parts, (char members).Matches part) :
    ∃ chars : List Char, parts = (chars.map fun c => [c]) ∧ Within members.holds chars := by
  induction parts with
  | nil => exact ⟨[], rfl, nofun⟩
  | cons part parts ih =>
    obtain ⟨⟨c, inClass, rfl⟩, later⟩ := List.forall_mem_cons.mp each
    obtain ⟨chars, rfl, within⟩ := ih later
    exact ⟨c :: chars, rfl, List.forall_mem_cons.mpr ⟨inClass, within⟩⟩

/-- A class that is repeated has the texts of so many of its characters. -/
theorem matches_times_char_iff {least : Nat} {most? : Option Nat} :
    (times (char members) least most?).Matches text ↔
      least ≤ text.length ∧ (∀ most ∈ most?, text.length ≤ most) ∧ Within members.holds text := by
  have whole (chars : List Char) : (chars.map fun c => [c]).flatten = chars := by
    rw [← List.flatMap_def, List.flatMap_singleton']
  constructor
  · rintro ⟨parts, rfl, atLeast, atMost, each⟩
    obtain ⟨chars, rfl, within⟩ := exists_chars each
    rw [List.length_map] at atLeast atMost
    rw [whole]
    exact ⟨atLeast, atMost, within⟩
  · rintro ⟨atLeast, atMost, within⟩
    refine ⟨text.map fun c => [c], (whole text).symm, ?_, ?_, ?_⟩
    · rwa [List.length_map]
    · rwa [List.length_map]
    · intro part member
      obtain ⟨c, among, rfl⟩ := List.mem_map.mp member
      exact ⟨c, within c among, rfl⟩

/-! ### Forms of few texts -/

/-- The texts that have the form are those of a list. -/
def Lists (form : Form) (texts : List (List Char)) : Prop :=
  ∀ text, form.Matches text ↔ text ∈ texts

variable {texts others : List (List Char)}

theorem lists_word (chars : String) : (word chars).Lists [chars.toList] :=
  fun _ => List.mem_singleton.symm

theorem Lists.seq (listsFirst : first.Lists texts) (listsSecond : second.Lists others) :
    (seq first second).Lists (texts.flatMap fun opening => others.map (opening ++ ·)) := by
  intro text
  rw [matches_seq_iff, List.mem_flatMap]
  simp only [listsFirst _, listsSecond _, List.mem_map]
  constructor
  · rintro ⟨opening, rest, rfl, opens, goesOn⟩
    exact ⟨opening, opens, rest, goesOn, rfl⟩
  · rintro ⟨opening, opens, rest, goesOn, rfl⟩
    exact ⟨opening, rest, rfl, opens, goesOn⟩

theorem Lists.either (listsFirst : first.Lists texts) (listsSecond : second.Lists others) :
    (either first second).Lists (texts ++ others) := fun text =>
  (or_congr (listsFirst text) (listsSecond text)).trans List.mem_append.symm

theorem Lists.optional (lists : form.Lists texts) : form.optional.Lists ([] :: texts) := fun text =>
  matches_optional_iff.trans ((or_congr_right (lists text)).trans List.mem_cons.symm)

end Form

end ChatCommand.Text
