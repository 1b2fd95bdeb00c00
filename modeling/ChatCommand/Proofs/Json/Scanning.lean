import ChatCommand.Proofs.Json.Spelling
import ChatCommand.Text.DecimalDigit

/-!
# Scanning what is written

A string and a whole number are scanned back from what is written for them, whatever follows: the
quote ends the string, and a character that cannot go on with a number ends the number.

## Main results

- `Json.Reader.skipSpaces_bind`: behind spaces a reader goes on at the first other character.
- `Json.Reader.stringBody_run`: a string is scanned back.
- `Json.Reader.number_run`: a whole number that fits 64 bits is scanned back.
-/

namespace ChatCommand.Json

open Text (Within OpensOutside)

variable {α β : Type} {spaces rest more : List Char} {seen : Bool} {c : Char}

namespace Reader

/-! ### Steps of readers -/

section Monad

variable {reader : Reader α} {next : α → Reader β} {result : α → β} {cursor behind : Cursor} {a : α}

theorem bind_of_ok (run : reader cursor = .ok (a, behind)) :
    (reader >>= next) cursor = next a behind := by
  simp only [Bind.bind, StateT.bind, run, Except.bind]

theorem map_of_ok (run : reader cursor = .ok (a, behind)) :
    (result <$> reader) cursor = .ok (result a, behind) := by
  simp only [Functor.map, StateT.map, run, Bind.bind, Except.bind, Pure.pure, Except.pure]

end Monad

theorem skipSpaces_cons (spaced : Within isSpace spaces) (solid : isSpace c = false) :
    skipSpaces ⟨spaces ++ c :: more, seen⟩ = .ok (some c, ⟨c :: more, true⟩) := by
  have outside : OpensOutside isSpace (c :: more) := solid
  unfold skipSpaces
  dsimp only
  rw [Text.dropWhile_run spaced outside]
  rfl

/-- Behind spaces a reader goes on at the first other character. -/
theorem skipSpaces_bind (next : Option Char → Reader β) (spaced : Within isSpace spaces)
    (solid : isSpace c = false) :
    (skipSpaces >>= next) ⟨spaces ++ c :: more, seen⟩ = next (some c) ⟨c :: more, true⟩ :=
  bind_of_ok (skipSpaces_cons spaced solid)

theorem eat_bind (next : Unit → Reader β) :
    (eat >>= next) ⟨c :: more, seen⟩ = next () ⟨more, false⟩ :=
  rfl

theorem word_run (text : List Char) :
    word text ⟨text ++ rest, false⟩ = .ok ((), ⟨rest, false⟩) := by
  induction text with
  | nil => rfl
  | cons c text ih =>
    have taken : next ⟨c :: (text ++ rest), false⟩ = .ok (some c, ⟨text ++ rest, false⟩) := rfl
    unfold word
    rw [List.cons_append, bind_of_ok taken]
    simpa using ih

theorem word_bind (text : List Char) (next : Unit → Reader β) :
    (word text >>= next) ⟨text ++ rest, false⟩ = next () ⟨rest, false⟩ :=
  bind_of_ok (word_run text)

/-! ### Strings -/

theorem hexWord?_hexDigit {n : Nat} (small : n < 32) :
    hexWord? '0' '0' (hexDigit (n / 16)) (hexDigit (n % 16)) = some n := by
  have digit : ∀ k < 16, Text.hexValue? (hexDigit k) = some k := by decide
  have zero : Text.hexValue? '0' = some 0 := rfl
  unfold hexWord?
  rw [zero, digit (n / 16) (by omega), digit (n % 16) (by omega)]
  simp only [Option.bind_eq_bind, Option.bind_some, Option.pure_def, Option.some.injEq]
  omega

/-- A character is read from the way in which it is written. -/
theorem stringFrom_escapedChar (done : List Char) (c : Char) (rest : List Char) :
    stringFrom done (escapedChar c ++ rest) = stringFrom (c :: done) rest := by
  have self {n : Nat} (same : c.toNat = n) : c = Char.ofNat n := same ▸ (Char.ofNat_toNat c).symm
  unfold escapedChar
  split_ifs with quote backslash newline carriage tab backspace formFeed control
  · subst quote
    simp [stringFrom, shortEscape?]
  · subst backslash
    simp [stringFrom, shortEscape?]
  · subst newline
    simp [stringFrom, shortEscape?]
  · subst carriage
    simp [stringFrom, shortEscape?]
  · subst tab
    simp [stringFrom, shortEscape?]
  · rw [self backspace]
    simp [stringFrom, shortEscape?]
  · rw [self formFeed]
    simp [stringFrom, shortEscape?]
  · -- A number below 32 is no half of a surrogate pair, so one escape is all there is.
    have low : isLowSurrogate c.toNat = false := by
      simp only [isLowSurrogate, Bool.and_eq_false_iff, decide_eq_false_iff_not]
      omega
    have high : isHighSurrogate c.toNat = false := by
      simp only [isHighSurrogate, Bool.and_eq_false_iff, decide_eq_false_iff_not]
      omega
    simp [stringFrom, hexWord?_hexDigit control, low, high]
  · have visible : ¬ c < ' ' := fun before => control (UInt32.lt_iff_toNat_lt.mp before)
    simp [stringFrom, visible]

theorem stringFrom_flatMap (done text rest : List Char) :
    stringFrom done (text.flatMap escapedChar ++ '"' :: rest) =
      .ok (String.ofList (done.reverse ++ text), rest) := by
  induction text generalizing done with
  | nil => simp [stringFrom]
  | cons c text ih =>
    rw [List.flatMap_cons, List.append_assoc, stringFrom_escapedChar, ih]
    simp

theorem stringBody_run (s : String) :
    stringBody ⟨quoteBehind s ++ rest, seen⟩ = .ok (s, ⟨rest, false⟩) := by
  unfold stringBody quoteBehind
  dsimp only
  rw [List.append_assoc, List.singleton_append, stringFrom_flatMap]
  simp

/-! ### Numbers -/

/-- Whether a character can go on with a number. -/
def isNumeric (c : Char) : Bool := c.isDigit || c == '.' || c == 'e' || c == 'E'

theorem le_foldl_digits (digits : List Char) (value : Nat) :
    value ≤ digits.foldl (fun value c => 10 * value + (c.toNat - '0'.toNat)) value := by
  induction digits generalizing value with
  | nil => exact le_rfl
  | cons d digits ih =>
    have grows : value ≤ 10 * value + (d.toNat - '0'.toNat) := by omega
    exact grows.trans (ih _)

/-- Digits are all taken into a number that fits 64 bits. -/
theorem extend_of_le {digits : List Char} {value n : Nat}
    (reached : digits.foldl (fun value c => 10 * value + (c.toNat - '0'.toNat)) value = n)
    (fits : n ≤ maxWord) : extend value digits = (n, 0) := by
  induction digits generalizing value with
  | nil =>
    rw [← reached]
    rfl
  | cons d digits ih =>
    have small : 10 * value + (d.toNat - '0'.toNat) ≤ maxWord :=
      (le_foldl_digits digits _).trans (reached.trans_le fits)
    unfold extend
    dsimp only
    rw [if_neg (Nat.not_lt.mpr small)]
    exact ih reached

/-- The digits of a number that is not zero do not begin with a zero. -/
theorem exists_toDigits_eq_cons {n : Nat} (positive : n ≠ 0) :
    ∃ d digits, Nat.toDigits 10 n = d :: digits ∧ d ≠ '0' := by
  induction n using Nat.strongRecOn with
  | ind n ih =>
    rw [Nat.toDigits_eq_if (by decide)]
    split
    next small =>
      refine ⟨_, [], rfl, ?_⟩
      have nonzero : ∀ k < 10, k ≠ 0 → Nat.digitChar k ≠ '0' := by decide
      exact nonzero n small positive
    next large =>
      obtain ⟨d, digits, opens, nonzero⟩ := ih (n / 10) (by omega) (by omega)
      exact ⟨d, digits ++ [(n % 10).digitChar], by rw [opens]; rfl, nonzero⟩

theorem afterWhole_run {n : Nat} (negative seen : Bool) (fits : n ≤ maxWord)
    (ended : OpensOutside isNumeric rest) :
    afterWhole negative (Nat.toDigits 10 n) ⟨rest, seen⟩ =
      wholeOrReal negative n ⟨rest, true⟩ := by
  have whole : extend 0 (Nat.toDigits 10 n) = (n, 0) :=
    extend_of_le (Text.natOfDigits_toDigits n) fits
  have looked : peek ⟨rest, seen⟩ = .ok (rest.head?, ⟨rest, true⟩) := rfl
  unfold afterWhole
  simp only [whole]
  rw [bind_of_ok looked]
  cases rest with
  | nil => rfl
  | cons c rest =>
    have none_of : ¬ (c = '.' ∨ c = 'e' ∨ c = 'E') := by
      rintro (rfl | rfl | rfl)
      all_goals contradiction
    simp only [not_or] at none_of
    simp [none_of]

theorem number_run {n : Nat} (negative : Bool) (fits : n ≤ maxWord)
    (ended : OpensOutside isNumeric rest) :
    number negative ⟨Nat.toDigits 10 n ++ rest, seen⟩ = wholeOrReal negative n ⟨rest, true⟩ := by
  have undigit : OpensOutside Char.isDigit rest := by
    cases rest with
    | nil => trivial
    | cons c rest =>
      have outside : isNumeric c = false := ended
      simp only [isNumeric, Bool.or_eq_false_iff] at outside
      exact outside.1.1.1
  have decimal : Within Char.isDigit (Nat.toDigits 10 n) := Text.within_toDigits n
  -- A zero is scanned on its own, since no digit may follow it; any other number as a whole.
  by_cases zero : n = 0
  · subst zero
    have taken : next ⟨'0' :: rest, seen⟩ = .ok (some '0', ⟨rest, false⟩) := rfl
    have looked : peek ⟨rest, false⟩ = .ok (rest.head?, ⟨rest, true⟩) := rfl
    show number negative ⟨'0' :: rest, seen⟩ = _
    rw [← afterWhole_run negative true fits ended]
    unfold number
    rw [bind_of_ok taken]
    refine (bind_of_ok looked).trans ?_
    cases rest with
    | nil => rfl
    | cons c rest =>
      have outside : c.isDigit = false := undigit
      simp only [List.head?_cons, outside, Bool.false_eq_true, if_false]
      rfl
  · obtain ⟨d, digits', written, nonzero⟩ := exists_toDigits_eq_cons zero
    rw [written] at decimal
    obtain ⟨digit, others⟩ := List.forall_mem_cons.mp decimal
    have taken : next ⟨d :: (digits' ++ rest), seen⟩ = .ok (some d, ⟨digits' ++ rest, false⟩) := rfl
    have run : digits ⟨digits' ++ rest, false⟩ = .ok (digits', ⟨rest, true⟩) := by
      unfold digits
      dsimp only
      rw [Text.takeWhile_run others undigit, Text.dropWhile_run others undigit]
    rw [← afterWhole_run negative true fits ended, written]
    unfold number
    rw [List.cons_append, bind_of_ok taken]
    simp only [digit, if_true]
    rw [bind_of_ok run]

end Reader

end ChatCommand.Json
