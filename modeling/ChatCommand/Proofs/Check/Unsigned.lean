import ChatCommand.Check.Unsigned
import ChatCommand.Proofs.Text.Run
import Mathlib

/-!
# Numbers as digits and as JSON numbers

A number of 32 or 64 bits that is written in decimal digits is read exactly, however many zeros
stand in front and however long the text is; a text is refused when its number is too large, when it
is empty, or when anything but ASCII digits occurs in it. Where a number is allowed as well, it is
read as the very value that it has, so a number and its digits come out as the same word.

## Main definitions

- `Text.IsDecimal`, `Text.decimalValue`: texts of ASCII digits and what they write.
- `Json.Number.value`: the exact value of a JSON number.
- `Check.LawfulWord`: words are the numbers up to a greatest one.
- `Check.ReadsDecimals`: digits and numbers are read exactly and alike.

## Main results

- `Check.ofDecimalString_eq_ok_iff`, `Check.run_unsignedNumber_eq_ok_iff`: what is read as a word.
- `Check.readsDecimals_words`: words of 32 and 64 bits.
-/

namespace ChatCommand

namespace Text

/-- The text consists of one or more ASCII digits. -/
structure IsDecimal (text : List Char) : Prop where
  filled : text ≠ []
  digits : Within Char.isDigit text

/-- The number that decimal digits write, the last digit counting ones. -/
def decimalValue (text : List Char) : Nat :=
  Nat.ofDigits 10 (text.reverse.map fun c => c.toNat - '0'.toNat)

theorem natOfDigits_eq_decimalValue (text : List Char) : natOfDigits text = decimalValue text := by
  induction text using List.reverseRecOn with
  | nil => rfl
  | append_singleton text c ih =>
    rw [natOfDigits_concat, ih]
    simp [decimalValue, Nat.ofDigits_cons, Nat.add_comm]

/-- ASCII digits are digits of a script. -/
theorem isDigits_of_isDecimal {text : List Char} (decimal : IsDecimal text) :
    Check.isDigits text = true := by
  simp only [Check.isDigits, Bool.and_eq_true, List.all_eq_true]
  exact ⟨by simpa using decimal.filled,
    fun c member => isDecimalDigit_of_isDigit (decimal.digits c member)⟩

end Text

/-- The exact value. -/
def Binary64.value (x : Binary64) : ℚ := x.units / unitsPerOne

theorem Binary64.value_eq_intCast_iff {x : Binary64} {n : Int} :
    x.value = n ↔ x.units = n * unitsPerOne := by
  have positive : (unitsPerOne : ℚ) ≠ 0 := Nat.cast_ne_zero.mpr unitsPerOne_pos.ne'
  rw [value, div_eq_iff positive]
  exact_mod_cast Iff.rfl

/-- The exact value. -/
def Json.Number.value : Json.Number → ℚ
  | .whole n => n
  | .real x => x.value

namespace Check

/-- The words of a type are the numbers from zero to a greatest one, which is below the size from
which on no number is read as a whole one. -/
class LawfulWord (α : Type) [UnsignedWord α] where
  toNat : α → Nat
  ofNat?_eq_some_iff {n : Nat} {word : α} : UnsignedWord.ofNat? n = some word ↔ toNat word = n
  exists_iff {n : Nat} : (∃ word : α, toNat word = n) ↔ n ≤ UnsignedWord.max α
  max_lt : UnsignedWord.max α < wholeLimit

/-- Words that are made of the numbers below a size, and stand for these. -/
@[reducible]
def LawfulWord.ofSize {α : Type} [UnsignedWord α] (size : Nat) (toNat : α → Nat)
    (ofNatLT : ∀ n, n < size → α) (size_eq : size = UnsignedWord.max α + 1)
    (ofNat?_eq : ∀ n, UnsignedWord.ofNat? n =
      if small : n < size then some (ofNatLT n small) else none)
    (toNat_lt : ∀ word, toNat word < size) (toNat_injective : toNat.Injective)
    (toNat_ofNatLT : ∀ n small, toNat (ofNatLT n small) = n)
    (max_lt : UnsignedWord.max α < wholeLimit) : LawfulWord α where
  toNat := toNat
  ofNat?_eq_some_iff {n word} := by
    rw [ofNat?_eq]
    split
    next small => rw [Option.some_inj, ← toNat_injective.eq_iff, toNat_ofNatLT, eq_comm]
    next large =>
      have := toNat_lt word
      grind
  exists_iff {n} := by
    rw [← Nat.lt_succ_iff, Nat.succ_eq_add_one, ← size_eq]
    constructor
    · rintro ⟨word, rfl⟩
      exact toNat_lt word
    · intro small
      exact ⟨ofNatLT n small, toNat_ofNatLT n small⟩
  max_lt := max_lt

instance : LawfulWord UInt32 :=
  .ofSize UInt32.size UInt32.toNat UInt32.ofNatLT rfl (fun _ => rfl) UInt32.toNat_lt_size
    (fun _ _ => UInt32.toNat_inj.mp) (fun _ _ => UInt32.toNat_ofNatLT) (by decide)

instance : LawfulWord UInt64 :=
  .ofSize UInt64.size UInt64.toNat UInt64.ofNatLT rfl (fun _ => rfl) UInt64.toNat_lt_size
    (fun _ _ => UInt64.toNat_inj.mp) (fun _ _ => UInt64.toNat_ofNatLT) (by decide)

theorem run_unsignedNumber {α : Type} [UnsignedWord α] (name : String) (x : Json.Number) :
    (unsignedNumber α name).run (some (.number x)) = wholeNumber x >>= ofWhole α name := by
  unfold unsignedNumber
  rw [run_ofTransform]

theorem run_unsignedLike_number {α : Type} [UnsignedWord α] (name : String) (numeric : Check α)
    (x : Json.Number) :
    (unsignedLike α name numeric).run (some (.number x)) = numeric.run (some (.number x)) := by
  unfold unsignedLike
  rw [run_ofTransform]

section Words

variable {α : Type} [UnsignedWord α] [LawfulWord α] {word : α}

open LawfulWord (toNat)

/-! ### Digits -/

theorem wideOfDigits?_eq_some_iff {text : List Char} {n : Nat} :
    wideOfDigits? text = some n ↔
      Text.Within Char.isDigit text ∧ Text.decimalValue text = n ∧ n ≤ maxWide := by
  unfold wideOfDigits?
  rw [Text.natOfDigits_eq_decimalValue]
  by_cases digits : text.all Char.isDigit = true
  · have within : Text.Within Char.isDigit text := List.all_eq_true.mp digits
    rw [if_pos digits]
    grind
  · have apart : ¬ Text.Within Char.isDigit text := fun within =>
      digits (List.all_eq_true.mpr within)
    rw [if_neg digits]
    grind

/-- A decimal string is read as a word when it consists of ASCII digits and the word is the number
that these write. -/
theorem ofDecimalString_eq_ok_iff {s : String} :
    ofDecimalString α s = .ok word ↔
      Text.IsDecimal s.toList ∧ toNat word = Text.decimalValue s.toList := by
  have steps : ofDecimalString α s = .ok word ↔ isDigits s.toList = true ∧ ∃ n,
      wideOfDigits? s.toList = some n ∧ n ≤ UnsignedWord.max α ∧
        UnsignedWord.ofNat? n = some word := by
    unfold ofDecimalString
    grind
  rw [steps]
  constructor
  · rintro ⟨digits, n, read, -, same⟩
    obtain ⟨within, rfl, -⟩ := wideOfDigits?_eq_some_iff.mp read
    have filled : s.toList ≠ [] := by
      rintro empty
      simp [isDigits, empty] at digits
    exact ⟨⟨filled, within⟩, LawfulWord.ofNat?_eq_some_iff.mp same⟩
  · rintro ⟨decimal, same⟩
    -- The number is that of a word, so it is not too large anywhere on the way.
    have small : toNat word ≤ UnsignedWord.max α := LawfulWord.exists_iff.mp ⟨word, rfl⟩
    have wide : toNat word ≤ maxWide :=
      small.trans (LawfulWord.max_lt.le.trans (by decide : wholeLimit ≤ maxWide))
    exact ⟨Text.isDigits_of_isDecimal decimal, toNat word,
      wideOfDigits?_eq_some_iff.mpr ⟨decimal.digits, same.symm, wide⟩, small,
      LawfulWord.ofNat?_eq_some_iff.mpr rfl⟩

theorem run_unsignedString_eq_ok_iff {name s : String} :
    (unsignedString α name).run (some (.text s)) = .ok word ↔
      Text.IsDecimal s.toList ∧ toNat word = Text.decimalValue s.toList := by
  have same : string.run (some (.text s)) = .ok s := rfl
  unfold unsignedString
  rw [run_convert_eq_ok_iff, same, ← ofDecimalString_eq_ok_iff]
  simp

/-! ### JSON numbers -/

theorem wholeNumber_real_eq_ok_iff {x : Binary64} {n : Int} :
    wholeNumber (.real x) = .ok n ↔ x.value = n ∧ n.natAbs < wholeLimit := by
  rw [Binary64.value_eq_intCast_iff, ← Binary64.whole?_eq_some_iff]
  unfold wholeNumber wholeNumber.refuse
  grind

theorem ofWhole_eq_ok_iff {name : String} {n : Int} :
    ofWhole α name n = .ok word ↔ n = toNat word := by
  have steps : ofWhole α name n = .ok word ↔
      (0 ≤ n ∧ n ≤ (UnsignedWord.max α : Int)) ∧ UnsignedWord.ofNat? n.toNat = some word := by
    unfold ofWhole
    grind
  have small : toNat word ≤ UnsignedWord.max α := LawfulWord.exists_iff.mp ⟨word, rfl⟩
  rw [steps, LawfulWord.ofNat?_eq_some_iff]
  omega

/-- A JSON number is read as a word when it is exactly the number of this word. -/
theorem run_unsignedNumber_eq_ok_iff {name : String} {x : Json.Number} :
    (unsignedNumber α name).run (some (.number x)) = .ok word ↔ x.value = toNat word := by
  rw [run_unsignedNumber]
  have steps : (wholeNumber x >>= ofWhole α name) = .ok word ↔
      ∃ n : Int, wholeNumber x = .ok n ∧ n = toNat word := by
    cases wholeNumber x with
    | error failure => simp [Bind.bind, Except.bind]
    | ok n => simp [Bind.bind, Except.bind, ofWhole_eq_ok_iff]
  rw [steps, exists_eq_right]
  cases x with
  | whole n =>
    show Except.ok n = Except.ok (toNat word : Int) ↔ (n : ℚ) = toNat word
    rw [Except.ok.injEq]
    exact_mod_cast Iff.rfl
  | real x =>
    rw [wholeNumber_real_eq_ok_iff]
    -- A number as large as that is larger than every word.
    have small : toNat word < wholeLimit :=
      (LawfulWord.exists_iff.mp ⟨word, rfl⟩).trans_lt LawfulWord.max_lt
    simp [Json.Number.value, small]

/-! ### Digits or JSON numbers -/

/-- Beside a check that accepts no text, the digits of a word are accepted. -/
theorem run_unsignedLike_text_eq_ok_iff {name s : String} {numeric : Check α}
    (numbersOnly : numeric.run (some (.text s)) ≠ .ok word) :
    (unsignedLike α name numeric).run (some (.text s)) = .ok word ↔
      Text.IsDecimal s.toList ∧ toNat word = Text.decimalValue s.toList := by
  rw [← ofDecimalString_eq_ok_iff]
  unfold unsignedLike
  rw [run_ofTransform]
  dsimp only
  split
  next digits => cases ofDecimalString α s <;> simp
  next others =>
    have unread : ofDecimalString α s ≠ .ok word := fun read =>
      others (Text.isDigits_of_isDecimal (ofDecimalString_eq_ok_iff.mp read).1)
    exact iff_of_false numbersOnly unread

/-- Digits and numbers are read exactly and alike: `text` accepts the decimal strings of the numbers
up to a greatest one and yields these numbers, `like` accepts the same strings and, beside them, the
same numbers as `number`. -/
structure ReadsDecimals (max : Nat) (toNat : α → Nat) (text like number : Check α) : Prop where
  accepts_iff : ∀ s, (∃ word, text.run (some (.text s)) = .ok word) ↔
    Text.IsDecimal s.toList ∧ Text.decimalValue s.toList ≤ max
  value_eq : ∀ s word, text.run (some (.text s)) = .ok word →
    toNat word = Text.decimalValue s.toList
  like_text : ∀ s word, like.run (some (.text s)) = .ok word ↔
    text.run (some (.text s)) = .ok word
  like_number : ∀ x, like.run (some (.number x)) = number.run (some (.number x))
  like_spelling : ∀ (x : Json.Number) s, Text.IsDecimal s.toList →
    x.value = Text.decimalValue s.toList → ∀ word,
      like.run (some (.number x)) = .ok word ↔ like.run (some (.text s)) = .ok word

theorem readsDecimals_unsigned (α : Type) [UnsignedWord α] [LawfulWord α]
    (text like inner : String) :
    ReadsDecimals (UnsignedWord.max α) toNat (unsignedString α text)
      (unsignedLike α like (unsignedNumber α inner)) (unsignedNumber α inner) := by
  have digits (s : String) (word : α) :
      (unsignedLike α like (unsignedNumber α inner)).run (some (.text s)) = .ok word ↔
        Text.IsDecimal s.toList ∧ toNat word = Text.decimalValue s.toList :=
    run_unsignedLike_text_eq_ok_iff nofun
  constructor
  case accepts_iff =>
    intro s
    simp only [run_unsignedString_eq_ok_iff, exists_and_left, LawfulWord.exists_iff]
  case value_eq =>
    intro s word read
    exact (run_unsignedString_eq_ok_iff.mp read).2
  case like_text =>
    intro s word
    rw [digits, run_unsignedString_eq_ok_iff]
  case like_number => exact run_unsignedLike_number like (unsignedNumber α inner)
  case like_spelling =>
    intro x s decimal same word
    rw [digits, run_unsignedLike_number, run_unsignedNumber_eq_ok_iff, same, Nat.cast_inj, eq_comm]
    exact (and_iff_right decimal).symm

end Words

/-- Words of 32 and of 64 bits are read exactly from decimal strings of any length, and a number and
its digits are read alike. -/
theorem readsDecimals_words :
    ReadsDecimals (2 ^ 32 - 1) UInt32.toNat uint4String uint4Like uint4Number ∧
    ReadsDecimals (2 ^ 64 - 1) UInt64.toNat uint8String uint8Like uint8Number :=
  ⟨readsDecimals_unsigned UInt32 _ _ _, readsDecimals_unsigned UInt64 _ _ _⟩

end Check

end ChatCommand
