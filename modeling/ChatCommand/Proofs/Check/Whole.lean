import ChatCommand.Proofs.Check.Unsigned

/-!
# JSON numbers as whole numbers

Whether a JSON number is held as a whole one or in binary64, it is read as the very number that it
is, or not at all: nothing is rounded, wrapped around or cut off at a bound on the way.

## Main definitions

- `Binary64.IsNearest`: a number as the one that a rational is rounded to.
- `Json.Number.Fits`, `Json.Number.IsWhole`, `Json.Number.InReach`: JSON numbers by their value.
- `Check.ReadsExactly`, `Check.ReadsWords`: checks that read JSON numbers exactly.

## Main results

- `Binary64.isNearest_wholeBound`: the bound of what is read from binary64.
- `Check.readsExactly_numbers`: whole numbers of any sign, and words of 32 and 64 bits.
-/

namespace ChatCommand

namespace Binary64

/-- Every other value of binary64 is farther from the rational. -/
def IsNearest (x : Binary64) (q : ℚ) : Prop :=
  ∀ y : Binary64, y.value ≠ x.value → |x.value - q| < |y.value - q|

/-- The value is what sign, mantissa and exponent say. -/
theorem value_eq (x : Binary64) :
    x.value = (if x.negative then -1 else 1) * (x.mantissa * 2 ^ x.exponent) := by
  have least : -1074 ≤ x.exponent := x.canonical.2.1
  have shift : ((x.exponent + places).toNat : ℤ) = x.exponent + places :=
    Int.toNat_of_nonneg (by unfold places; omega)
  unfold value units unitsPerOne
  -- How many places there are does not matter, and so large a power must not be computed.
  generalize places = p at shift ⊢
  have size : ((x.mantissa * Nat.pow 2 (x.exponent + p).toNat : ℕ) : ℚ) =
      x.mantissa * 2 ^ x.exponent * (Nat.pow 2 p : ℕ) := by
    rw [Nat.pow_eq, Nat.pow_eq, Nat.cast_mul, Nat.cast_pow, Nat.cast_pow, Nat.cast_ofNat,
      ← zpow_natCast, shift, zpow_add₀ two_ne_zero, zpow_natCast, mul_assoc]
  rw [div_eq_iff (Nat.cast_ne_zero.mpr (Nat.two_pow_pos p).ne'), mul_assoc, ← size]
  cases x.negative <;> simp

theorem abs_value (x : Binary64) : |x.value| = x.mantissa * 2 ^ x.exponent := by
  rw [value_eq, abs_mul, abs_of_nonneg (by positivity : (0 : ℚ) ≤ x.mantissa * 2 ^ x.exponent)]
  cases x.negative <;> simp

/-- All numbers that are not small lie on a grid, which is as fine as 53 bits can tell apart. -/
theorem value_grid (x : Binary64) (k : ℕ) :
    (∃ a : ℤ, x.value = a * 2 ^ k) ∨ |x.value| < 2 ^ (52 + k) := by
  by_cases coarse : (k : ℤ) ≤ x.exponent
  · left
    obtain ⟨j, exponent⟩ := Int.le.dest coarse
    refine ⟨(if x.negative then -1 else 1) * (x.mantissa * 2 ^ j), ?_⟩
    rw [value_eq, ← exponent, zpow_add₀ two_ne_zero, zpow_natCast, zpow_natCast]
    cases x.negative <;> push_cast <;> ring
  · right
    have bits : (x.mantissa : ℚ) < 2 ^ 53 := by exact_mod_cast x.canonical.1
    have fine : (2 : ℚ) ^ x.exponent ≤ 2 ^ ((k : ℤ) - 1) :=
      zpow_le_zpow_right₀ one_le_two (by omega)
    calc |x.value| = x.mantissa * 2 ^ x.exponent := abs_value x
      _ < 2 ^ 53 * 2 ^ x.exponent := by gcongr
      _ ≤ 2 ^ 53 * 2 ^ ((k : ℤ) - 1) := by gcongr
      _ = 2 ^ (52 + k) := by
        rw [zpow_sub₀ two_ne_zero, zpow_natCast, pow_add]
        ring

/-- The number below whose size whole numbers are read. -/
def wholeBound : Binary64 := ⟨false, 8999725064576941, 74, by decide⟩

theorem value_wholeBound : wholeBound.value = Check.wholeLimit := by
  rw [value_eq]
  norm_num [wholeBound, Check.wholeLimit]

/-- The bound is what 1.7e38 is rounded to. -/
theorem isNearest_wholeBound : wholeBound.IsNearest (17 * 10 ^ 37) := by
  intro y different
  rw [value_wholeBound] at different ⊢
  have error : |(Check.wholeLimit : ℚ) - 17 * 10 ^ 37| = 1938076706976884064256 := by
    norm_num [Check.wholeLimit, abs_of_neg]
  rw [error, lt_abs]
  rcases y.value_grid 74 with ⟨a, onGrid⟩ | small
  · -- The points of the grid are farther apart than twice the error of the bound.
    have other : a ≠ 8999725064576941 := by
      rintro rfl
      exact different (onGrid.trans (by norm_num [Check.wholeLimit]))
    rw [onGrid]
    rcases lt_or_gt_of_ne other with below | above
    · right
      have : (a : ℚ) ≤ 8999725064576940 := by exact_mod_cast Int.le_sub_one_of_lt below
      linarith
    · left
      have : (8999725064576942 : ℚ) ≤ a := by exact_mod_cast above
      linarith
  · right
    have := (le_abs_self y.value).trans_lt small
    norm_num at this
    linarith

theorem abs_value_lt_wholeBound_iff {x : Binary64} {n : ℤ} (same : x.value = n) :
    |x.value| < wholeBound.value ↔ n.natAbs < Check.wholeLimit := by
  rw [same, value_wholeBound, ← Int.cast_abs, Int.abs_eq_natAbs]
  exact_mod_cast Iff.rfl

end Binary64

namespace Json.Number

/-- A number as it is held: in 64 bits, with or without a sign, or in binary64. -/
def Fits : Json.Number → Prop
  | .whole n => -(2 ^ 63) ≤ n ∧ n < 2 ^ 64
  | .real _ => True

/-- The value is a whole number. -/
def IsWhole (x : Json.Number) : Prop := ∃ n : ℤ, x.value = n

/-- A whole number of 64 bits, or a number in binary64 whose size is below the bound. -/
def InReach : Json.Number → Prop
  | .whole n => -(2 ^ 63) ≤ n ∧ n < 2 ^ 64
  | .real x => |x.value| < Binary64.wholeBound.value

end Json.Number

namespace Check

/-! ### Whole numbers of any sign -/

theorem wholeNumber_eq_ok_iff {x : Json.Number} (fits : x.Fits) {n : ℤ} :
    wholeNumber x = .ok n ↔ x.value = n ∧ x.InReach := by
  cases x with
  | whole m =>
    have same : wholeNumber (.whole m) = .ok n ↔ m = n := by simp [wholeNumber]
    rw [same, Json.Number.value, Int.cast_inj]
    exact (and_iff_left fits).symm
  | real x =>
    rw [wholeNumber_real_eq_ok_iff]
    exact and_congr_right fun same => (Binary64.abs_value_lt_wholeBound_iff same).symm

theorem run_integer (x : Json.Number) : integer.run (some (.number x)) = wholeNumber x := by
  unfold integer
  rw [run_ofTransform]

/-- A whole number that is read has room in 128 bits with a sign. -/
theorem bounds_of_wholeNumber {x : Json.Number} (fits : x.Fits) {n : ℤ}
    (read : wholeNumber x = .ok n) : -(2 ^ 127) ≤ n ∧ n < 2 ^ 127 := by
  cases x with
  | whole m =>
    obtain rfl : m = n := Except.ok.inj read
    obtain ⟨low, high⟩ := fits
    omega
  | real x =>
    have small := (wholeNumber_real_eq_ok_iff.mp read).2
    unfold wholeLimit at small
    omega

/-! ### Words -/

section Words

variable {α : Type} [UnsignedWord α] [LawfulWord α]

open LawfulWord (toNat)

/-- The whole numbers that words stand for. -/
theorem exists_toNat_eq_iff {n : ℤ} :
    (∃ word : α, (toNat word : ℤ) = n) ↔ 0 ≤ n ∧ n ≤ UnsignedWord.max α := by
  constructor
  · rintro ⟨word, rfl⟩
    exact ⟨Nat.cast_nonneg _, Nat.cast_le.mpr (LawfulWord.exists_iff.mp ⟨word, rfl⟩)⟩
  · rintro ⟨low, high⟩
    obtain ⟨word, own⟩ := (LawfulWord.exists_iff (α := α)).mpr (Int.toNat_le.mpr high)
    exact ⟨word, by omega⟩

/-- A number within the bounds of the words is never refused, and one outside of them is refused
for just that reason. -/
theorem ofWhole_eq_error_iff {name : String} {n : ℤ} {failure : Failure} :
    ofWhole α name n = .error failure ↔ ¬ (0 ≤ n ∧ n ≤ UnsignedWord.max α) ∧
      failure = .invalidValue
        (toString n ++ " is outside the range 0 to " ++ toString (UnsignedWord.max α)) := by
  by_cases inside : 0 ≤ n ∧ n ≤ UnsignedWord.max α
  · obtain ⟨word, same⟩ := exists_toNat_eq_iff.mpr inside
    have accepted : ofWhole α name n = .ok word := ofWhole_eq_ok_iff.mpr same.symm
    simp [accepted, inside]
  · unfold ofWhole
    rw [if_neg inside]
    simp [inside, eq_comm]

/-- The JSON numbers that are read as words are the whole numbers within the bounds. -/
theorem exists_value_eq_toNat_iff {x : Json.Number} :
    (∃ word : α, x.value = toNat word) ↔
      x.IsWhole ∧ 0 ≤ x.value ∧ x.value ≤ UnsignedWord.max α := by
  constructor
  · rintro ⟨word, same⟩
    have bounds := exists_toNat_eq_iff.mp ⟨word, rfl⟩
    rw [same]
    exact ⟨⟨toNat word, same⟩, by exact_mod_cast bounds⟩
  · rintro ⟨⟨n, same⟩, bounds⟩
    rw [same] at bounds ⊢
    obtain ⟨word, own⟩ := exists_toNat_eq_iff.mpr (by exact_mod_cast bounds)
    exact ⟨word, by exact_mod_cast own.symm⟩

end Words

/-- The check reads a JSON number as the very number that it is, and it accepts the whole numbers
within its reach. -/
structure ReadsExactly {α : Type} (reach : Json.Number → Prop) (value : α → ℤ) (check : Check α) :
    Prop where
  accepts_iff : ∀ x : Json.Number, x.Fits →
    ((∃ a, check.run (some (.number x)) = .ok a) ↔ x.IsWhole ∧ reach x)
  value_eq : ∀ (x : Json.Number) a, check.run (some (.number x)) = .ok a → x.value = value a

/-- The check reads the numbers from zero to `max` exactly as words. Each of them has a word, and a
number is refused only because it is no whole number or because it is out of range. -/
structure ReadsWords {α : Type} [UnsignedWord α] (max : ℕ) (toNat : α → ℕ) (check : Check α) : Prop
    extends ReadsExactly (fun x => 0 ≤ x.value ∧ x.value ≤ max) (fun word => toNat word) check where
  narrows : ∀ n : ℤ, 0 ≤ n → n ≤ max →
    ∃ word : α, UnsignedWord.ofNat? n.toNat = some word ∧ toNat word = n
  refusal : ∀ (x : Json.Number) failure, check.run (some (.number x)) = .error failure →
    wholeNumber x = .error failure ∨ ∃ n : ℤ, wholeNumber x = .ok n ∧ ¬ (0 ≤ n ∧ n ≤ max) ∧
      failure = .invalidValue (toString n ++ " is outside the range 0 to " ++ toString max)

theorem readsExactly_integer : ReadsExactly Json.Number.InReach id integer where
  accepts_iff x fits := by
    simp only [run_integer, wholeNumber_eq_ok_iff fits, exists_and_right]
    rfl
  value_eq x n accepted := by
    rw [run_integer] at accepted
    cases x with
    | whole m => exact congrArg Int.cast (Except.ok.inj accepted)
    | real x => exact (wholeNumber_real_eq_ok_iff.mp accepted).1

theorem readsWords_unsigned (α : Type) [UnsignedWord α] [LawfulWord α] (name : String) :
    ReadsWords (UnsignedWord.max α) LawfulWord.toNat (unsignedNumber α name) where
  accepts_iff x _ := by
    simp only [run_unsignedNumber_eq_ok_iff]
    exact exists_value_eq_toNat_iff
  value_eq x word accepted := run_unsignedNumber_eq_ok_iff.mp accepted
  narrows n low high := by
    obtain ⟨word, same⟩ := exists_toNat_eq_iff.mpr ⟨low, high⟩
    exact ⟨word, LawfulWord.ofNat?_eq_some_iff.mpr (by omega), same⟩
  refusal x failure refused := by
    rw [run_unsignedNumber] at refused
    cases read : wholeNumber x with
    | error own =>
      rw [read] at refused
      obtain rfl : own = failure := Except.error.inj refused
      exact .inl rfl
    | ok n =>
      rw [read] at refused
      exact .inr ⟨n, rfl, ofWhole_eq_error_iff.mp refused⟩

/-- A JSON number is read as the whole number that it is, of any sign when it has 64 bits or lies
below the bound of binary64, and as a word when it lies in the range of the words. What is read fits
128 bits, and a number in range always has a word. -/
theorem readsExactly_numbers :
    Binary64.wholeBound.IsNearest (17 * 10 ^ 37) ∧
    ReadsExactly Json.Number.InReach id integer ∧
    (∀ (x : Json.Number) n, x.Fits → integer.run (some (.number x)) = .ok n →
      -(2 ^ 127) ≤ n ∧ n < 2 ^ 127) ∧
    ReadsWords (2 ^ 32 - 1) UInt32.toNat uint4Number ∧
    ReadsWords (2 ^ 64 - 1) UInt64.toNat uint8Number :=
  ⟨Binary64.isNearest_wholeBound, readsExactly_integer,
    fun x _ fits read => bounds_of_wholeNumber fits (run_integer x ▸ read),
    readsWords_unsigned UInt32 _, readsWords_unsigned UInt64 _⟩

end Check

end ChatCommand
