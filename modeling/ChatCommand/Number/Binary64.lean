/-!
# Finite binary64 numbers

A number with a fraction or an exponent is held as a sign, a whole mantissa and a power of
two, so that its value is exact and every comparison is one of whole numbers.

## Main definitions

- `Binary64`: a finite binary64 number.
- `Binary64.units`: its value, counted in the smallest positive binary64 number.
- `Binary64.ofRatio?`: the number nearest to a ratio, a tie going to the even mantissa.
- `Binary64.ofDecimal?`: the number that decimal digits and a power of ten are read as.
-/

namespace ChatCommand

/-- A mantissa and an exponent that binary64 stores: all 53 bits are used unless the exponent
is the least one. -/
def Binary64.Canonical (mantissa : Nat) (exponent : Int) : Prop :=
  mantissa < Nat.pow 2 53 ∧ -1074 ≤ exponent ∧ exponent ≤ 971 ∧
    (Nat.pow 2 52 ≤ mantissa ∨ exponent = -1074)

instance (mantissa : Nat) (exponent : Int) : Decidable (Binary64.Canonical mantissa exponent) :=
  inferInstanceAs (Decidable (_ ∧ _ ∧ _ ∧ _))

/-- The finite number `mantissa * 2 ^ exponent`, or its negative. -/
structure Binary64 where
  negative : Bool
  mantissa : Nat
  exponent : Int
  canonical : Binary64.Canonical mantissa exponent
  deriving DecidableEq, Repr

namespace Binary64

/-- Zero of either sign. -/
def zero (negative : Bool) : Binary64 := ⟨negative, 0, -1074, by decide⟩

instance : Inhabited Binary64 := ⟨zero false⟩

/-- The number of binary places of the smallest positive number. -/
def places : Nat := 1074

/-- The value in units of `2 ^ -1074`, of which every finite number is a whole multiple. -/
def units (x : Binary64) : Int :=
  let size := x.mantissa * Nat.pow 2 (x.exponent + places).toNat
  if x.negative then -size else size

/-- The number of units that make one. -/
def unitsPerOne : Nat := Nat.pow 2 places

theorem unitsPerOne_pos : 0 < unitsPerOne := by
  have positive (n : Nat) : 0 < Nat.pow 2 n := Nat.two_pow_pos n
  unfold unitsPerOne
  exact positive places

@[simp]
theorem units_zero (negative : Bool) : (zero negative).units = 0 := by
  cases negative <;> simp [units, zero]

/-- Whether two numbers have one value; the two zeros do. -/
def same (x y : Binary64) : Bool := x.units == y.units

/-- Whether a number is at most another. -/
def le (x y : Binary64) : Bool := decide (x.units ≤ y.units)

/-- Whether a number is below another. -/
def lt (x y : Binary64) : Bool := decide (x.units < y.units)

/-- The whole number that `x` is, if it is one. -/
def whole? (x : Binary64) : Option Int :=
  if x.units % unitsPerOne = 0 then some (x.units / unitsPerOne) else none

theorem whole?_eq_some_iff {x : Binary64} {n : Int} :
    x.whole? = some n ↔ x.units = n * unitsPerOne := by
  have positive : (unitsPerOne : Int) ≠ 0 :=
    Int.ofNat_ne_zero.mpr (Nat.ne_of_gt unitsPerOne_pos)
  unfold whole?
  split
  next divides =>
    constructor
    · intro h
      rw [← Option.some.inj h]
      exact (Int.ediv_mul_cancel (Int.dvd_of_emod_eq_zero divides)).symm
    · intro h
      rw [h, Int.mul_ediv_cancel _ positive]
  next odd =>
    constructor
    · intro h
      cases h
    · intro h
      exact absurd (by rw [h]; exact Int.mul_emod_left n unitsPerOne) odd

/-! ### Rounding -/

/-- A quotient rounded to the nearest whole number, a tie going to the even one. -/
def roundHalfEven (num den : Nat) : Nat :=
  let quotient := num / den
  let twice := 2 * (num % den)
  if twice < den then quotient
  else if den < twice then quotient + 1
  else quotient + quotient % 2

/-- A ratio `num / den` measured in `2 ^ exponent`, as a ratio again. -/
def rescale (num den : Nat) (exponent : Int) : Nat × Nat :=
  if 0 ≤ exponent then (num, den * Nat.pow 2 exponent.toNat)
  else (num * Nat.pow 2 (-exponent).toNat, den)

/-- The exponent at which a positive ratio has 53 bits before the point, or the least one. -/
def gridExponent (num den : Nat) : Int :=
  -- The binary logarithms give the exponent or one more than it.
  let guess : Int := (num.log2 : Int) - den.log2 - 52
  let scaled := rescale num den guess
  let exponent := if scaled.1 / scaled.2 < Nat.pow 2 52 then guess - 1 else guess
  max exponent (-1074)

/-- The number nearest to `num / den`, with the given sign; none when it is too large. -/
def ofRatio? (negative : Bool) (num den : Nat) : Option Binary64 :=
  if num = 0 then some (zero negative)
  else
    let exponent := gridExponent num den
    let scaled := rescale num den exponent
    let rounded := roundHalfEven scaled.1 scaled.2
    -- Rounding up to the next power of two leaves one bit too many.
    let carried :=
      if rounded = Nat.pow 2 53 then (Nat.pow 2 52, exponent + 1) else (rounded, exponent)
    if canonical : Canonical carried.1 carried.2 then
      some ⟨negative, carried.1, carried.2, canonical⟩
    else none

/-- The number nearest to a ratio times a power of two. -/
def ofScaledRatio? (negative : Bool) (num den : Nat) (exponent : Int) : Option Binary64 :=
  let scaled := rescale num den (-exponent)
  ofRatio? negative scaled.1 scaled.2

/-- The number nearest to a whole number. -/
def ofInt? (n : Int) : Option Binary64 := ofRatio? (decide (n < 0)) n.natAbs 1

/-- The rounded product of two numbers. -/
def mul? (x y : Binary64) : Option Binary64 :=
  ofScaledRatio? (x.negative != y.negative) (x.mantissa * y.mantissa) 1 (x.exponent + y.exponent)

/-- The rounded quotient of two numbers; none when the divisor is zero. -/
def div? (x y : Binary64) : Option Binary64 :=
  if y.mantissa = 0 then none
  else ofScaledRatio? (x.negative != y.negative) x.mantissa y.mantissa (x.exponent - y.exponent)

/-- The number nearest to a power of ten. -/
def powerOfTen? (exponent : Nat) : Option Binary64 := ofRatio? false (Nat.pow 10 exponent) 1

/-- The greatest exponent of a power of ten that is finite. -/
def maxPowerOfTen : Nat := 308

/-- Divides by a power of ten, in steps no larger than the greatest finite one. -/
def divPowerOfTen? (x : Binary64) (exponent : Nat) : Option Binary64 :=
  if maxPowerOfTen < exponent then
    if x.mantissa = 0 then some x
    else do
      let step ← x.div? (← powerOfTen? maxPowerOfTen)
      divPowerOfTen? step (exponent - maxPowerOfTen)
  else do x.div? (← powerOfTen? exponent)
termination_by exponent
decreasing_by simp only [maxPowerOfTen] at *; omega

/-- The number that `significand * 10 ^ exponent` is read as: the significand is rounded
first, and the result of scaling it by a power of ten is rounded again. None when the number
is too large. -/
def ofDecimal? (negative : Bool) (significand : Nat) (exponent : Int) : Option Binary64 := do
  let start ← ofRatio? negative significand 1
  -- A zero has any exponent; any other number is too large beyond the powers of ten.
  if 0 ≤ exponent then
    if exponent.toNat ≤ maxPowerOfTen then start.mul? (← powerOfTen? exponent.toNat)
    else if start.mantissa = 0 then some start
    else none
  else divPowerOfTen? start (-exponent).toNat

/-- Decimal exponents beyond which every number is zero or too large. -/
def maxMagnitude : Int := 400

/-- The number nearest to `significand * 10 ^ exponent`; none when it is too large. -/
def nearestDecimal? (negative : Bool) (significand : Nat) (exponent : Int) : Option Binary64 :=
  -- The place of the first digit decides first, so that no huge power is ever computed.
  let magnitude := (Nat.toDigits 10 significand).length + exponent
  if significand = 0 ∨ magnitude < -maxMagnitude then some (zero negative)
  else if maxMagnitude < magnitude then none
  else if 0 ≤ exponent then ofRatio? negative (significand * Nat.pow 10 exponent.toNat) 1
  else ofRatio? negative significand (Nat.pow 10 (-exponent).toNat)

end Binary64

end ChatCommand
