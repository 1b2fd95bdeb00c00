import ChatCommand.Number.Binary64

/-!
# Shortest decimal digits

The decimal form of a binary64 number is the shortest one that reads back: of all decimals
that are nearer to the number than to any other, those with the fewest digits, and of those
the one nearest to it.
-/

namespace ChatCommand

/-- The decimal number `0.d₁d₂… * 10 ^ point` with the digits of `digits`. -/
structure Decimal where
  digits : List Char
  point : Int
  deriving DecidableEq, Repr

namespace Decimal

/-- The digits of a number in base ten. -/
def digitsOf (n : Nat) : List Char := Nat.toDigits 10 n

/-- Where the decimal point of a positive ratio stands: the `p` with
`10 ^ (p - 1) ≤ num / den < 10 ^ p`. -/
def pointOf (num den : Nat) : Int :=
  if den ≤ num then (digitsOf (num / den)).length
  else 1 - ((digitsOf ((den - 1) / num)).length : Int)

/-- The ratios strictly or weakly between two ends, all over one denominator. -/
structure Interval where
  low : Nat
  high : Nat
  closed : Bool
  deriving DecidableEq, Repr

/-- Whether `num / den` lies in the interval, whose ends are over `unit`. -/
def Interval.holds (interval : Interval) (unit num den : Nat) : Bool :=
  if interval.closed then interval.low * den ≤ num * unit && num * unit ≤ interval.high * den
  else interval.low * den < num * unit && num * unit < interval.high * den

/-- The whole number of steps of `10 ^ (point - count)`, as a ratio. -/
def gridValue (steps : Nat) (exponent : Int) : Nat × Nat :=
  if 0 ≤ exponent then (steps * Nat.pow 10 exponent.toNat, 1)
  else (steps, Nat.pow 10 (-exponent).toNat)

/-- Of the two neighbours of `value / unit` on the grid of `10 ^ exponent`, the one inside the
interval that is nearer; the even one of two equally near. -/
def nearestOnGrid? (interval : Interval) (value unit : Nat) (exponent : Int) : Option Nat :=
  let scaled := if 0 ≤ exponent then (value, unit * Nat.pow 10 exponent.toNat)
    else (value * Nat.pow 10 (-exponent).toNat, unit)
  let below := scaled.1 / scaled.2
  let inside (steps : Nat) : Bool :=
    let point := gridValue steps exponent
    interval.holds unit point.1 point.2
  let twice := 2 * (scaled.1 % scaled.2)
  match inside below, inside (below + 1) with
  -- Both neighbours read back: the nearer one counts.
  | true, true =>
    if twice < scaled.2 then some below
    else if scaled.2 < twice then some (below + 1)
    else some (below + below % 2)
  | true, false => some below
  | false, true => some (below + 1)
  | false, false => none

/-- The first grid of `count`, `count + 1`, … digits with a point in the interval. -/
def search (interval : Interval) (value unit : Nat) (point : Int) :
    Nat → Nat → Option (Nat × Int)
  | 0, _ => none
  | fuel + 1, count =>
    match nearestOnGrid? interval value unit (point - count) with
    | some steps => some (steps, point - count)
    | none => search interval value unit point fuel (count + 1)

/-- Drops zeros from the end. -/
def dropTrailingZeros (digits : List Char) : List Char :=
  (digits.reverse.dropWhile (· == '0')).reverse

/-- The shortest decimal that reads back as the size of a number. Seventeen digits always
suffice. -/
def shortest (x : Binary64) : Decimal :=
  if x.mantissa = 0 then ⟨['0'], 1⟩
  else
    -- In quarters of the last bit, the neighbours are four away, or two below a power of two.
    let narrow := x.mantissa = Nat.pow 2 52 ∧ -1074 < x.exponent
    let interval : Interval :=
      { low := 4 * x.mantissa - (if narrow then 1 else 2)
        high := 4 * x.mantissa + 2
        -- An end is a tie, which reads back as the even mantissa.
        closed := x.mantissa % 2 = 0 }
    let shift := x.exponent - 2
    let scale := Nat.pow 2 shift.toNat
    let unit := Nat.pow 2 (-shift).toNat
    let value := 4 * x.mantissa * scale
    let wide : Interval :=
      { interval with low := interval.low * scale, high := interval.high * scale }
    let point := pointOf value unit
    match search wide value unit point 17 1 with
    | some (steps, exponent) =>
      let digits := digitsOf steps
      ⟨dropTrailingZeros digits, digits.length + exponent⟩
    | none =>
      let digits := digitsOf (value / unit)
      ⟨digits, digits.length⟩

end Decimal

end ChatCommand
