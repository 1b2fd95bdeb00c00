import ChatCommand.Number.Shortest

/-!
# Two ways to write a number

Inside data a number with a fraction is always recognisable as one: it keeps `.0`, and beyond
sixteen digits it has an exponent. In a sentence it is written out in full, and a whole number
has no fraction.
-/

namespace ChatCommand

/-- How the digits of a number are laid out. -/
structure NumberLayout where
  /-- The least and the greatest exponent of a first digit that is written without an exponent;
  none when there never is one. -/
  plain : Option (Int × Int)
  /-- Whether a whole number is marked by `.0`. -/
  markWhole : Bool
  deriving DecidableEq, Repr

namespace NumberLayout

/-- Numbers inside data: plain from `0.00001` up to sixteen digits before the point. -/
def data : NumberLayout := ⟨some (-5, 15), true⟩

/-- Numbers inside a sentence: always plain. -/
def sentence : NumberLayout := ⟨none, false⟩

/-- The digits with a decimal point after the first `point` of them. -/
def writePlain (layout : NumberLayout) (decimal : Decimal) : List Char :=
  let digits := decimal.digits
  if decimal.point ≤ 0 then
    ['0', '.'] ++ List.replicate (-decimal.point).toNat '0' ++ digits
  else
    let before := decimal.point.toNat
    if digits.length ≤ before then
      digits ++ List.replicate (before - digits.length) '0' ++
        (if layout.markWhole then ['.', '0'] else [])
    else digits.take before ++ '.' :: digits.drop before

/-- The digits with the point after the first one, and the power of ten with its sign. -/
def writeScientific (decimal : Decimal) : List Char :=
  let exponent := decimal.point - 1
  let fraction := decimal.digits.drop 1
  decimal.digits.take 1 ++ (if fraction.isEmpty then [] else '.' :: fraction) ++
    ['e', if exponent < 0 then '-' else '+'] ++ Decimal.digitsOf exponent.natAbs

/-- Writes a number in the given layout. -/
def write (layout : NumberLayout) (x : Binary64) : String :=
  let decimal := Decimal.shortest x
  let exponent := decimal.point - 1
  let isPlain := match layout.plain with
    | none => true
    | some (least, greatest) => x.mantissa = 0 || (least ≤ exponent && exponent ≤ greatest)
  let body := if isPlain then layout.writePlain decimal else writeScientific decimal
  String.ofList (if x.negative then '-' :: body else body)

end NumberLayout

end ChatCommand
