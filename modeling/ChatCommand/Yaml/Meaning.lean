import ChatCommand.Number.Binary64
import ChatCommand.Text.Ascii
import ChatCommand.Text.DecimalDigit

/-!
# The meaning of plain scalars

A plain scalar can be null, a truth value or a number by the way it is spelled. Digits behind a
leading zero are text.

## Main definitions

- `Meaning`: what a plain scalar can be.
- `Meaning.of`: what the spelling of a plain scalar means.
-/

namespace ChatCommand.Yaml

/-- What a plain scalar is. -/
inductive Meaning where
  | null
  | bool (b : Bool)
  /-- A whole number that 64 bits hold, with or without a sign. -/
  | whole (n : Int)
  /-- A whole number that only 128 bits hold. -/
  | wide (n : Int)
  | real (x : Binary64)
  /-- A number that is infinite or none at all. -/
  | special (name : String)
  | text
  deriving DecidableEq, Repr

namespace Meaning

/-- Whether a text spells null. -/
def isNull (text : String) : Bool := text ∈ ["null", "Null", "NULL", "~"]

/-- The truth value that a text spells. -/
def bool? (text : String) : Option Bool :=
  if text ∈ ["true", "True", "TRUE"] then some true
  else if text ∈ ["false", "False", "FALSE"] then some false
  else none

/-! ### Whole numbers -/

/-- The value of a digit in a base. -/
def digit? (base : Nat) (c : Char) : Option Nat :=
  match Text.hexValue? c with
  | some value => if value < base then some value else none
  | none => none

/-- The number that digits write in a base. -/
def ofDigits? (base : Nat) (digits : List Char) : Option Nat :=
  if digits.isEmpty then none
  else digits.foldlM (fun value c => (base * value + ·) <$> digit? base c) 0

/-- Whether a text consists of several digits of which the first is zero. -/
def hasLeadingZero (digits : List Char) : Bool :=
  match digits with
  | '0' :: rest => !rest.isEmpty && rest.all Char.isDigit
  | _ => false

/-- The number that a text without a sign writes. -/
def natural? : List Char → Option Nat
  | '0' :: 'x' :: digits => ofDigits? 16 digits
  | '0' :: 'o' :: digits => ofDigits? 8 digits
  | '0' :: 'b' :: digits => ofDigits? 2 digits
  | digits => if hasLeadingZero digits then none else ofDigits? 10 digits

/-- What follows a sign. -/
def unsigned : List Char → List Char
  | '+' :: rest | '-' :: rest => rest
  | digits => digits

/-- The whole number that a text writes. -/
def integer? : List Char → Option Int
  | '-' :: rest => (natural? rest).map fun n => -(n : Int)
  | digits => (natural? (unsigned digits)).map Int.ofNat

/-- The kind of a whole number, by the number of bits that hold it. -/
def ofInteger? (n : Int) : Option Meaning :=
  if -(Nat.pow 2 63 : Nat) ≤ n ∧ n < (Nat.pow 2 64 : Nat) then some (whole n)
  else if -(Nat.pow 2 127 : Nat) ≤ n ∧ n < (Nat.pow 2 128 : Nat) then some (wide n)
  else none

/-! ### Other numbers -/

/-- The exponent of a number: nothing, or a sign and at least one digit behind an `e`. -/
def exponent? : List Char → Option Int
  | [] => some 0
  | c :: rest =>
    if c = 'e' ∨ c = 'E' then
      let digits := unsigned rest
      if digits.isEmpty || !digits.all Char.isDigit then none
      else
        let value : Int := Text.natOfDigits digits
        some (if rest.head? = some '-' then -value else value)
    else none

/-- The number that a text without a sign writes in decimal notation, with digits before or
after its point. -/
def decimal? (negative : Bool) (text : List Char) : Option Binary64 := do
  let before := text.takeWhile Char.isDigit
  let (places, rest) := match text.dropWhile Char.isDigit with
    | '.' :: rest => (rest.takeWhile Char.isDigit, rest.dropWhile Char.isDigit)
    | rest => ([], rest)
  if before.isEmpty && places.isEmpty then none
  let exponent ← exponent? rest
  Binary64.nearestDecimal? negative (Text.natOfDigits (before ++ places))
    (exponent - places.length)

/-- The number that a text writes, other than a whole one. -/
def number? (text : String) : Option Meaning :=
  if text ∈ [".inf", ".Inf", ".INF", "+.inf", "+.Inf", "+.INF"] then some (special "inf")
  else if text ∈ ["-.inf", "-.Inf", "-.INF"] then some (special "-inf")
  else if text ∈ [".nan", ".NaN", ".NAN"] then some (special "NaN")
  else
    match text.toList with
    | '-' :: rest => real <$> decimal? true rest
    | rest => real <$> decimal? false (unsigned rest)

/-- What a plain scalar means by its spelling. -/
def of (text : String) : Meaning :=
  if text.isEmpty || isNull text then null
  else
    match bool? text with
    | some b => bool b
    | none =>
      match (integer? text.toList).bind ofInteger? with
      | some meaning => meaning
      | none =>
        if hasLeadingZero (unsigned text.toList) then Meaning.text
        else (number? text).getD Meaning.text

end Meaning

end ChatCommand.Yaml
