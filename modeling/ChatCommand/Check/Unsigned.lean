import ChatCommand.Check.Primitive
import ChatCommand.Text.DecimalDigit

/-!
# Unsigned numbers of 32 and 64 bits

A number may come as a JSON number or, so that no digit is lost on the way, as a decimal string.

## Main definitions

- `Check.uint4Number`, `Check.uint4String`, `Check.uint4Like`: numbers of 32 bits.
- `Check.uint8Number`, `Check.uint8String`, `Check.uint8Like`: numbers of 64 bits.
-/

namespace ChatCommand.Check

/-- A type of numbers from zero to `max`. -/
class UnsignedWord (α : Type) where
  max : Nat
  ofNat? : Nat → Option α

instance : UnsignedWord UInt32 where
  max := UInt32.size - 1
  ofNat? n := if h : n < UInt32.size then some (UInt32.ofNatLT n h) else none

instance : UnsignedWord UInt64 where
  max := UInt64.size - 1
  ofNat? n := if h : n < UInt64.size then some (UInt64.ofNatLT n h) else none

section

variable (α : Type) [UnsignedWord α]

/-- What a message says about a number outside the type. -/
def boundViolation : Violation := fun subject =>
  subject ++ " must be between 0 and " ++ toString (UnsignedWord.max α)

/-- The number of a whole JSON number. -/
def ofWhole (name : String) (whole : Int) : Except Failure α :=
  if 0 ≤ whole ∧ whole ≤ (UnsignedWord.max α : Int) then
    match UnsignedWord.ofNat? (α := α) whole.toNat with
    | some word => .ok word
    | none => .error (.invalidValue (boundViolation α name))
  else
    .error (.invalidValue
      (toString whole ++ " is outside the range 0 to " ++ toString (UnsignedWord.max α)))

/-- Accepts a JSON number. -/
def unsignedNumber (name : String) : Check α :=
  ofTransform name fun
    | some (.number n) => do ofWhole α name (← wholeNumber n)
    | input => .error (.incorrectType "a number" input)

/-- Whether a text consists of one or more decimal digits of any script: `^\d+$`. -/
def isDigits (text : List Char) : Bool := !text.isEmpty && text.all Text.isDecimalDigit

/-- The greatest number of 128 bits. -/
def maxWide : Nat := Nat.pow 2 128 - 1

/-- The number that ASCII digits write, while it fits 128 bits. -/
def wideOfDigits? (text : List Char) : Option Nat :=
  if text.all Char.isDigit then
    let n := Text.natOfDigits text
    if n ≤ maxWide then some n else none
  else none

/-- The number of a decimal string. -/
def ofDecimalString (text : String) : Except Violation α :=
  if isDigits text.toList then
    match wideOfDigits? text.toList with
    | some n =>
      if n ≤ UnsignedWord.max α then
        match UnsignedWord.ofNat? n with
        | some word => .ok word
        | none => .error (boundViolation α)
      else .error (boundViolation α)
    | none => .error (boundViolation α)
  else
    .error fun subject =>
      subject ++ " must be a non-negative decimal integer, received " ++ Text.quoted text

/-- Accepts a decimal string. -/
def unsignedString (name : String) : Check α := string.convert name (ofDecimalString α)

/-- Accepts a string of digits, or else what another check accepts. -/
def unsignedLike (name : String) (numeric : Check α) : Check α :=
  ofTransform name fun
    | some (.text text) =>
      if isDigits text.toList then
        match ofDecimalString α text with
        | .ok word => .ok word
        | .error violation => .error (.invalidValue (violation name))
      else numeric.run (some (.text text))
    | input => numeric.run input

end

/-- A number of 32 bits, as a JSON number. -/
def uint4Number : Check UInt32 := unsignedNumber UInt32 "UInt4N"

/-- A number of 32 bits, as a decimal string. -/
def uint4String : Check UInt32 := unsignedString UInt32 "UInt4S"

/-- A number of 32 bits, as a number or a decimal string. -/
def uint4Like : Check UInt32 := unsignedLike UInt32 "UInt4Like" uint4Number

/-- A number of 64 bits, as a JSON number. -/
def uint8Number : Check UInt64 := unsignedNumber UInt64 "UInt8N"

/-- A number of 64 bits, as a decimal string. -/
def uint8String : Check UInt64 := unsignedString UInt64 "UInt8S"

/-- A number of 64 bits, as a number or a decimal string. -/
def uint8Like : Check UInt64 := unsignedLike UInt64 "UInt8Like" uint8Number

end ChatCommand.Check
