import ChatCommand.Check.Compound
import ChatCommand.Check.Erasure
import ChatCommand.Check.Format
import ChatCommand.Check.Union

/-!
# Checks put together from leaves

What holds of the leaves and is kept by everything that checks are put together with holds of every
check that reads its input as it comes. Only a preparation of the input is left out: whoever
prepares a value checks another one.

## Main definitions

- `Check.Composed`: checks put together without a preparation.
- `Check.Declares`: a key is declared at a place of a check.
-/

namespace ChatCommand.Check

/-- The check is put together from the leaves. -/
inductive Composed : {α : Type} → Check α → Prop where
  | string : Composed string
  | number : Composed number
  | integer : Composed integer
  | boolean : Composed boolean
  | any : Composed any
  | value (expected : Json) : Composed (value expected)
  | null : Composed null
  | undefined : Composed undefined
  | unsignedNumber (α : Type) [UnsignedWord α] (name : String) : Composed (unsignedNumber α name)
  | unsignedLike (α : Type) [UnsignedWord α] (name inner : String) :
      Composed (unsignedLike α name (Check.unsignedNumber α inner))
  | array {α : Type} {item : Check α} (composed : Composed item) : Composed (array item)
  | tuple {elements : List (Check Json)} (composed : ∀ element ∈ elements, Composed element) :
      Composed (tuple elements)
  | object {shape : Shape} (properties : ∀ property ∈ shape.properties, Composed property.2)
      (key : ∀ keyCheck valueCheck, shape.others = some (keyCheck, valueCheck) →
        Composed keyCheck)
      (value : ∀ keyCheck valueCheck, shape.others = some (keyCheck, valueCheck) →
        Composed valueCheck) :
      Composed (object shape)
  | union {α : Type} {first second : Check α} (one : Composed first) (two : Composed second)
      (side : α → Side) : Composed (union first second side)
  | nullable {α : Type} {inner : Check α} (composed : Composed inner) : Composed (nullable inner)
  | optional {α : Type} {inner : Check α} (composed : Composed inner) : Composed (optional inner)
  | intersection {α β γ : Type} {first : Check α} {second : Check β} (one : Composed first)
      (two : Composed second) (merge : α → β → γ) : Composed (intersection first second merge)
  | erase {α : Type} [JsonForm α] {inner : Check α} (composed : Composed inner) :
      Composed inner.erase
  | named {α : Type} {inner : Check α} (name : String) (composed : Composed inner) :
      Composed (inner.named name)
  | validate {α : Type} {inner : Check α} (rule : α → Option Violation)
      (composed : Composed inner) : Composed (inner.validate rule)
  | normalize {α : Type} {inner : Check α} (normal : α → α) (composed : Composed inner) :
      Composed (inner.normalize normal)
  | convert {α β : Type} {inner : Check α} (name : String) (conversion : α → Except Violation β)
      (composed : Composed inner) : Composed (inner.convert name conversion)

namespace Composed

/-! ### The other leaves -/

theorem uint4Number : Composed uint4Number := .unsignedNumber UInt32 _

theorem uint4String : Composed uint4String := .convert _ _ .string

theorem uint4Like : Composed uint4Like := .unsignedLike UInt32 _ _

theorem uint8Number : Composed uint8Number := .unsignedNumber UInt64 _

theorem uint8String : Composed uint8String := .convert _ _ .string

theorem uint8Like : Composed uint8Like := .unsignedLike UInt64 _ _

theorem snowflake : Composed snowflake := .validate _ (.named _ .string)

theorem hexDigest : Composed hexDigest := .normalize _ (.validate _ (.named _ .string))

theorem hexDigestOf (length : Nat) : Composed (hexDigestOf length) :=
  .normalize _ (.validate _ (.named _ .string))

theorem statusLink : Composed statusLink := .validate _ (.named _ .string)

theorem yesOrNo : Composed yesOrNo := .convert _ _ .string

end Composed

/-- At a place, which is reached by keys and positions, the check declares a key of an object. -/
inductive Declares : {α : Type} → Check α → List PathStep → String → Prop where
  | declared {shape : Shape} {property : String × Check Json}
      (listed : property ∈ shape.properties) : Declares (object shape) [] property.1
  | property {shape : Shape} {property : String × Check Json} {place : List PathStep}
      {key : String} (listed : property ∈ shape.properties)
      (inside : Declares property.2 place key) :
      Declares (object shape) (.key property.1 :: place) key
  | other {shape : Shape} {keyCheck : Check String} {valueCheck : Check Json} {name : String}
      {place : List PathStep} {key : String}
      (allowed : shape.others = some (keyCheck, valueCheck))
      (inside : Declares valueCheck place key) : Declares (object shape) (.key name :: place) key
  | item {α : Type} {item : Check α} {position : Nat} {place : List PathStep} {key : String}
      (inside : Declares item place key) : Declares (array item) (.index position :: place) key
  | element {elements : List (Check Json)} {position : Nat} {element : Check Json}
      {place : List PathStep} {key : String} (listed : elements[position]? = some element)
      (inside : Declares element place key) :
      Declares (tuple elements) (.index position :: place) key
  | first {α : Type} {first second : Check α} {side : α → Side} {place : List PathStep}
      {key : String} (inside : Declares first place key) :
      Declares (union first second side) place key
  | second {α : Type} {first second : Check α} {side : α → Side} {place : List PathStep}
      {key : String} (inside : Declares second place key) :
      Declares (union first second side) place key
  | nullable {α : Type} {inner : Check α} {place : List PathStep} {key : String}
      (inside : Declares inner place key) : Declares (nullable inner) place key
  | optional {α : Type} {inner : Check α} {place : List PathStep} {key : String}
      (inside : Declares inner place key) : Declares (optional inner) place key
  | left {α β γ : Type} {first : Check α} {second : Check β} {merge : α → β → γ}
      {place : List PathStep} {key : String} (inside : Declares first place key) :
      Declares (intersection first second merge) place key
  | right {α β γ : Type} {first : Check α} {second : Check β} {merge : α → β → γ}
      {place : List PathStep} {key : String} (inside : Declares second place key) :
      Declares (intersection first second merge) place key
  | erase {α : Type} [JsonForm α] {inner : Check α} {place : List PathStep} {key : String}
      (inside : Declares inner place key) : Declares inner.erase place key
  | named {α : Type} {inner : Check α} {name : String} {place : List PathStep} {key : String}
      (inside : Declares inner place key) : Declares (inner.named name) place key
  | validate {α : Type} {inner : Check α} {rule : α → Option Violation} {place : List PathStep}
      {key : String} (inside : Declares inner place key) : Declares (inner.validate rule) place key
  | normalize {α : Type} {inner : Check α} {normal : α → α} {place : List PathStep}
      {key : String} (inside : Declares inner place key) :
      Declares (inner.normalize normal) place key
  | convert {α β : Type} {inner : Check α} {name : String} {conversion : α → Except Violation β}
      {place : List PathStep} {key : String} (inside : Declares inner place key) :
      Declares (inner.convert name conversion) place key

end ChatCommand.Check
