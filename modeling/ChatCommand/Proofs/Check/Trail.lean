import ChatCommand.Proofs.Check.Composed
import ChatCommand.Proofs.Check.Leaf
import ChatCommand.Proofs.Check.Object
import ChatCommand.Proofs.Check.Regular

/-!
# Paths of failures

Whatever a composed check says about an input that it rejects, it says about a place in that input:
the keys and positions of the path can be taken one after the other from the input, and only the
last one may lead to nothing, which is then a declared key that the object lacks. The members of
unions and intersections in between speak of the same value. Refinements do not know where the value
came from, so they speak of the whole value only.

## Main definitions

- `Explanation.place`: the keys and positions of a path.
- `Leads`: a place can be followed from an input.
- `Failure.Each`: what is said of every explanation of a result.
- `Check.Trails`: the explanations of a check lead into its input.

## Main results

- `Check.Composed.trails`: composed checks have this property.
- `Check.leads_of_run`: where the explanations of a rejected input lead.
-/

namespace ChatCommand

/-! ### Places -/

/-- Whether a step stays at the same value. -/
def PathStep.isMember : PathStep → Bool
  | member _ => true
  | _ => false

/-- The keys and positions of the path. -/
def Explanation.place (explanation : Explanation) : List PathStep :=
  explanation.path.filter (!·.isMember)

/-- The steps can be taken one after the other from an input, which may be missing. A key leads from
an object to a value under it, which is the one found there when the keys are different, and a
position leads from an array to the item there. A key that the object lacks is the last step, and
has to be one of those that are declared at its place. -/
inductive Leads : (List PathStep → String → Prop) → Option Json → List PathStep → Prop where
  | here {declares : List PathStep → String → Prop} (input : Option Json) : Leads declares input []
  | key {declares : List PathStep → String → Prop} {fields : Json.Fields} {name : String}
      {value : Json} {place : List PathStep} (present : (name, value) ∈ fields)
      (onward : Leads (fun inner => declares (.key name :: inner)) (some value) place) :
      Leads declares (some (.object fields)) (.key name :: place)
  | lacking {declares : List PathStep → String → Prop} {fields : Json.Fields} {name : String}
      (absent : name ∉ Json.Fields.keys fields) (declared : declares [] name) :
      Leads declares (some (.object fields)) [.key name]
  | index {declares : List PathStep → String → Prop} {items : List Json} {position : Nat}
      {item : Json} {place : List PathStep} (present : items[position]? = some item)
      (onward : Leads (fun inner => declares (.index position :: inner)) (some item) place) :
      Leads declares (some (.array items)) (.index position :: place)

namespace Leads

variable {declares more : List PathStep → String → Prop} {input : Option Json}
  {place : List PathStep} {name text : String} {fields : Json.Fields}

theorem mono (leads : Leads declares input place)
    (wider : ∀ inner key, declares inner key → more inner key) : Leads more input place := by
  induction leads generalizing more with
  | here input => exact .here input
  | key present _ ih => exact .key present (ih fun inner key => wider (.key _ :: inner) key)
  | lacking absent declared => exact .lacking absent (wider [] _ declared)
  | index present _ ih => exact .index present (ih fun inner key => wider (.index _ :: inner) key)

/-- Nothing leads into a value that is missing. -/
theorem eq_nil_of_none (leads : Leads declares none place) : place = [] := by
  cases leads
  rfl

/-- Nothing leads into a text. -/
theorem eq_nil_of_text (leads : Leads declares (some (.text text)) place) : place = [] := by
  cases leads
  rfl

/-- What leads into the value under a declared key leads into the object, even if there is no value
under the key. -/
theorem under_declared (leads : Leads declares (Json.Fields.get? name fields) place)
    (wider : ∀ inner key, declares inner key → more (.key name :: inner) key)
    (declared : more [] name) : Leads more (some (.object fields)) (.key name :: place) := by
  cases found : Json.Fields.get? name fields with
  | some value =>
    rw [found] at leads
    exact .key (Json.Fields.mem_of_get? found) (leads.mono wider)
  | none =>
    rw [found] at leads
    obtain rfl := leads.eq_nil_of_none
    exact .lacking (Json.Fields.get?_eq_none_iff.mp found) declared

end Leads

/-! ### Explanations of results -/

namespace Failure

variable {α β : Type} {P Q : Explanation → Prop} {result : Except Failure α}

/-- Should the result be a failure, then all its explanations are as required. -/
def Each (P : Explanation → Prop) (result : Except Failure α) : Prop :=
  ∀ explanation ∈ explanationsOf result, P explanation

theorem each_ok (value : α) : Each P (.ok value : Except Failure α) := nofun

theorem each_ofMessage {kind : Kind} {message : String} (holds : P ⟨[], message⟩) :
    Each P (.error (.ofMessage kind message) : Except Failure α) :=
  List.forall_mem_singleton.mpr holds

/-- What holds of every sentence about the whole holds of what such a sentence says. -/
theorem Only.each (only : Only IsSentence result) (holds : ∀ message, P ⟨[], message⟩) :
    Each P result := by
  cases result with
  | ok value => exact each_ok value
  | error failure =>
    obtain ⟨kind, message, rfl⟩ := only failure rfl
    exact each_ofMessage (holds message)

theorem Each.mono (each : Each P result) (weaker : ∀ explanation, P explanation → Q explanation) :
    Each Q result :=
  fun explanation member => weaker explanation (each explanation member)

theorem Each.bind {next : α → Except Failure β} (each : Each P result)
    (later : ∀ value, Each P (next value)) : Each P (result >>= next) := by
  cases result with
  | ok value => exact later value
  | error failure => exact each

theorem Each.map (each : Each P result) (f : α → β) : Each P (result.map f) := by
  cases result with
  | ok value => exact each_ok (f value)
  | error failure => exact each

/-- Whatever is said about the whole leads into the input. -/
theorem Each.leads (each : Each (fun explanation => explanation.place = []) result)
    (declares : List PathStep → String → Prop) (input : Option Json) :
    Each (fun explanation => Leads declares input explanation.place) result :=
  each.mono fun _ whole => whole ▸ .here input

theorem each_under {failure : Failure} {step : PathStep}
    (each : ∀ explanation ∈ failure.information, P (explanation.under step)) :
    ∀ explanation ∈ (failure.under step).information, P explanation :=
  List.forall_mem_map.mpr each

theorem Each.atStep {step : PathStep}
    (each : Each (fun explanation => P (explanation.under step)) result) :
    Each P (atStep step result) := by
  cases result with
  | ok value => exact each_ok value
  | error failure => exact each_under each

theorem each_collect {results : List (Except Failure α)}
    (each : ∀ result ∈ results, Each P result) : Each P (collect results) := by
  cases collected : collect results with
  | ok values => exact each_ok values
  | error failure =>
    intro explanation member
    replace member : explanation ∈ failure.information := member
    rw [information_of_collect collected] at member
    obtain ⟨result, listed, inside⟩ := List.mem_flatMap.mp member
    exact each result listed explanation inside

end Failure

/-! ### Checks -/

namespace Check

open Failure (Each each_ok each_ofMessage each_under each_collect)

variable {α β γ : Type} {check first second : Check α} {other : Check β}
  {declares more : List PathStep → String → Prop}

/-- What the check says while it reads an input leads into this input, and what it says while it
refines a value is about the whole. -/
structure Trails (declares : List PathStep → String → Prop) (check : Check α) : Prop where
  transform : ∀ input, Each (fun explanation => Leads declares input explanation.place)
    (check.transform input)
  refine : ∀ subject value, Each (fun explanation => explanation.place = [])
    (check.refine subject value)

theorem Trails.mono (trails : check.Trails declares)
    (wider : ∀ inner key, declares inner key → more inner key) : check.Trails more where
  transform input := (trails.transform input).mono fun _ leads => leads.mono wider
  refine := trails.refine

theorem Trails.run (trails : check.Trails declares) (input : Option Json) :
    Each (fun explanation => Leads declares input explanation.place) (check.run input) :=
  (trails.transform input).bind fun value => (trails.refine _ value).leads declares input

theorem trails_ofTransform {name : String} {transform : Option Json → Except Failure α}
    (reads : ∀ input, Each (fun explanation => Leads declares input explanation.place)
      (transform input)) : (ofTransform name transform).Trails declares :=
  ⟨reads, fun _ value => each_ok value⟩

/-- A leaf speaks of nothing but the whole input. -/
theorem Leaf.trails (leaf : Leaf check) : check.Trails declares where
  transform input := (leaf.only_isSentence input).each fun _ => .here input
  refine subject value := by
    rw [leaf.refine_eq]
    exact each_ok value

/-! ### Refinements, unions and intersections -/

namespace Trails

theorem named (trails : check.Trails declares) (name : String) :
    (check.named name).Trails declares :=
  ⟨trails.transform, trails.refine⟩

theorem validate (trails : check.Trails declares) (rule : α → Option Violation) :
    (check.validate rule).Trails declares := by
  refine ⟨trails.transform, fun subject value => (trails.refine subject value).bind ?_⟩
  intro value
  cases rule value with
  | none => exact each_ok value
  | some violation => exact each_ofMessage rfl

theorem normalize (trails : check.Trails declares) (normal : α → α) :
    (check.normalize normal).Trails declares :=
  ⟨trails.transform, fun subject value => (trails.refine subject value).map normal⟩

theorem convert (trails : check.Trails declares) (name : String)
    (conversion : α → Except Violation β) : (check.convert name conversion).Trails declares := by
  refine trails_ofTransform fun input => (trails.run input).bind fun value => ?_
  cases conversion value with
  | ok converted => exact each_ok converted
  | error violation => exact each_ofMessage (.here input)

theorem liftSome (trails : check.Trails declares) : check.liftSome.Trails declares where
  transform input := (trails.transform input).map some
  refine subject
    | some value => (trails.refine subject value).map some
    | none => each_ok none

theorem erase [JsonForm α] (trails : check.Trails declares) : check.erase.Trails declares where
  transform input :=
    (trails.transform input).bind fun a => (JsonForm.only_encode a).each fun _ => .here input
  refine subject value :=
    Each.bind ((only_readBack subject value).each fun _ => rfl) fun a =>
      (trails.refine subject a).bind fun a => (JsonForm.only_encode a).each fun _ => rfl

theorem union (one : first.Trails declares) (two : second.Trails declares) (side : α → Side) :
    (union first second side).Trails declares where
  transform input := by
    have readsOne := one.transform input
    have readsTwo := two.transform input
    rw [transform_union]
    cases read : first.transform input with
    | ok value => exact each_ok value
    | error firstFailure =>
      -- Both members read the same input, so their steps lead nowhere.
      cases readToo : second.transform input with
      | ok value => exact each_ok value
      | error secondFailure =>
        rw [read] at readsOne
        rw [readToo] at readsTwo
        exact List.forall_mem_append.mpr ⟨each_under readsOne, each_under readsTwo⟩
  refine _ value := by
    apply Each.atStep
    cases side value with
    | first => exact one.refine _ value
    | second => exact two.refine _ value

/-- A marker of absence beside the values of a check. -/
theorem orAbsent (trails : check.Trails declares) {marker : Check Unit}
    (mark : marker.Trails declares) :
    (Check.union (absence marker) check.liftSome absentFirst).Trails declares := by
  have absence : (Check.absence (α := α) marker).Trails declares :=
    trails_ofTransform fun input => (mark.run input).map _
  exact absence.union trails.liftSome absentFirst

theorem intersection (one : check.Trails declares) (two : other.Trails declares)
    (merge : α → β → γ) : (intersection check other merge).Trails declares := by
  apply trails_ofTransform
  intro input
  have readsOne : Each (fun explanation => Leads declares input explanation.place)
      (Failure.atStep (.member check.name) (check.run input)) := Each.atStep (one.run input)
  have readsTwo : Each (fun explanation => Leads declares input explanation.place)
      (Failure.atStep (.member other.name) (other.run input)) := Each.atStep (two.run input)
  generalize Failure.atStep (.member check.name) (check.run input) = left at readsOne ⊢
  generalize Failure.atStep (.member other.name) (other.run input) = right at readsTwo ⊢
  rcases left with firstFailure | a <;> rcases right with secondFailure | b
  · exact List.forall_mem_append.mpr ⟨readsOne, readsTwo⟩
  · exact readsOne
  · exact readsTwo
  · exact each_ok (merge a b)

/-! ### Arrays, tuples and objects -/

theorem array (trails : check.Trails check.Declares) :
    (array check).Trails (array check).Declares := by
  apply trails_ofTransform
  intro input
  split
  next items =>
    apply each_collect
    intro result listed
    obtain ⟨position, within, rfl⟩ := List.mem_mapIdx.mp listed
    refine Each.atStep ((trails.run _).mono fun explanation leads => ?_)
    exact .index (List.getElem?_eq_getElem within) (leads.mono fun _ _ => .item)
  next => exact each_ofMessage (.here input)

theorem tuple {elements : List (Check Json)}
    (each : ∀ element ∈ elements, element.Trails element.Declares) :
    (tuple elements).Trails (tuple elements).Declares := by
  apply trails_ofTransform
  intro input
  split
  next items =>
    split
    · apply each_collect
      intro result listed
      obtain ⟨position, within, rfl⟩ := List.mem_mapIdx.mp listed
      obtain ⟨present, listed⟩ :=
        List.getElem?_zip_eq_some.mp (List.getElem?_eq_getElem within)
      have trails := each _ (List.mem_of_getElem? listed)
      refine Each.atStep ((trails.run _).mono fun explanation leads => ?_)
      exact .index present (leads.mono fun _ _ => .element listed)
    · exact each_ofMessage (.here _)
  next => exact each_ofMessage (.here input)

/-- What the check of a declared key says leads into the object. -/
theorem declared {shape : Shape} {fields : Json.Fields} {property : String × Check Json}
    (trails : property.2.Trails property.2.Declares) (listed : property ∈ shape.properties) :
    Each (fun explanation =>
        Leads (object shape).Declares (some (.object fields)) explanation.place)
      (Shape.declared fields property) := by
  have reads := trails.run (Json.Fields.get? property.1 fields)
  unfold Shape.declared
  dsimp only
  cases ran : property.2.run (Json.Fields.get? property.1 fields) with
  | ok value => exact each_ok _
  | error failure =>
    rw [ran] at reads
    refine each_under fun explanation member => ?_
    exact (reads explanation member).under_declared (fun _ _ => .property listed) (.declared listed)

/-- What is said of a field whose key is not declared leads to this field, or on into its value. -/
theorem undeclared {shape : Shape} {fields : Json.Fields} {field : String × Json}
    (others : ∀ keyCheck valueCheck, shape.others = some (keyCheck, valueCheck) →
      keyCheck.Trails keyCheck.Declares ∧ valueCheck.Trails valueCheck.Declares)
    (present : field ∈ fields) :
    Each (fun explanation =>
        Leads (object shape).Declares (some (.object fields)) explanation.place)
      (shape.undeclared field) := by
  unfold Shape.undeclared
  split
  next => exact each_under (List.forall_mem_singleton.mpr (.key present (.here _)))
  next keyCheck valueCheck allowed =>
    obtain ⟨key, value⟩ := others keyCheck valueCheck allowed
    apply Each.atStep
    apply Each.bind
    · -- The key is checked as a text, into which nothing leads.
      refine (key.run _).mono fun explanation leads => ?_
      show Leads _ _ (.key field.1 :: explanation.place)
      rw [leads.eq_nil_of_text]
      exact .key present (.here _)
    · intro key
      refine Each.bind ?_ fun value => each_ok _
      refine (value.run _).mono fun explanation leads => ?_
      exact .key present (leads.mono fun _ _ => .other allowed)

theorem object {shape : Shape}
    (properties : ∀ property ∈ shape.properties, property.2.Trails property.2.Declares)
    (others : ∀ keyCheck valueCheck, shape.others = some (keyCheck, valueCheck) →
      keyCheck.Trails keyCheck.Declares ∧ valueCheck.Trails valueCheck.Declares) :
    (object shape).Trails (object shape).Declares := by
  apply trails_ofTransform
  intro input
  split
  next fields =>
    refine Each.bind (each_collect fun result member => ?_) fun accepted => each_ok _
    rcases List.mem_append.mp member with first | later
    · obtain ⟨property, listed, rfl⟩ := List.mem_map.mp first
      exact declared (properties property listed) listed
    · obtain ⟨field, kept, rfl⟩ := List.mem_map.mp later
      exact undeclared others (List.mem_filter.mp kept).1
  next => exact each_ofMessage (.here input)

end Trails

/-! ### Composed checks -/

/-- Every explanation of a composed check leads into its input. -/
theorem Composed.trails (composed : Composed check) : check.Trails check.Declares := by
  -- The induction is on how the check is put together. What its parts declare is declared by the
  -- whole, at the places that they check.
  induction composed with
  | string => exact Leaf.string.trails
  | number => exact Leaf.number.trails
  | integer => exact Leaf.integer.trails
  | boolean => exact Leaf.boolean.trails
  | any => exact Leaf.any.trails
  | value expected => exact (Leaf.value expected).trails
  | null => exact Leaf.null.trails
  | undefined => exact Leaf.undefined.trails
  | unsignedNumber α name => exact (Leaf.unsignedNumber α name).trails
  | unsignedLike α name inner => exact (Leaf.unsignedLike α name inner).trails
  | array _ ih => exact ih.array
  | tuple _ ih => exact Trails.tuple ih
  | object _ _ _ properties key value =>
    exact Trails.object properties fun keyCheck valueCheck allowed =>
      ⟨key keyCheck valueCheck allowed, value keyCheck valueCheck allowed⟩
  | union _ _ side one two =>
    exact (one.mono fun _ _ => .first).union (two.mono fun _ _ => .second) side
  | nullable _ ih => exact ((ih.mono fun _ _ => .nullable).orAbsent Leaf.null.trails).named _
  | optional _ ih => exact ((ih.mono fun _ _ => .optional).orAbsent Leaf.undefined.trails).named _
  | intersection _ _ merge one two =>
    exact (one.mono fun _ _ => .left).intersection (two.mono fun _ _ => .right) merge
  | erase _ ih => exact (ih.mono fun _ _ => .erase).erase
  | named name _ ih => exact (ih.mono fun _ _ => .named).named name
  | validate rule _ ih => exact (ih.mono fun _ _ => .validate).validate rule
  | normalize normal _ ih => exact (ih.mono fun _ _ => .normalize).normalize normal
  | convert name conversion _ ih => exact (ih.mono fun _ _ => .convert).convert name conversion

/-- Whatever a composed check says about an input that it rejects, it says about a place that can be
followed from this input. Only the last step may lead to nothing, and it is then a key which the
check declares at its place and which the object lacks. -/
theorem leads_of_run (composed : Composed check) {input : Option Json} {failure : Failure}
    (rejected : check.run input = .error failure) :
    ∀ explanation ∈ failure.information, Leads check.Declares input explanation.place := by
  have reads := composed.trails.run input
  rw [rejected] at reads
  exact reads

/-! ### A rejected object -/

/-- An object with a list of objects and a key that may be `null`. -/
def roster : Check Json.Fields :=
  object ⟨[("owner", (nullable string).erase),
    ("roles", (array (object ⟨[("id", uint4Like.erase), ("name", string.erase)], none⟩)).erase)],
    none⟩

/-- The keys `owner` and `name` are missing, and `id` has a wrong value. -/
theorem leads_of_run_roster : ∃ failure,
    roster.run (some (.object [("roles", .array [.object [("id", .bool true)]])])) =
      .error failure ∧
    failure.information.map Explanation.place =
      [[.key "owner"], [.key "owner"], [.key "roles", .index 0, .key "id"],
        [.key "roles", .index 0, .key "name"]] ∧
    ∀ explanation ∈ failure.information, Leads roster.Declares
      (some (.object [("roles", .array [.object [("id", .bool true)]])])) explanation.place := by
  have inner : Composed (object ⟨[("id", uint4Like.erase), ("name", string.erase)], none⟩) := by
    refine .object ?_ nofun nofun
    simp only [List.forall_mem_cons]
    exact ⟨.erase .uint4Like, .erase .string, nofun⟩
  have composed : Composed roster := by
    refine .object ?_ nofun nofun
    simp only [List.forall_mem_cons]
    exact ⟨.erase (.nullable .string), .erase (.array inner), nofun⟩
  have rejected : roster.run (some (.object [("roles", .array [.object [("id", .bool true)]])])) =
      .error ⟨.noMatchingUnionMember,
        [⟨[.key "owner", .member "Null"], "expected null, received undefined"⟩,
          ⟨[.key "owner", .member "String"], "expected a string, received undefined"⟩,
          ⟨[.key "roles", .index 0, .key "id"], "expected a number, received boolean true"⟩,
          ⟨[.key "roles", .index 0, .key "name"],
            "expected a string, received undefined"⟩]⟩ := by rfl
  exact ⟨_, rejected, rfl, leads_of_run composed rejected⟩

end Check

end ChatCommand
