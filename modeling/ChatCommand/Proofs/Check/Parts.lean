import ChatCommand.Check.Compound
import ChatCommand.Check.Erasure
import ChatCommand.Check.Union
import ChatCommand.Proofs.Json.Sorted
import Mathlib

/-!
# Parts of a value

An array, a tuple or an object is accepted when all its parts are, and the output is then made of
just what their checks yield. Otherwise the explanations of all rejected parts come one after the
other, each under the step to its part, and the first of these parts gives the kind. Nothing that a
check says about a part is lost, and nothing is added.

## Main definitions

- `Part`: a part and what its check says about it.
- `Reports`: a failure tells of the rejected ones among some parts.
- `AllOrNothing`: accepted with an output, or rejected with a report.
- `Check.Gathers`: an object of what the checks of the declared keys yield.

## Main results

- `Failure.exists_collect_iff`, `Reports.of_collect`: several results as one.
- `Check.object_accepts_iff`, `Check.object_reports`, `Check.gathers_of_run_object`: objects.
- `Check.all_or_nothing`: arrays, tuples and objects.
-/

namespace ChatCommand

/-! ### Several results as one -/

namespace Failure

variable {α : Type} {results : List (Except Failure α)} {values : List α} {failure : Failure}

/-- What a result has to explain: nothing when it is a value. -/
def explanationsOf : Except Failure α → List Explanation
  | .ok _ => []
  | .error failure => failure.information

/-- The kind of a result that is a failure. -/
def kindOf? : Except Failure α → Option Kind
  | .ok _ => none
  | .error failure => some failure.kind

@[simp]
theorem failuresOf_map_ok (values : List α) : failuresOf (values.map Except.ok) = [] := by
  simp [failuresOf, List.filterMap_map]

@[simp]
theorem valuesOf_map_ok (values : List α) : valuesOf (values.map Except.ok) = values := by
  simp [valuesOf, List.filterMap_map, Function.comp_def, Except.toOption]

/-- Without failures the results are values. -/
theorem map_ok_valuesOf (none : failuresOf results = []) :
    (valuesOf results).map Except.ok = results := by
  induction results with
  | nil => rfl
  | cons result rest ih =>
    cases result with
    | error failure => contradiction
    | ok value => exact congrArg (.ok value :: ·) (ih none)

theorem collect_eq_ok_iff : collect results = .ok values ↔ results = values.map .ok := by
  constructor
  · intro collected
    unfold collect at collected
    split at collected
    next => contradiction
    next silent =>
      rw [← Except.ok.inj collected, map_ok_valuesOf (combine?_eq_none_iff.mp silent)]
  · rintro rfl
    simp [collect, combine?]

theorem collect_eq_error_iff :
    collect results = .error failure ↔ combine? (failuresOf results) = some failure := by
  unfold collect
  cases combine? (failuresOf results) <;> simp

/-- The explanations of all failures come one after the other. -/
theorem information_of_collect (failed : collect results = .error failure) :
    failure.information = results.flatMap explanationsOf := by
  rw [information_of_combine? (collect_eq_error_iff.mp failed)]
  clear failed
  induction results with
  | nil => rfl
  | cons result rest ih =>
    cases result with
    | ok value => exact ih
    | error own => exact congrArg (own.information ++ ·) ih

/-- The first failure gives the kind. -/
theorem kind_of_collect (failed : collect results = .error failure) :
    results.findSome? kindOf? = some failure.kind := by
  rw [collect_eq_error_iff] at failed
  induction results with
  | nil => contradiction
  | cons result rest ih =>
    cases result with
    | ok value => exact ih failed
    | error own => exact Option.some.inj failed ▸ rfl

end Failure

/-! ### Parts -/

/-- A part of a value: the step that leads to it, and what its check says about it. -/
structure Part (α : Type) where
  step : PathStep
  said : Except Failure α

namespace Part

variable {α β : Type}

/-- What there is to explain about a part, as seen from the whole. -/
def explanations (part : Part α) : List Explanation :=
  (Failure.explanationsOf part.said).map (Explanation.under part.step)

/-- A part passes on that it is accepted, or its failure as one of the whole. -/
inductive Passes : Part α → Except Failure β → Prop where
  | accepted (step : PathStep) (value : α) (yielded : β) : Passes ⟨step, .ok value⟩ (.ok yielded)
  | rejected (step : PathStep) (own : Failure) : Passes ⟨step, .error own⟩ (.error (own.under step))

theorem passes_atStep (step : PathStep) (said : Except Failure α) :
    Passes ⟨step, said⟩ (Failure.atStep step said) := by
  cases said with
  | ok value => exact .accepted _ _ _
  | error own => exact .rejected _ _

end Part

/-- The failure tells of every rejected part, in the order of the parts, and is of the first one's
kind. -/
structure Reports {α : Type} (parts : List (Part α)) (failure : Failure) : Prop where
  information_eq : failure.information = parts.flatMap Part.explanations
  kind_eq : parts.findSome? (fun part => Failure.kindOf? part.said) = some failure.kind

/-- A value is accepted when its parts are, with an output to be described, and is otherwise
rejected with a report about its parts. -/
structure AllOrNothing {α β : Type} (answer : Except Failure β) (accepted : Prop)
    (Output : β → Prop) (parts : List (Part α)) : Prop where
  accepts_iff : (∃ output, answer = .ok output) ↔ accepted
  output : ∀ output, answer = .ok output → Output output
  reports : ∀ failure, answer = .error failure → Reports parts failure

section Collect

variable {α β : Type} {parts : List (Part α)} {results : List (Except Failure β)}
  {failure : Failure}

theorem Failure.exists_collect_iff (passed : List.Forall₂ Part.Passes parts results) :
    (∃ values, Failure.collect results = .ok values) ↔
      ∀ part ∈ parts, ∃ value, part.said = .ok value := by
  simp only [Failure.collect_eq_ok_iff]
  induction passed with
  | nil => exact ⟨fun _ => nofun, fun _ => ⟨[], rfl⟩⟩
  | cons first _ ih =>
    rw [List.forall_mem_cons, ← ih]
    cases first with
    | rejected step own =>
      refine ⟨?_, nofun⟩
      rintro ⟨_ | ⟨other, values⟩, same⟩
      · contradiction
      · exact absurd (List.cons.inj same).1 nofun
    | accepted step value yielded =>
      constructor
      · rintro ⟨_ | ⟨other, values⟩, same⟩
        · contradiction
        · exact ⟨⟨value, rfl⟩, values, (List.cons.inj same).2⟩
      · rintro ⟨-, values, rfl⟩
        exact ⟨yielded :: values, rfl⟩

theorem Reports.of_collect (passed : List.Forall₂ Part.Passes parts results)
    (failed : Failure.collect results = .error failure) : Reports parts failure where
  information_eq := by
    rw [Failure.information_of_collect failed]
    clear failed
    induction passed with
    | nil => rfl
    | cons first _ ih =>
      rw [List.flatMap_cons, List.flatMap_cons, ih]
      cases first <;> rfl
  kind_eq := by
    rw [← Failure.kind_of_collect failed]
    clear failed
    induction passed with
    | nil => rfl
    | cons first _ ih =>
      cases first with
      | rejected => rfl
      | accepted => exact ih

end Collect

namespace Check

open Json.Fields (get? keys sort)

/-! ### Arrays and tuples -/

section Positions

variable {α β : Type}

/-- The parts at the positions of a list. -/
def partsAt (judge : β → Except Failure α) (values : List β) : List (Part α) :=
  values.mapIdx fun position value => ⟨.index position, judge value⟩

theorem forall_mem_partsAt_iff {judge : β → Except Failure α} {values : List β} :
    (∀ part ∈ partsAt judge values, ∃ output, part.said = .ok output) ↔
      ∀ value ∈ values, ∃ output, judge value = .ok output := by
  constructor
  · intro accepted value member
    obtain ⟨position, within, rfl⟩ := List.mem_iff_getElem.mp member
    exact accepted ⟨.index position, judge values[position]⟩
      (List.mem_mapIdx.mpr ⟨position, within, rfl⟩)
  · intro accepted part member
    obtain ⟨position, within, rfl⟩ := List.mem_mapIdx.mp member
    exact accepted _ (List.getElem_mem within)

theorem forall₂_of_mapIdx_eq {judge : β → Except Failure α} {values : List β} {outputs : List α}
    (same : (values.mapIdx fun position value =>
      Failure.atStep (.index position) (judge value)) = outputs.map .ok) :
    List.Forall₂ (fun value output => judge value = .ok output) values outputs := by
  have lengths : values.length = outputs.length := by
    simpa using congrArg List.length same
  refine List.forall₂_iff_get.mpr ⟨lengths, fun position within withinToo => ?_⟩
  have here : Failure.atStep (.index position) (judge values[position]) =
      .ok outputs[position] := by
    have here := congrArg (·[position]?) same
    simpa [List.getElem?_eq_getElem within, List.getElem?_eq_getElem withinToo] using here
  exact Failure.atStep_eq_ok_iff.mp here

theorem passes_partsAt (judge : β → Except Failure α) (values : List β) :
    List.Forall₂ Part.Passes (partsAt judge values)
      (values.mapIdx fun position value => Failure.atStep (.index position) (judge value)) := by
  refine List.forall₂_iff_get.mpr ⟨by simp [partsAt], fun position _ _ => ?_⟩
  simpa [partsAt] using Part.passes_atStep (.index position) _

/-- What arrays and tuples do with what is said about their items. -/
theorem allOrNothing_positions (judge : β → Except Failure α) (values : List β) :
    AllOrNothing
      (Failure.collect
        (values.mapIdx fun position value => Failure.atStep (.index position) (judge value)))
      (∀ value ∈ values, ∃ output, judge value = .ok output)
      (List.Forall₂ (fun value output => judge value = .ok output) values)
      (partsAt judge values) where
  accepts_iff :=
    (Failure.exists_collect_iff (passes_partsAt judge values)).trans forall_mem_partsAt_iff
  output _ accepted := forall₂_of_mapIdx_eq (Failure.collect_eq_ok_iff.mp accepted)
  reports _ rejected := .of_collect (passes_partsAt judge values) rejected

theorem run_array (item : Check α) (items : List Json) :
    (array item).run (some (.array items)) =
      Failure.collect (items.mapIdx fun position value =>
        Failure.atStep (.index position) (item.run (some value))) :=
  run_ofTransform _ _ _

theorem run_tuple {elements : List (Check Json)} {items : List Json}
    (arity : items.length = elements.length) :
    (tuple elements).run (some (.array items)) =
      Failure.collect ((items.zip elements).mapIdx fun position pair =>
        Failure.atStep (.index position) (pair.2.run (some pair.1))) :=
  (run_ofTransform _ _ _).trans (if_pos arity)

end Positions

/-! ### Objects -/

section Objects

variable {properties : List (String × Check Json)} {fields output : Json.Fields}
  {failure : Failure}

/-- The keys of an object that are not declared. -/
def undeclaredKeys (properties : List (String × Check Json)) (fields : Json.Fields) :
    List String :=
  (keys fields).filter (· ∉ keys properties)

/-- The fields of an object whose keys are not declared. -/
def undeclaredFields (properties : List (String × Check Json)) (fields : Json.Fields) :
    Json.Fields :=
  fields.filter fun field => field.1 ∉ keys properties

/-- The parts of an object for which no others than the declared keys are allowed: what is under
the declared keys, or missing there, and then what is under all others, which is not expected. -/
def fieldParts (properties : List (String × Check Json)) (fields : Json.Fields) :
    List (Part Json) :=
  (properties.map fun property =>
    ⟨.key property.1, property.2.run (get? property.1 fields)⟩) ++
  (undeclaredKeys properties fields).map fun key =>
    ⟨.key key, .error (.ofMessage .unexpectedProperty "is not an expected property")⟩

/-- The output has what the checks of the declared keys yield for those that are present, and
nothing else. -/
structure Gathers (properties : List (String × Check Json)) (fields output : Json.Fields) :
    Prop where
  value_eq : ∀ property ∈ properties, ∃ value,
    property.2.run (get? property.1 fields) = .ok value ∧
      get? property.1 output = if (get? property.1 fields).isSome then some value else none
  declared : ∀ key ∈ keys output, key ∈ keys properties
  ordered : Json.Fields.Ordered output

theorem undeclaredKeys_eq_nil_iff :
    undeclaredKeys properties fields = [] ↔ ∀ key ∈ keys fields, key ∈ keys properties := by
  simp [undeclaredKeys]

theorem declares_eq_true_iff {shape : Shape} {key : String} :
    shape.declares key = true ↔ key ∈ keys shape.properties := by
  simp only [Shape.declares, List.any_eq_true, decide_eq_true_eq, keys, List.mem_map]

/-- The fields that are looked at apart from the declared keys. -/
theorem filter_not_declares (shape : Shape) (fields : Json.Fields) :
    (fields.filter fun field => !shape.declares field.1) =
      undeclaredFields shape.properties fields := by
  unfold undeclaredFields
  congr 1
  funext field
  rw [Bool.eq_iff_iff, Bool.not_eq_true', ← Bool.not_eq_true, declares_eq_true_iff]
  exact decide_eq_true_iff.symm

theorem keys_undeclaredFields (properties : List (String × Check Json)) (fields : Json.Fields) :
    keys (undeclaredFields properties fields) = undeclaredKeys properties fields := by
  unfold undeclaredFields undeclaredKeys keys
  rw [List.filter_map]
  rfl

theorem pairwise_undeclaredKeys (ordered : Json.Fields.Ordered fields) :
    (undeclaredKeys properties fields).Pairwise (· < ·) :=
  List.Pairwise.filter _ ordered

theorem passes_declared (property : String × Check Json) :
    Part.Passes ⟨.key property.1, property.2.run (get? property.1 fields)⟩
      (Shape.declared fields property) := by
  unfold Shape.declared
  dsimp only
  cases property.2.run (get? property.1 fields) with
  | ok value => exact .accepted _ _ _
  | error own => exact .rejected _ _

theorem passes_fieldParts (properties : List (String × Check Json)) (fields : Json.Fields) :
    List.Forall₂ Part.Passes (fieldParts properties fields)
      (Shape.results ⟨properties, none⟩ fields) := by
  unfold fieldParts Shape.results
  rw [filter_not_declares, ← keys_undeclaredFields, keys, List.map_map]
  -- The declared keys come first, and then the fields of all others.
  apply List.rel_append
  · rw [List.forall₂_map_left_iff, List.forall₂_map_right_iff, List.forall₂_same]
    exact fun property _ => passes_declared property
  · rw [List.forall₂_map_left_iff, List.forall₂_map_right_iff, List.forall₂_same]
    exact fun field _ => .rejected _ _

theorem run_object (shape : Shape) (fields : Json.Fields) :
    (object shape).run (some (.object fields)) =
      (Failure.collect (shape.results fields)).map
        fun accepted => sort accepted.reduceOption := by
  unfold object
  rw [run_ofTransform]
  dsimp only
  cases Failure.collect (shape.results fields) <;> rfl

/-- An accepted object is made of what all results yield. -/
theorem run_object_eq_ok_iff {shape : Shape} :
    (object shape).run (some (.object fields)) = .ok output ↔
      ∃ entries : List (Option (String × Json)),
        shape.results fields = entries.map .ok ∧ sort entries.reduceOption = output := by
  rw [run_object, Failure.map_eq_ok_iff]
  simp only [Failure.collect_eq_ok_iff]

/-- An object is accepted when each check accepts what is under its key, or that it is missing, and
there are no other keys. -/
theorem object_accepts_iff :
    (∃ output, (object ⟨properties, none⟩).run (some (.object fields)) = .ok output) ↔
      (∀ property ∈ properties, ∃ value, property.2.run (get? property.1 fields) = .ok value) ∧
        ∀ key ∈ keys fields, key ∈ keys properties := by
  have collected :
      (∃ output, (object ⟨properties, none⟩).run (some (.object fields)) = .ok output) ↔
        ∃ entries, Failure.collect (Shape.results ⟨properties, none⟩ fields) = .ok entries := by
    simp [run_object_eq_ok_iff, Failure.collect_eq_ok_iff]
  rw [collected, Failure.exists_collect_iff (passes_fieldParts properties fields),
    ← undeclaredKeys_eq_nil_iff]
  simp only [fieldParts, List.forall_mem_append, List.forall_mem_map]
  -- A key that is not declared is a part that is always rejected.
  refine and_congr_right fun _ => ⟨fun expected => ?_, fun none => none ▸ nofun⟩
  rw [List.eq_nil_iff_forall_not_mem]
  intro key member
  obtain ⟨value, accepted⟩ := expected key member
  contradiction

theorem object_reports
    (rejected : (object ⟨properties, none⟩).run (some (.object fields)) = .error failure) :
    Reports (fieldParts properties fields) failure := by
  rw [run_object] at rejected
  cases collected : Failure.collect (Shape.results ⟨properties, none⟩ fields) with
  | ok entries =>
    rw [collected] at rejected
    contradiction
  | error found =>
    rw [collected] at rejected
    obtain rfl := Except.error.inj rejected
    exact .of_collect (passes_fieldParts properties fields) collected

/-- A declared key is accepted when its check accepts what is there. -/
theorem declared_eq_ok_iff {property : String × Check Json} {entry : Option (String × Json)} :
    Shape.declared fields property = .ok entry ↔
      ∃ value, property.2.run (get? property.1 fields) = .ok value ∧
        (if (get? property.1 fields).isSome then some (property.1, value) else none) = entry := by
  unfold Shape.declared
  dsimp only
  cases property.2.run (get? property.1 fields) <;> simp

/-- The fields that come out are those under the declared keys that are present. -/
theorem mem_reduceOption_iff {entries : List (Option (String × Json))} {key : String}
    {value : Json} (same : properties.map (Shape.declared fields) = entries.map .ok) :
    (key, value) ∈ entries.reduceOption ↔
      (get? key fields).isSome = true ∧
        ∃ property ∈ properties,
          property.1 = key ∧ property.2.run (get? key fields) = .ok value := by
  have listed : some (key, value) ∈ entries ↔
      .ok (some (key, value)) ∈ properties.map (Shape.declared fields) := by
    rw [same, List.mem_map_of_injective fun _ _ => Except.ok.inj]
  rw [List.reduceOption_mem_iff, listed, List.mem_map]
  constructor
  · rintro ⟨property, member, made⟩
    obtain ⟨found, yields, entry⟩ := declared_eq_ok_iff.mp made
    obtain ⟨present, here⟩ := Option.ite_none_right_eq_some.mp entry
    obtain ⟨rfl, rfl⟩ := Prod.mk.inj (Option.some.inj here)
    exact ⟨present, property, member, rfl, yields⟩
  · rintro ⟨present, property, member, rfl, yields⟩
    exact ⟨property, member, declared_eq_ok_iff.mpr ⟨value, yields, if_pos present⟩⟩

/-- A declared key yields at most one field, and this under the same key. -/
theorem sublist_keys_reduceOption {entries : List (Option (String × Json))}
    (same : properties.map (Shape.declared fields) = entries.map .ok) :
    (keys entries.reduceOption).Sublist (keys properties) := by
  induction properties generalizing entries with
  | nil =>
    obtain rfl := List.map_eq_nil_iff.mp same.symm
    exact .slnil
  | cons property rest ih =>
    cases entries with
    | nil => contradiction
    | cons entry entries =>
      obtain ⟨here, later⟩ := List.cons.inj same
      obtain ⟨value, -, rfl⟩ := declared_eq_ok_iff.mp here
      cases get? property.1 fields with
      | none => exact (ih later).cons _
      | some _ => exact (ih later).cons_cons _

theorem gathers_sort {entries : List (Option (String × Json))}
    (distinct : (keys properties).Nodup)
    (same : properties.map (Shape.declared fields) = entries.map .ok) :
    Gathers properties fields (sort entries.reduceOption) := by
  have kept := sublist_keys_reduceOption same
  have apart : (keys entries.reduceOption).Nodup := kept.nodup distinct
  refine ⟨fun property listed => ?_, fun key member => ?_, Json.Fields.ordered_sort _⟩
  · have entered : Shape.declared fields property ∈ entries.map Except.ok :=
      same ▸ List.mem_map_of_mem listed
    obtain ⟨entry, -, made⟩ := List.mem_map.mp entered
    obtain ⟨value, yields, -⟩ := declared_eq_ok_iff.mp made.symm
    refine ⟨value, yields, ?_⟩
    rw [Json.Fields.get?_sort apart]
    split
    next present =>
      exact Json.Fields.get?_of_mem apart
        ((mem_reduceOption_iff same).mpr ⟨present, property, listed, rfl, yields⟩)
    next missing =>
      -- A field under the key would come from a declared key that is present.
      rw [Json.Fields.get?_eq_none_iff]
      intro member
      obtain ⟨field, there, sameKey⟩ := List.mem_map.mp member
      exact missing (sameKey ▸ ((mem_reduceOption_iff same).mp there).1)
  · have moved := (Json.Fields.sort_perm apart).map Prod.fst
    exact kept.subset (moved.mem_iff.mp member)

/-- What an accepted object comes out as. -/
theorem gathers_of_run_object (distinct : (keys properties).Nodup)
    (accepted : (object ⟨properties, none⟩).run (some (.object fields)) = .ok output) :
    Gathers properties fields output := by
  have closed := (object_accepts_iff.mp ⟨output, accepted⟩).2
  -- No field is left for the keys that are not declared.
  have expected : undeclaredFields properties fields = [] := by
    rw [← List.map_eq_nil_iff]
    exact (keys_undeclaredFields properties fields).trans (undeclaredKeys_eq_nil_iff.mpr closed)
  obtain ⟨entries, same, rfl⟩ := run_object_eq_ok_iff.mp accepted
  unfold Shape.results at same
  rw [filter_not_declares, expected, List.map_nil, List.append_nil] at same
  exact gathers_sort distinct same

end Objects

/-! ### Together -/

/-- Arrays, tuples of the right length and objects with different declared keys and no others are
accepted when all parts are, and otherwise every rejected part is told of: items in their order,
then declared keys in the order of declaration and the others in the order of the keys. -/
theorem all_or_nothing {α : Type} (item : Check α) (elements : List (Check Json))
    {properties : List (String × Check Json)} (distinct : (keys properties).Nodup) :
    (∀ items, AllOrNothing ((array item).run (some (.array items)))
      (∀ value ∈ items, ∃ output, item.run (some value) = .ok output)
      (List.Forall₂ (fun value output => item.run (some value) = .ok output) items)
      (partsAt (fun value => item.run (some value)) items)) ∧
    (∀ items, items.length = elements.length →
      AllOrNothing ((tuple elements).run (some (.array items)))
        (∀ pair ∈ items.zip elements, ∃ output, pair.2.run (some pair.1) = .ok output)
        (List.Forall₂ (fun pair output => pair.2.run (some pair.1) = .ok output)
          (items.zip elements))
        (partsAt (fun pair => pair.2.run (some pair.1)) (items.zip elements))) ∧
    ∀ fields,
      AllOrNothing ((object ⟨properties, none⟩).run (some (.object fields)))
        ((∀ property ∈ properties, ∃ value,
            property.2.run (get? property.1 fields) = .ok value) ∧
          ∀ key ∈ keys fields, key ∈ keys properties)
        (Gathers properties fields) (fieldParts properties fields) ∧
      (Json.Fields.Ordered fields → (undeclaredKeys properties fields).Pairwise (· < ·)) := by
  refine ⟨fun items => ?_, fun items arity => ?_, fun fields => ⟨?_, pairwise_undeclaredKeys⟩⟩
  · rw [run_array]
    exact allOrNothing_positions _ items
  · rw [run_tuple arity]
    exact allOrNothing_positions _ (items.zip elements)
  · exact {
      accepts_iff := object_accepts_iff
      output := fun _ accepted => gathers_of_run_object distinct accepted
      reports := fun _ rejected => object_reports rejected }

/-- The checks of an account, with a nickname that may be missing. -/
def account : List (String × Check Json) :=
  [("name", string.erase), ("nickname", (optional string).erase), ("admin", boolean.erase)]

/-- A wrong value, a missing one and two keys that are not expected. -/
theorem all_or_nothing_account : (keys account).Nodup ∧ ∃ failure,
    (object ⟨account, none⟩).run
      (some (.object [("age", .null), ("name", .bool true), ("size", .null)])) = .error failure ∧
    Reports (fieldParts account [("age", .null), ("name", .bool true), ("size", .null)]) failure ∧
    failure = ⟨.incorrectType,
      [⟨[.key "name"], "expected a string, received boolean true"⟩,
        ⟨[.key "admin"], "expected a boolean, received undefined"⟩,
        ⟨[.key "age"], "is not an expected property"⟩,
        ⟨[.key "size"], "is not an expected property"⟩]⟩ := by
  have distinct : (keys account).Nodup := by decide
  obtain ⟨answers, -⟩ := (all_or_nothing string [] distinct).2.2
    [("age", .null), ("name", .bool true), ("size", .null)]
  refine ⟨distinct, _, ?_, answers.reports _ ?_, rfl⟩ <;> rfl

end Check

end ChatCommand
