import ChatCommand.Proofs.Check.Parts

/-!
# Objects with declared keys only

An object that has no other than the declared keys is accepted when the check of each key accepts
what is there. Otherwise the explanations of all the checks that reject it come one after the other,
in the order of declaration.

## Main results

- `Check.exists_run_object_iff`, `Check.run_object_eq_ok`, `Check.run_object_eq_error`: objects that
  have no other than the declared keys.
-/

namespace ChatCommand.Check

open Json.Fields (get? keys)

variable {properties : List (String × Check Json)} {fields record : Json.Fields}
  {failure : Failure}

/-- An object is accepted when each check accepts what is under its key. -/
theorem exists_run_object_iff (closed : ∀ field ∈ fields, field.1 ∈ keys properties) :
    (∃ record, (object ⟨properties, none⟩).run (some (.object fields)) = .ok record) ↔
      ∀ property ∈ properties, ∃ value, property.2.run (get? property.1 fields) = .ok value :=
  object_accepts_iff.trans (and_iff_left (List.forall_mem_map.mpr closed))

/-- An object with just the declared keys is accepted with the same keys, and under each is what its
check yields. -/
theorem run_object_eq_ok (present : ∀ property ∈ properties, (get? property.1 fields).isSome = true)
    (distinct : (keys properties).Nodup)
    (accepted : (object ⟨properties, none⟩).run (some (.object fields)) = .ok record) :
    (keys record).Perm (keys properties) ∧
      ∀ property ∈ properties, ∃ value,
        property.2.run (get? property.1 fields) = .ok value ∧
          get? property.1 record = some value := by
  obtain ⟨value_eq, declared, ordered⟩ := gathers_of_run_object distinct accepted
  have each : ∀ property ∈ properties, ∃ value,
      property.2.run (get? property.1 fields) = .ok value ∧
        get? property.1 record = some value := by
    intro property listed
    obtain ⟨value, yields, found⟩ := value_eq property listed
    rw [if_pos (present property listed)] at found
    exact ⟨value, yields, found⟩
  refine ⟨?_, each⟩
  rw [List.perm_ext_iff_of_nodup ordered.nodup distinct]
  refine fun key => ⟨declared key, fun member => ?_⟩
  obtain ⟨property, listed, rfl⟩ := List.mem_map.mp member
  obtain ⟨value, -, found⟩ := each property listed
  exact List.mem_map_of_mem (Json.Fields.mem_of_get? found)

/-- The explanations of the checks that reject what is under their keys come in the order of
declaration, each under its key, and one of these checks gives the kind. -/
theorem run_object_eq_error (closed : ∀ field ∈ fields, field.1 ∈ keys properties)
    (rejected : (object ⟨properties, none⟩).run (some (.object fields)) = .error failure) :
    failure.information = properties.flatMap (fun property =>
      (Failure.explanationsOf (property.2.run (get? property.1 fields))).map
        (Explanation.under (.key property.1))) ∧
    ∃ property ∈ properties, ∃ own,
      property.2.run (get? property.1 fields) = .error own ∧ own.kind = failure.kind := by
  have parts : fieldParts properties fields = properties.map fun property =>
      ⟨.key property.1, property.2.run (get? property.1 fields)⟩ := by
    unfold fieldParts
    rw [undeclaredKeys_eq_nil_iff.mpr (List.forall_mem_map.mpr closed), List.map_nil,
      List.append_nil]
  obtain ⟨information_eq, kind_eq⟩ := object_reports rejected
  rw [parts] at information_eq kind_eq
  refine ⟨information_eq.trans (List.flatMap_map _ _ _), ?_⟩
  obtain ⟨part, member, kind⟩ := List.exists_of_findSome?_eq_some kind_eq
  obtain ⟨property, listed, rfl⟩ := List.mem_map.mp member
  refine ⟨property, listed, ?_⟩
  cases ran : property.2.run (get? property.1 fields) with
  | ok value =>
    rw [ran] at kind
    contradiction
  | error own =>
    rw [ran] at kind
    exact ⟨own, rfl, Option.some.inj kind⟩

end ChatCommand.Check
