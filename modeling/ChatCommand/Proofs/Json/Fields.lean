import ChatCommand.Json.Basic

/-!
# Sorted fields

Sorting the fields of an object keeps every value under its key, as long as no key comes twice. It
only puts the fields into another order then.

## Main results

- `get?_eq_some_iff`: among fields with different keys, each is found.
- `sort_perm`, `get?_sort`: sorting loses no field and makes none up.
-/

namespace ChatCommand.Json.Fields

variable {α : Type} {key : String} {value : α} {fields sorted : List (String × α)}

/-! ### Fields with different keys -/

theorem get?_eq_none_iff : get? key fields = none ↔ key ∉ keys fields := by
  induction fields with
  | nil => simp [keys]
  | cons field rest ih =>
    obtain ⟨k, old⟩ := field
    simp only [get?, keys, List.map_cons, List.mem_cons, not_or]
    by_cases same : k = key
    · simp [same]
    · simpa [same, Ne.symm same, keys] using ih

theorem mem_of_get? (found : get? key fields = some value) : (key, value) ∈ fields := by
  induction fields with
  | nil => contradiction
  | cons field rest ih =>
    obtain ⟨k, old⟩ := field
    unfold get? at found
    split at found
    next same =>
      obtain rfl := Option.some.inj found
      exact same ▸ List.mem_cons_self
    next => exact List.mem_cons_of_mem _ (ih found)

theorem get?_of_mem (distinct : (keys fields).Nodup) (member : (key, value) ∈ fields) :
    get? key fields = some value := by
  induction fields with
  | nil => contradiction
  | cons field rest ih =>
    obtain ⟨fresh, distinct⟩ := List.nodup_cons.mp distinct
    unfold get?
    rcases List.mem_cons.mp member with rfl | later
    · exact if_pos rfl
    · have other : field.1 ≠ key := by
        rintro rfl
        exact fresh (List.mem_map.mpr ⟨_, later, rfl⟩)
      rw [if_neg other]
      exact ih distinct later

theorem get?_eq_some_iff (distinct : (keys fields).Nodup) :
    get? key fields = some value ↔ (key, value) ∈ fields :=
  ⟨mem_of_get?, get?_of_mem distinct⟩

/-- The order of fields with different keys does not matter. -/
theorem get?_eq_of_perm (perm : fields.Perm sorted) (distinct : (keys fields).Nodup) :
    get? key fields = get? key sorted := by
  have distinctToo : (keys sorted).Nodup := (perm.map Prod.fst).nodup_iff.mp distinct
  ext value
  rw [get?_eq_some_iff distinct, get?_eq_some_iff distinctToo, perm.mem_iff]

theorem get?_map {β : Type} (f : α → β) (fields : List (String × α)) (key : String) :
    get? key (fields.map fun field => (field.1, f field.2)) = (get? key fields).map f := by
  induction fields with
  | nil => rfl
  | cons field rest ih =>
    simp only [List.map_cons, get?, ih]
    split <;> rfl

/-! ### Orders of fields -/

/-- A field with a new key is put in somewhere, and nothing else happens. -/
theorem insert_perm (fresh : key ∉ keys fields) :
    (insert key value fields).Perm ((key, value) :: fields) := by
  induction fields with
  | nil => exact .refl _
  | cons field rest ih =>
    obtain ⟨k, old⟩ := field
    have different : key ≠ k := by
      rintro rfl
      exact fresh List.mem_cons_self
    have absent : key ∉ keys rest := fun later => fresh (List.mem_cons_of_mem k later)
    unfold insert
    rw [if_neg different]
    split
    · exact .refl _
    · exact ((ih absent).cons _).trans (.swap _ _ _)

theorem foldl_insert_perm (distinct : (keys fields ++ keys sorted).Nodup) :
    (fields.foldl (fun sorted field => insert field.1 field.2 sorted) sorted).Perm
      (fields ++ sorted) := by
  induction fields generalizing sorted with
  | nil => exact .refl _
  | cons field rest ih =>
    obtain ⟨fresh, distinct⟩ := List.nodup_cons.mp distinct
    have inserted : (insert field.1 field.2 sorted).Perm (field :: sorted) :=
      insert_perm fun earlier => fresh (List.mem_append_right _ earlier)
    -- The key put in is among those of the fields that are sorted already.
    have apart : (keys rest ++ keys (insert field.1 field.2 sorted)).Nodup := by
      have moved : (keys rest ++ keys (insert field.1 field.2 sorted)).Perm
          (field.1 :: (keys rest ++ keys sorted)) :=
        ((inserted.map Prod.fst).append_left _).trans List.perm_middle
      exact moved.nodup_iff.mpr (List.nodup_cons.mpr ⟨fresh, distinct⟩)
    exact (ih apart).trans ((inserted.append_left rest).trans List.perm_middle)

/-- Sorting puts fields with different keys into another order. -/
theorem sort_perm (distinct : (keys fields).Nodup) : (sort fields).Perm fields := by
  have apart : (keys fields ++ keys ([] : List (String × α))).Nodup := by
    simpa [keys] using distinct
  have moved := foldl_insert_perm apart
  rwa [List.append_nil] at moved

theorem get?_sort (distinct : (keys fields).Nodup) : get? key (sort fields) = get? key fields :=
  (get?_eq_of_perm (sort_perm distinct).symm distinct).symm

theorem get?_sort_of_mem (distinct : (keys fields).Nodup) (member : (key, value) ∈ fields) :
    get? key (sort fields) = some value :=
  (get?_sort distinct).trans (get?_of_mem distinct member)

end ChatCommand.Json.Fields
