import ChatCommand.Proofs.Json.Fields
import Mathlib.Data.List.Dedup
import Mathlib.Data.List.Nodup
import Mathlib.Data.String.Basic

/-!
# Fields in the order of their keys

The fields of an object come in increasing order of their keys, so there is one field a key. Putting
a field in keeps them so, and two such objects are equal when the same is found under every key.
Fields under equal keys become one field when they are sorted, and the last one of them stays.

## Main definitions

- `Json.Fields.Ordered`: the keys increase.

## Main results

- `Ordered.insert`, `ordered_sort`: the order is kept and made.
- `Ordered.ext`: objects with the same values under the same keys.
- `get?_sort_eq_reverse`, `keys_sort_perm`: sorting fields whose keys may be equal.
-/

namespace ChatCommand.Json.Fields

variable {α : Type} {key other : String} {value : α} {fields others : List (String × α)}

/-- The keys increase from field to field. -/
def Ordered (fields : List (String × α)) : Prop := (keys fields).Pairwise (· < ·)

theorem ordered_cons_iff :
    Ordered ((key, value) :: fields) ↔ (∀ other ∈ keys fields, key < other) ∧ Ordered fields :=
  List.pairwise_cons

theorem Ordered.nodup (ordered : Ordered fields) : (keys fields).Nodup :=
  List.Pairwise.nodup ordered

theorem mem_keys_insert_iff :
    other ∈ keys (insert key value fields) ↔ other = key ∨ other ∈ keys fields := by
  rw [← not_iff_not, not_or, ← get?_eq_none_iff, ← get?_eq_none_iff, get?_insert]
  split
  next same => simp [same]
  next different => simp [Ne.symm different]

/-- A field that is put in among fields in order finds its place. -/
theorem Ordered.insert (ordered : Ordered fields) (key : String) (value : α) :
    Ordered (insert key value fields) := by
  induction fields with
  | nil => exact List.pairwise_singleton _ _
  | cons field rest ih =>
    obtain ⟨k, old⟩ := field
    obtain ⟨below, later⟩ := ordered_cons_iff.mp ordered
    unfold Fields.insert
    split
    next same => exact ordered_cons_iff.mpr ⟨same ▸ below, later⟩
    next different =>
      split
      next before =>
        refine ordered_cons_iff.mpr ⟨List.forall_mem_cons.mpr ⟨before, ?_⟩, ordered⟩
        exact fun other member => before.trans (below other member)
      next notBefore =>
        -- The new field goes in further on, and its key is not below the first one.
        refine ordered_cons_iff.mpr ⟨fun other member => ?_, ih later⟩
        rcases mem_keys_insert_iff.mp member with rfl | member
        · exact lt_of_le_of_ne (not_lt.mp notBefore) (Ne.symm different)
        · exact below other member

theorem ordered_foldl_insert (ordered : Ordered others) :
    Ordered (fields.foldl (fun sorted field => Fields.insert field.1 field.2 sorted) others) := by
  induction fields generalizing others with
  | nil => exact ordered
  | cons field rest ih => exact ih (ordered.insert field.1 field.2)

/-- Whatever the fields were, sorting puts them into order. -/
theorem ordered_sort (fields : List (String × α)) : Ordered (sort fields) :=
  ordered_foldl_insert List.Pairwise.nil

/-- Fields in order are determined by what is found under the keys. -/
theorem Ordered.ext (ordered : Ordered fields) (orderedToo : Ordered others)
    (same : ∀ key, get? key fields = get? key others) : fields = others := by
  -- They have the same fields, and there is one way to put these into order.
  have perm : fields.Perm others := by
    rw [List.perm_ext_iff_of_nodup (List.Nodup.of_map _ ordered.nodup)
      (List.Nodup.of_map _ orderedToo.nodup)]
    rintro ⟨key, value⟩
    constructor
    · intro member
      exact mem_of_get? (same key ▸ get?_of_mem ordered.nodup member)
    · intro member
      exact mem_of_get? ((same key).trans (get?_of_mem orderedToo.nodup member))
  refine perm.eq_of_pairwise ?_ (List.pairwise_map.mp ordered) (List.pairwise_map.mp orderedToo)
  intro field _ _ _ before behind
  exact absurd (before.trans behind) (lt_irrefl _)

/-! ### Fields under equal keys -/

theorem get?_append (fields others : List (String × α)) :
    get? key (fields ++ others) = (get? key fields).or (get? key others) := by
  induction fields with
  | nil => rfl
  | cons field rest ih =>
    simp only [List.cons_append, get?, ih]
    split <;> rfl

theorem get?_foldl_insert :
    get? key (fields.foldl (fun sorted field => Fields.insert field.1 field.2 sorted) others) =
      (get? key fields.reverse).or (get? key others) := by
  induction fields generalizing others with
  | nil => rfl
  | cons field rest ih =>
    rw [List.foldl_cons, ih, get?_insert, List.reverse_cons, get?_append, Option.or_assoc]
    simp only [get?]
    split <;> rfl

/-- The last field under a key is the one that stays. -/
theorem get?_sort_eq_reverse (fields : List (String × α)) :
    get? key (sort fields) = get? key fields.reverse :=
  get?_foldl_insert.trans (Option.or_none)

/-- Every key stays, once. -/
theorem keys_sort_perm (fields : List (String × α)) :
    (keys (sort fields)).Perm (keys fields).dedup := by
  rw [List.perm_ext_iff_of_nodup (ordered_sort fields).nodup (List.nodup_dedup _)]
  intro key
  rw [List.mem_dedup, ← not_iff_not, ← get?_eq_none_iff, get?_sort_eq_reverse, get?_eq_none_iff,
    keys, keys, List.map_reverse, List.mem_reverse]

end ChatCommand.Json.Fields
