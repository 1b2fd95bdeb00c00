import ChatCommand.Proofs.Check.Parts
import ChatCommand.Text.Ascii

/-!
# Objects that allow other keys

An object may allow keys that are not declared, when these pass a check and what is under them
passes another. The check may rewrite a key, and the value goes under the new key then. Only the old
key is compared with the declared ones, and new keys are compared with nothing. So what the check of
a declared key yields can be replaced by a value that this check never saw, and fields whose new
keys are equal become one.

## Main definitions

- `Check.Keeps`: every field comes out, and what is under a declared key comes from its own check.
- `Check.Merges`: what comes out of which fields.

## Main results

- `Check.merges_of_run_object`: what an accepted object comes out as.
- `Check.keeps_of_unchanged`: nothing is lost when the keys stay as they are.
- `Check.keeps_iff_nodup`: everything is kept just when no two entries go under one key.
-/

namespace ChatCommand.Check

open Json.Fields (get? keys)

variable {properties : List (String × Check Json)} {others : Check String × Check Json}
  {fields output own renamed : Json.Fields}

/-- The declared keys that are present, with their checks. -/
def presentProperties (properties : List (String × Check Json)) (fields : Json.Fields) :
    List (String × Check Json) :=
  properties.filter fun property => (get? property.1 fields).isSome

/-- Under each declared key that is present the output has what its own check yields, and there are
as many fields as in the input. -/
structure Keeps (properties : List (String × Check Json)) (fields output : Json.Fields) :
    Prop where
  value_eq : ∀ property ∈ properties, (get? property.1 fields).isSome = true → ∃ value,
    property.2.run (get? property.1 fields) = .ok value ∧ get? property.1 output = some value
  length_eq : output.length = fields.length

/-- The output is made of the entries for the declared keys that are present and of those for all
other fields, which go under their new keys. -/
structure Merges (properties : List (String × Check Json)) (others : Check String × Check Json)
    (fields output own renamed : Json.Fields) : Prop where
  yielded : List.Forall₂
    (fun property entry =>
      entry.1 = property.1 ∧ property.2.run (get? property.1 fields) = .ok entry.2)
    (presentProperties properties fields) own
  rewritten : List.Forall₂
    (fun field entry =>
      others.1.run (some (.text field.1)) = .ok entry.1 ∧
        others.2.run (some field.2) = .ok entry.2)
    (undeclaredFields properties fields) renamed
  /-- Of the other fields the last one under a key counts, and any of them before a declared one. -/
  get?_eq : ∀ key, get? key output = (get? key renamed.reverse).or (get? key own)
  keys_perm : (keys output).Perm (keys own ++ keys renamed).dedup
  ordered : Json.Fields.Ordered output

/-! ### What the checks yield -/

theorem forall₂_presentProperties {entries : List (Option (String × Json))}
    (same : properties.map (Shape.declared fields) = entries.map .ok) :
    List.Forall₂
      (fun property entry =>
        entry.1 = property.1 ∧ property.2.run (get? property.1 fields) = .ok entry.2)
      (presentProperties properties fields) entries.reduceOption := by
  induction properties generalizing entries with
  | nil =>
    obtain rfl := List.map_eq_nil_iff.mp same.symm
    exact .nil
  | cons property rest ih =>
    cases entries with
    | nil => contradiction
    | cons entry entries =>
      obtain ⟨here, later⟩ := List.cons.inj same
      obtain ⟨value, yields, rfl⟩ := declared_eq_ok_iff.mp here
      unfold presentProperties
      by_cases present : (get? property.1 fields).isSome = true
      · rw [if_pos present, List.filter_cons, if_pos present, List.reduceOption_cons_of_some]
        exact .cons ⟨rfl, yields⟩ (ih later)
      · rw [if_neg present, List.filter_cons, if_neg present, List.reduceOption_cons_of_none]
        exact ih later

/-- A field whose key is not declared is accepted when its key and its value are. -/
theorem undeclared_eq_ok_iff {field : String × Json} {entry : Option (String × Json)} :
    Shape.undeclared ⟨properties, some others⟩ field = .ok entry ↔
      ∃ key value, others.1.run (some (.text field.1)) = .ok key ∧
        others.2.run (some field.2) = .ok value ∧ some (key, value) = entry := by
  obtain ⟨keyCheck, valueCheck⟩ := others
  unfold Shape.undeclared
  dsimp only
  cases keyCheck.run (some (.text field.1)) with
  | error failure => exact ⟨nofun, fun ⟨_, _, accepted, _⟩ => nomatch accepted⟩
  | ok key =>
    cases valueCheck.run (some field.2) with
    | error failure => exact ⟨nofun, fun ⟨_, _, _, accepted, _⟩ => nomatch accepted⟩
    | ok value =>
      show Except.ok (some (key, value)) = Except.ok entry ↔ _
      simp

theorem forall₂_undeclared {entries : List (Option (String × Json))}
    (same : fields.map (Shape.undeclared ⟨properties, some others⟩) = entries.map .ok) :
    List.Forall₂
      (fun field entry =>
        others.1.run (some (.text field.1)) = .ok entry.1 ∧
          others.2.run (some field.2) = .ok entry.2)
      fields entries.reduceOption := by
  induction fields generalizing entries with
  | nil =>
    obtain rfl := List.map_eq_nil_iff.mp same.symm
    exact .nil
  | cons field rest ih =>
    cases entries with
    | nil => contradiction
    | cons entry entries =>
      obtain ⟨here, later⟩ := List.cons.inj same
      obtain ⟨key, value, renames, yields, rfl⟩ := undeclared_eq_ok_iff.mp here
      exact .cons ⟨renames, yields⟩ (ih later)

theorem keys_eq_of_forall₂ {α β : Type} {fields : List (String × α)}
    {entries : List (String × β)}
    (each : List.Forall₂ (fun field entry => entry.1 = field.1) fields entries) :
    keys entries = keys fields := by
  induction each with
  | nil => rfl
  | cons first _ ih => exact congrArg₂ List.cons first ih

/-- What an accepted object comes out as. -/
theorem merges_of_run_object (distinct : (keys properties).Nodup)
    (accepted : (object ⟨properties, some others⟩).run (some (.object fields)) = .ok output) :
    ∃ own renamed, Merges properties others fields output own renamed := by
  obtain ⟨entries, same, rfl⟩ := run_object_eq_ok_iff.mp accepted
  unfold Shape.results at same
  rw [filter_not_declares] at same
  -- The entries of the declared keys come first, and then those of all other fields.
  obtain ⟨front, back, rfl, atFront, atBack⟩ := List.append_eq_map_iff.mp same
  have yielded := forall₂_presentProperties atFront.symm
  have apart : (keys front.reduceOption).Nodup := by
    rw [keys_eq_of_forall₂ (yielded.imp fun _ _ both => both.1)]
    exact (List.filter_sublist.map Prod.fst).nodup distinct
  rw [List.reduceOption_append]
  refine ⟨front.reduceOption, back.reduceOption, yielded, forall₂_undeclared atBack.symm,
    fun key => ?_, ?_, Json.Fields.ordered_sort _⟩
  · rw [Json.Fields.get?_sort_eq_reverse, List.reverse_append, Json.Fields.get?_append]
    congr 1
    exact (Json.Fields.get?_eq_of_perm (List.reverse_perm _).symm apart).symm
  · have listed : keys (front.reduceOption ++ back.reduceOption) =
        keys front.reduceOption ++ keys back.reduceOption := List.map_append
    rw [← listed]
    exact Json.Fields.keys_sort_perm _

/-! ### What is kept -/

theorem mem_keys_presentProperties_iff {key : String} :
    key ∈ keys (presentProperties properties fields) ↔
      key ∈ keys properties ∧ key ∈ keys fields := by
  have present (property : String × Check Json) :
      (get? property.1 fields).isSome = true ↔ property.1 ∈ keys fields := by
    rw [← not_iff_not, ← Json.Fields.get?_eq_none_iff, Option.not_isSome_iff_eq_none]
  constructor
  · intro member
    obtain ⟨property, kept, rfl⟩ := List.mem_map.mp member
    obtain ⟨listed, there⟩ := List.mem_filter.mp kept
    exact ⟨List.mem_map_of_mem listed, (present property).mp there⟩
  · rintro ⟨declared, there⟩
    obtain ⟨property, listed, rfl⟩ := List.mem_map.mp declared
    exact List.mem_map_of_mem (List.mem_filter.mpr ⟨listed, (present property).mpr there⟩)

/-- Every key of the input is a declared one or another one. -/
theorem keys_append_perm (distinct : (keys properties).Nodup)
    (ordered : Json.Fields.Ordered fields) :
    (keys (presentProperties properties fields) ++ undeclaredKeys properties fields).Perm
      (keys fields) := by
  have other (key : String) :
      key ∈ undeclaredKeys properties fields ↔ key ∈ keys fields ∧ key ∉ keys properties := by
    simp [undeclaredKeys]
  have apart : (keys (presentProperties properties fields) ++
      undeclaredKeys properties fields).Nodup := by
    refine List.nodup_append'.mpr ⟨(List.filter_sublist.map Prod.fst).nodup distinct,
      ordered.nodup.filter _, fun key declared undeclared => ?_⟩
    exact ((other key).mp undeclared).2 (mem_keys_presentProperties_iff.mp declared).1
  rw [List.perm_ext_iff_of_nodup apart ordered.nodup]
  intro key
  rw [List.mem_append, mem_keys_presentProperties_iff, other]
  tauto

namespace Merges

theorem keys_own (merges : Merges properties others fields output own renamed) :
    keys own = keys (presentProperties properties fields) :=
  keys_eq_of_forall₂ (merges.yielded.imp fun _ _ both => both.1)

theorem length_output (merges : Merges properties others fields output own renamed) :
    output.length = (keys own ++ keys renamed).dedup.length := by
  rw [← merges.keys_perm.length_eq, keys, List.length_map]

/-- There is one entry for each field of the input. -/
theorem length_entries (merges : Merges properties others fields output own renamed)
    (distinct : (keys properties).Nodup) (ordered : Json.Fields.Ordered fields) :
    (keys own ++ keys renamed).length = fields.length := by
  have counted := (keys_append_perm distinct ordered).length_eq
  rw [← keys_undeclaredFields] at counted
  simp only [keys, List.length_append, List.length_map] at counted ⊢
  rw [← merges.yielded.length_eq, ← merges.rewritten.length_eq, counted]

/-- The output has as many fields as the input just when no two entries go under one key. -/
theorem length_eq_iff (merges : Merges properties others fields output own renamed)
    (distinct : (keys properties).Nodup) (ordered : Json.Fields.Ordered fields) :
    output.length = fields.length ↔ (keys own ++ keys renamed).Nodup := by
  rw [merges.length_output, ← merges.length_entries distinct ordered]
  -- What is left of the keys is as long as all of them just when none was dropped.
  constructor
  · intro same
    exact List.dedup_eq_self.mp ((List.dedup_sublist _).eq_of_length same)
  · intro apart
    rw [List.dedup_eq_self.mpr apart]

/-- Under a declared key there is what its own check yields, unless another field goes under that
key. -/
theorem exists_get?_eq (merges : Merges properties others fields output own renamed)
    (distinct : (keys properties).Nodup) {property : String × Check Json}
    (listed : property ∈ properties) (present : (get? property.1 fields).isSome = true)
    (fresh : property.1 ∉ keys renamed) :
    ∃ value, property.2.run (get? property.1 fields) = .ok value ∧
      get? property.1 output = some value := by
  have member : property ∈ presentProperties properties fields :=
    List.mem_filter.mpr ⟨listed, present⟩
  -- The entry for the key stands where the key stands, and no other field goes before it.
  obtain ⟨index, bound, rfl⟩ := List.mem_iff_getElem.mp member
  have within : index < own.length := merges.yielded.length_eq ▸ bound
  obtain ⟨sameKey, yields⟩ := merges.yielded.get bound within
  have apart : (keys own).Nodup := by
    rw [merges.keys_own]
    exact (List.filter_sublist.map Prod.fst).nodup distinct
  refine ⟨own[index].2, yields, ?_⟩
  rw [merges.get?_eq, Json.Fields.get?_eq_none_iff.mpr, Option.none_or]
  · exact Json.Fields.get?_of_mem apart (sameKey ▸ List.getElem_mem within)
  · rwa [keys, List.map_reverse, List.mem_reverse]

theorem keeps_iff (merges : Merges properties others fields output own renamed)
    (distinct : (keys properties).Nodup) (ordered : Json.Fields.Ordered fields) :
    Keeps properties fields output ↔ (keys own ++ keys renamed).Nodup := by
  rw [← merges.length_eq_iff distinct ordered]
  refine ⟨Keeps.length_eq, fun counted => ⟨fun property listed present => ?_, counted⟩⟩
  refine merges.exists_get?_eq distinct listed present fun other => ?_
  have declared : property.1 ∈ keys own := by
    rw [merges.keys_own]
    exact List.mem_map_of_mem (List.mem_filter.mpr ⟨listed, present⟩)
  have apart := (merges.length_eq_iff distinct ordered).mp counted
  exact List.disjoint_of_nodup_append apart declared other

end Merges

/-- Where the check of other keys leaves the keys alone, everything is kept. -/
theorem keeps_of_unchanged (distinct : (keys properties).Nodup)
    (ordered : Json.Fields.Ordered fields)
    (unchanged : ∀ key new, others.1.run (some (.text key)) = .ok new → new = key)
    (accepted : (object ⟨properties, some others⟩).run (some (.object fields)) = .ok output) :
    Keeps properties fields output := by
  obtain ⟨own, renamed, merges⟩ := merges_of_run_object distinct accepted
  have same : keys renamed = undeclaredKeys properties fields := by
    rw [← keys_undeclaredFields]
    exact keys_eq_of_forall₂ (merges.rewritten.imp fun _ _ both => unchanged _ _ both.1)
  rw [merges.keeps_iff distinct ordered, same, merges.keys_own,
    (keys_append_perm distinct ordered).nodup_iff]
  exact ordered.nodup

/-- Of an accepted object everything is kept just when no two entries go under one key, be it a
declared one or one that the check of other keys has made. -/
theorem keeps_iff_nodup (distinct : (keys properties).Nodup)
    (ordered : Json.Fields.Ordered fields)
    (accepted : (object ⟨properties, some others⟩).run (some (.object fields)) = .ok output) :
    ∃ own renamed, Merges properties others fields output own renamed ∧
      (Keeps properties fields output ↔ (keys own ++ keys renamed).Nodup) := by
  obtain ⟨own, renamed, merges⟩ := merges_of_run_object distinct accepted
  exact ⟨own, renamed, merges, merges.keeps_iff distinct ordered⟩

/-- A flag that goes under another name than it is written by. -/
theorem keeps_iff_nodup_owner :
    (keys [("admin", boolean.erase)]).Nodup ∧
    Json.Fields.Ordered [("Owner", Json.null), ("admin", .bool true)] ∧
    (object ⟨[("admin", boolean.erase)], some (string.normalize Text.lowerAscii, any)⟩).run
      (some (.object [("Owner", .null), ("admin", .bool true)])) =
      .ok [("admin", .bool true), ("owner", .null)] ∧
    ∃ own renamed,
      Merges [("admin", boolean.erase)] (string.normalize Text.lowerAscii, any)
        [("Owner", .null), ("admin", .bool true)] [("admin", .bool true), ("owner", .null)]
        own renamed ∧
      (keys own ++ keys renamed).Nodup := by
  have distinct : (keys [("admin", boolean.erase)]).Nodup := by decide
  have ordered : Json.Fields.Ordered [("Owner", Json.null), ("admin", .bool true)] :=
    List.pairwise_pair.mpr (by decide)
  have accepted : (object ⟨[("admin", boolean.erase)],
      some (string.normalize Text.lowerAscii, any)⟩).run
      (some (.object [("Owner", .null), ("admin", .bool true)])) =
      .ok [("admin", .bool true), ("owner", .null)] := rfl
  obtain ⟨own, renamed, merges, kept⟩ := keeps_iff_nodup distinct ordered accepted
  refine ⟨distinct, ordered, accepted, own, renamed, merges, kept.mp ⟨?_, rfl⟩⟩
  intro property listed _
  obtain rfl := List.mem_singleton.mp listed
  exact ⟨.bool true, rfl, rfl⟩

/-- A key that is declared is taken by another one in lower case: a flag has a text in the end,
which its check never saw, and one of two fields is left. -/
theorem not_forall_keeps :
    ¬ ∀ (properties : List (String × Check Json)) (others : Check String × Check Json)
      (fields output : Json.Fields), (keys properties).Nodup → Json.Fields.Ordered fields →
        (object ⟨properties, some others⟩).run (some (.object fields)) = .ok output →
          Keeps properties fields output := by
  intro always
  have ordered : Json.Fields.Ordered [("Admin", Json.text "yes"), ("admin", .bool true)] :=
    List.pairwise_pair.mpr (by decide)
  obtain ⟨value_eq, -⟩ := always [("admin", boolean.erase)]
    (string.normalize Text.lowerAscii, any) [("Admin", .text "yes"), ("admin", .bool true)]
    [("admin", .text "yes")] (by decide) ordered rfl
  obtain ⟨value, yields, found⟩ := value_eq _ List.mem_cons_self rfl
  obtain rfl : Json.bool true = value := Except.ok.inj yields
  exact absurd (Option.some.inj found) nofun

end ChatCommand.Check
