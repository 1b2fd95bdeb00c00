import ChatCommand.Manifest.Json
import ChatCommand.Proofs.Json.Reading

/-!
# Manifests read back from JSON

A manifest is read back from its form, however the form is spelled: each part is read back from
its own form, and a part that is missing gets the value that it was left out for.

## Main results

- `Constraint.decode_ownFields`: the fields of a constraint give the constraint back.
- `Manifest.reads_toJson`: a manifest is read back from its form.
- `Manifest.ofJson_of_spells`: so it is from every text that spells the form.
-/

namespace ChatCommand

open Json Json.Reader

/-! ### Content -/

namespace Content

theorem word_ofInt {n size : Nat} (expected : String) (fits : n < size) :
    word expected size (.ofJson (.ofInt n)) = .ok n :=
  if_pos ⟨Int.natCast_nonneg n, Int.ofNat_lt.mpr fits⟩

theorem mapM_string (values : List String) :
    (ofJson.ofItems (values.map .text)).mapM string = .ok values := by
  induction values with
  | nil => rfl
  | cons value values ih =>
    rw [List.map_cons, ofJson.ofItems, List.mapM_cons, ih]
    rfl

/-- A field that has not come yet is read into its slot. -/
theorem fields_cons {α : Type} {names : List String} {read : Content → Except Mismatch α}
    {slots : List (Option α)} {key : String} {position : Nat} {value : Content} {a : α}
    {rest : List (Content × Content)} (named : names.idxOf? key = some position)
    (free : slots[position]?.join = none) (reads : read value = .ok a) :
    fields names read slots ((.text key, value) :: rest) =
      fields names read (slots.set position (some a)) rest := by
  have found : fieldOf names (.text key) = .ok (some position) := congrArg Except.ok named
  rw [fields, found]
  simp only [Bind.bind, Except.bind, free, reads]

end Content

/-! ### Constraints -/

namespace Constraint

section Numbers

variable {α : Type} {read : Content → Except Mismatch α} {toNat : α → Nat}

/-- A number that may be missing is read into its slot. -/
theorem fields_numberField {names : List String} {slots : List (Option (Option α))} {key : String}
    {position : Nat} (named : names.idxOf? key = some position)
    (free : slots[position]? = some none)
    (reads : ∀ a, read (.ofJson (.ofInt (toNat a))) = .ok a) (n : Option α) (rest : Fields) :
    Content.fields names (Content.optional read) slots
        (Content.ofJson.ofFields (numberField key (n.map toNat) ++ rest)) =
      Content.fields names (Content.optional read) (slots.set position (n.map some))
        (Content.ofJson.ofFields rest) := by
  cases n with
  | none =>
    obtain ⟨within, empty⟩ := List.getElem?_eq_some_iff.mp free
    have same : slots.set position none = slots := empty ▸ List.set_getElem_self within
    rw [Option.map_none, Option.map_none, same]
    rfl
  | some a =>
    have given : Content.optional read (.ofJson (.ofInt (toNat a))) = .ok (some a) := by
      show some <$> read (.ofJson (.ofInt (toNat a))) = .ok (some a)
      rw [reads]
      rfl
    exact Content.fields_cons named (by rw [free]; rfl) given

theorem bounds_numberField {low high : String} (apart : low ≠ high)
    (reads : ∀ a, read (.ofJson (.ofInt (toNat a))) = .ok a) (min max : Option α) :
    Tagged.bounds low high read (.fields (Content.ofJson.ofFields
      (numberField low (min.map toNat) ++ numberField high (max.map toNat)))) = .ok (min, max) := by
  have first : [low, high].idxOf? low = some 0 := by simp [List.idxOf?_cons]
  have second : [low, high].idxOf? high = some 1 := by simp [List.idxOf?_cons, apart]
  unfold Tagged.bounds
  dsimp only
  rw [fields_numberField first rfl reads min, ← List.append_nil (numberField high _),
    fields_numberField second (by cases min <;> rfl) reads max]
  cases min <;> cases max <;> rfl

theorem length_numberField (name : String)
    (reads : ∀ a, read (.ofJson (.ofInt (toNat a))) = .ok a) (n : Option α) :
    Tagged.length name read (.fields (Content.ofJson.ofFields (numberField name (n.map toNat)))) =
      .ok n := by
  have first : [name].idxOf? name = some 0 := by simp [List.idxOf?_cons]
  unfold Tagged.length
  dsimp only
  rw [← List.append_nil (numberField _ _), fields_numberField first rfl reads n]
  cases n
  all_goals rfl

end Numbers

theorem size_ofInt (n : UInt64) : Tagged.size (.ofJson (.ofInt n.toNat)) = .ok n := by
  unfold Tagged.size
  rw [Content.word_ofInt _ n.toNat_lt_size]
  simp

theorem bound_ofInt (n : UInt32) : Tagged.bound (.ofJson (.ofInt n.toNat)) = .ok n := by
  unfold Tagged.bound
  rw [Content.word_ofInt _ n.toNat_lt_size]
  simp

/-- The fields of a constraint, with its kind, give the constraint back. -/
theorem decode_ownFields (constraint : Constraint) :
    Tagged.decode ⟨constraint.kind, .fields (Content.ofJson.ofFields constraint.ownFields)⟩ =
      .ok constraint := by
  -- A kind with fields of its own reads them one by one; the other kinds have none.
  cases constraint with
  | string min max =>
    have apart : "min_length" ≠ "max_length" := by decide
    have read := bounds_numberField apart size_ofInt min max
    unfold Tagged.decode
    simp only [kind, ownFields]
    rw [read]
    rfl
  | uint4 min max =>
    have apart : "min" ≠ "max" := by decide
    have read := bounds_numberField apart bound_ofInt min max
    unfold Tagged.decode
    simp only [kind, ownFields]
    rw [read]
    rfl
  | hexDigest length =>
    have read := length_numberField "length" size_ofInt length
    unfold Tagged.decode
    simp only [kind, ownFields]
    rw [read]
    rfl
  | choice values =>
    have named : ["values"].idxOf? "values" = some 0 := by simp [List.idxOf?_cons]
    have read : Tagged.words (.fields (Content.ofJson.ofFields (choice values).ownFields)) =
        .ok values := by
      simp only [Tagged.words, ownFields, Content.ofJson.ofFields]
      rw [Content.fields_cons named rfl (Content.mapM_string values)]
      rfl
    unfold Tagged.decode
    simp only [kind]
    rw [read]
    rfl
  | snowflake => rfl
  | uint8 => rfl
  | boolean => rfl
  | statusLink => rfl

theorem ofName_name (kind : Kind) : Kind.ofName kind.name = .ok kind := by
  cases kind
  all_goals rfl

/-- The field is none that tells the kind, and its value is read as any value is. -/
def IsOwnField (levels : Nat) (field : String × Json) : Prop :=
  field.1 ≠ "kind" ∧ field.2.Simple levels

section OwnFields

variable {levels : Nat}

theorem isOwnField_numberField {name : String} {n : Option Nat} (other : name ≠ "kind")
    (fits : ∀ k ∈ n, k ≤ maxWord) :
    ∀ field ∈ numberField name n, IsOwnField (levels + 1) field := by
  intro field member
  unfold numberField at member
  obtain ⟨k, given, rfl⟩ := List.mem_map.mp member
  have simple : (Json.ofInt k).Simple (levels + 1) := fits k (Option.mem_toList.mp given)
  exact ⟨other, simple⟩

/-- The fields of a constraint nest lists and objects at most once. -/
theorem isOwnField_ownFields (constraint : Constraint) :
    ∀ field ∈ constraint.ownFields, IsOwnField (levels + 1) field := by
  have eight (n : Option UInt64) : ∀ k ∈ n.map UInt64.toNat, k ≤ maxWord := by
    rintro k member
    obtain ⟨n, -, rfl⟩ := Option.map_eq_some_iff.mp member
    exact Nat.le_pred_of_lt n.toNat_lt_size
  have four (n : Option UInt32) : ∀ k ∈ n.map UInt32.toNat, k ≤ maxWord := by
    rintro k member
    obtain ⟨n, -, rfl⟩ := Option.map_eq_some_iff.mp member
    exact (Nat.le_of_lt n.toNat_lt_size).trans (by decide)
  cases constraint with
  | string min max =>
    exact List.forall_mem_append.mpr ⟨isOwnField_numberField (by decide) (eight min),
      isOwnField_numberField (by decide) (eight max)⟩
  | uint4 min max =>
    exact List.forall_mem_append.mpr ⟨isOwnField_numberField (by decide) (four min),
      isOwnField_numberField (by decide) (four max)⟩
  | hexDigest length => exact isOwnField_numberField (by decide) (eight length)
  | choice values =>
    have simple : (Json.array (values.map Json.text)).Simple (levels + 1) := by
      intro item member
      obtain ⟨value, -, rfl⟩ := List.mem_map.mp member
      simp only [Simple]
    have other : "values" ≠ "kind" := by decide
    exact List.forall_mem_singleton.mpr ⟨other, simple⟩
  | snowflake => exact List.forall_mem_nil _
  | uint8 => exact List.forall_mem_nil _
  | boolean => exact List.forall_mem_nil _
  | statusLink => exact List.forall_mem_nil _

end OwnFields

theorem reads_kind (kind : Kind) : Reads readKind (.text kind.name) kind where
  opens := opens_text kind.name
  takes := (reads_string kindExpectation kind.name).takes.bind fun cursor => by
    rw [ofName_name]
    rfl

/-- The fields that are not the kind are kept. -/
theorem steps_readField {fields : Fields} (kind : Option Kind) (others : List (Content × Content))
    (own : ∀ field ∈ fields, IsOwnField innerLevels field) :
    Steps readField (kind, others) fields
      (kind, (Content.ofJson.ofFields fields).reverse ++ others) := by
  induction fields generalizing others with
  | nil => exact .nil
  | cons field fields ih =>
    obtain ⟨key, entry⟩ := field
    obtain ⟨⟨other, simple⟩, own⟩ := List.forall_mem_cons.mp own
    have takes : Takes (readField (kind, others) key) (SpellsBehindKey entry)
        (kind, (.text key, .ofJson entry) :: others) := by
      unfold readField
      rw [if_neg other]
      exact ((reads_value simple).takes.bind fun _ => rfl).behindKey
    rw [Content.ofJson.ofFields, List.reverse_cons, List.append_assoc]
    exact .cons takes (ih _ own)

theorem reads_toJson (constraint : Constraint) : Reads read constraint.toJson constraint where
  opens := opens_object _
  takes := by
    have first : Takes (readField (none, []) "kind") (SpellsBehindKey (.text constraint.kind.name))
        (some constraint.kind, []) :=
      ((reads_kind constraint.kind).takes.behindKey).bind fun _ => rfl
    have steps : Steps readField (none, []) constraint.toFields (some constraint.kind,
        (Content.ofJson.ofFields constraint.ownFields).reverse ++ []) :=
      .cons first (steps_readField _ _ (isOwnField_ownFields constraint))
    have tagged : Reads (record expectation readFields readItems) constraint.toJson
        ⟨constraint.kind, .fields (Content.ofJson.ofFields constraint.ownFields)⟩ :=
      reads_record _ _ steps fun _ => by
        rw [List.append_nil]
        dsimp only
        rw [List.reverse_reverse]
        rfl
    -- All fields are read before the kind tells which of them count.
    refine tagged.takes.bind fun _ => ?_
    rw [decode_ownFields]
    rfl

end Constraint

/-! ### Arguments, commands and manifests -/

theorem reads_textField (s : String) : Reads textField (.text s) s := reads_string _ s

theorem ArgumentEntry.reads_toJson (entry : ArgumentEntry) : Reads read entry.toJson entry := by
  obtain ⟨id, name, optional, constraint⟩ := entry
  have required : Steps readField {}
      [("id", .text id), ("name", .text name), ("optional", .bool optional)]
      { id := id, name := name, optional := optional } :=
    .cons ((reads_textField id).field "id" fun _ => rfl) <|
      .cons ((reads_textField name).field "name" fun _ => rfl) <|
        .cons ((reads_boolean optional).field "optional" fun _ => rfl) .nil
  have constrained : Steps readField { id := id, name := name, optional := optional }
      (constraint.toList.map fun constraint => ("constraint", constraint.toJson))
      { id := id, name := name, optional := optional, constraint := constraint.map some } := by
    cases constraint with
    | none => exact .nil
    | some constraint =>
      have present : constraint.toJson ≠ .null := nofun
      have reads := reads_optional present constraint.reads_toJson
      exact .cons (reads.field "constraint" fun _ => rfl) .nil
  exact reads_record _ _ (required.append constrained) fun _ => by cases constraint <;> rfl

theorem CommandEntry.reads_toJson (entry : CommandEntry) : Reads read entry.toJson entry := by
  obtain ⟨name, source, description, arguments⟩ := entry
  have required : Steps readField {} [("name", .text name), ("syntax", .text source)]
      { name := name, source := source } :=
    .cons ((reads_textField name).field "name" fun _ => rfl) <|
      .cons ((reads_textField source).field "syntax" fun _ => rfl) .nil
  have described : Steps readField { name := name, source := source }
      (description.toList.map fun description => ("description", .text description))
      { name := name, source := source, description := description.map some } := by
    cases description with
    | none => exact .nil
    | some description =>
      have present : Json.text description ≠ .null := nofun
      have reads := reads_optional present (reads_textField description)
      exact .cons (reads.field "description" fun _ => rfl) .nil
  have listed : Reads (list ArgumentEntry.read) (.array (arguments.map ArgumentEntry.toJson))
      arguments := reads_list fun entry _ => entry.reads_toJson
  have complete : Steps readField
      { name := name, source := source, description := description.map some }
      [("arguments", .array (arguments.map ArgumentEntry.toJson))]
      { name := name, source := source, description := description.map some,
        arguments := arguments } :=
    .cons (listed.field "arguments" fun _ => rfl) .nil
  exact reads_record _ _ ((required.append described).append complete) fun _ => by
    cases description <;> rfl

namespace Manifest

/-- A manifest is read back from its form. -/
theorem reads_toJson (manifest : Manifest) : Reads read manifest.toJson manifest := by
  have listed : Reads (list CommandEntry.read)
      (.array (manifest.commands.map CommandEntry.toJson)) manifest.commands :=
    reads_list fun entry _ => entry.reads_toJson
  have steps : Steps readField {}
      [("version", .text manifest.version), ("prefix", .text manifest.sigil),
        ("commands", .array (manifest.commands.map CommandEntry.toJson))]
      { version := manifest.version, sigil := manifest.sigil, commands := manifest.commands } :=
    .cons ((reads_textField manifest.version).field "version" fun _ => rfl) <|
      .cons ((reads_textField manifest.sigil).field "prefix" fun _ => rfl) <|
        .cons (listed.field "commands" fun _ => rfl) .nil
  exact reads_record _ _ steps fun _ => rfl

theorem checked_eq_ok_iff {manifest other : Manifest} :
    manifest.checked = .ok other ↔ other = manifest ∧ manifest.sigil ≠ "" := by
  unfold checked
  split
  next empty =>
    have nothing : manifest.sigil = "" := String.isEmpty_iff.mp empty
    simp [nothing]
  next filled =>
    have something : manifest.sigil ≠ "" := fun nothing => filled (String.isEmpty_iff.mpr nothing)
    simp [something, eq_comm]

/-- A usable manifest is read back from every text that spells its form. -/
theorem ofJson_of_spells {manifest : Manifest} {text : String} (usable : manifest.sigil ≠ "")
    (spelled : manifest.toJson.Spells text.toList) : ofJson text = .ok manifest := by
  unfold ofJson
  rw [readAll_of_reads manifest.reads_toJson spelled]
  exact checked_eq_ok_iff.mpr ⟨rfl, usable⟩

/-- What is read is usable. -/
theorem sigil_of_ofJson {manifest : Manifest} {text : String} (read : ofJson text = .ok manifest) :
    manifest.sigil ≠ "" := by
  unfold ofJson at read
  split at read
  next =>
    obtain ⟨rfl, usable⟩ := checked_eq_ok_iff.mp read
    exact usable
  next => contradiction

end Manifest

end ChatCommand
