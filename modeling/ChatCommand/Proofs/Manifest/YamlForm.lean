import ChatCommand.Manifest.Load
import ChatCommand.Proofs.Manifest.JsonForm
import ChatCommand.Proofs.Yaml.Reading

/-!
# Manifests read back from YAML

A manifest is read back from every document that holds the data of its form. So it is from the text
that is saved, if that text is read as a document with the data that was written.

## Main definitions

- `Yaml.readsBack`: whether the text of a value is read as a document that holds the value.

## Main results

- `Constraint.yields_toJson`: a constraint is read back from its form.
- `Manifest.ofDocument?_of_holds`: a manifest is read back from its form.
- `Manifest.ofYaml_toYaml`: a manifest is read back from the text that it is saved as.
-/

namespace ChatCommand

open Yaml Yaml.Reading

variable {document : Document}

namespace Constraint

theorem yields_kind (kind : Kind) : Yields (kindOfNode document) (.text kind.name) kind := by
  intro node holds
  unfold kindOfNode
  rw [yields_text kind.name holds, pure_bind, ofName_name]

/-- The fields that are not the kind are kept. -/
theorem foldlM_ownFields {fields : Json.Fields} {entries : List (Node × Node)}
    (kind : Option Kind) (others : List (Content × Content))
    (same : List.Forall₂ (fun entry field => entry.1.holds (.text field.1) = true ∧
      entry.2.holds field.2 = true) entries fields)
    (own : ∀ field ∈ fields, IsOwnField yamlLevels field) :
    entries.foldlM (fieldOfNode document) (kind, others) =
      pure (kind, (Content.ofJson.ofFields fields).reverse ++ others) := by
  induction fields generalizing entries others with
  | nil =>
    cases same
    rfl
  | cons field fields ih =>
    cases same with
    | @cons entry _ entries _ here rest =>
      obtain ⟨⟨other, simple⟩, own⟩ := List.forall_mem_cons.mp own
      have step : fieldOfNode document (kind, others) entry =
          pure (kind, (.text field.1, .ofJson field.2) :: others) := by
        have key : content document yamlLevels entry.1 = pure (.text field.1) :=
          content_scalar rfl here.1
        unfold fieldOfNode
        rw [key, pure_bind]
        -- The field is none that tells the kind.
        split
        next same => exact absurd (Content.text.inj same) other
        next => rw [content_of_simple simple here.2, pure_bind]
      rw [List.foldlM_cons, step, pure_bind, ih _ rest own, Content.ofJson.ofFields,
        List.reverse_cons, List.append_assoc]
      rfl

theorem yields_toJson (constraint : Constraint) :
    Yields (ofNode document) constraint.toJson constraint := by
  intro node holds
  obtain ⟨entries, rfl, same⟩ := Node.eq_mapping_of_holds holds
  cases same with
  | @cons entry _ entries _ here others =>
    have named : fieldOfNode document (none, []) entry = pure (some constraint.kind, []) := by
      have key : content document yamlLevels entry.1 = pure (.text "kind") :=
        content_scalar rfl here.1
      have kind_read : kindOfNode document entry.2 = _ := yields_kind constraint.kind here.2
      unfold fieldOfNode
      rw [key, pure_bind]
      show (some <$> kindOfNode document entry.2) >>= _ = _
      rw [kind_read, map_pure, pure_bind]
    have own : entries.foldlM (fieldOfNode document) (some constraint.kind, []) = _ :=
      foldlM_ownFields _ _ others (isOwnField_ownFields constraint)
    have read : taggedOfNode document (.mapping none (entry :: entries)) =
        pure ⟨constraint.kind, .fields (Content.ofJson.ofFields constraint.ownFields)⟩ := by
      unfold taggedOfNode
      rw [resolve_of_holds holds, pure_bind]
      show ((entry :: entries).foldlM (fieldOfNode document) (none, [])) >>= _ = _
      rw [List.foldlM_cons, named, pure_bind, own, pure_bind]
      simp [Yaml.Reading.require]
    unfold ofNode
    rw [read, pure_bind, decode_ownFields]

end Constraint

/-! ### Arguments, commands and manifests -/

theorem ArgumentEntry.yields_toJson (entry : ArgumentEntry) :
    Yields (ofNode document) entry.toJson entry := by
  obtain ⟨id, name, optional, constraint⟩ := entry
  have required : Steps (fieldOfNode document) {}
      [("id", .text id), ("name", .text name), ("optional", .bool optional)]
      { id := id, name := name, optional := optional } :=
    .cons ((yields_text id).field rfl) <|
      .cons ((yields_text name).field rfl) <|
        .cons ((yields_boolean optional).field rfl) .nil
  have constrained : Steps (fieldOfNode document) { id := id, name := name, optional := optional }
      (constraint.toList.map fun constraint => ("constraint", constraint.toJson))
      { id := id, name := name, optional := optional, constraint := constraint.map some } := by
    cases constraint with
    | none => exact .nil
    | some constraint =>
      have present : constraint.toJson ≠ .null := nofun
      exact .cons ((yields_optional present constraint.yields_toJson).field rfl) .nil
  exact yields_record (required.append constrained) (fun _ => rfl) (by cases constraint <;> rfl)

theorem CommandEntry.yields_toJson (entry : CommandEntry) :
    Yields (ofNode document) entry.toJson entry := by
  obtain ⟨name, source, description, arguments⟩ := entry
  have required : Steps (fieldOfNode document) {} [("name", .text name), ("syntax", .text source)]
      { name := name, source := source } :=
    .cons ((yields_text name).field rfl) <| .cons ((yields_text source).field rfl) .nil
  have described : Steps (fieldOfNode document) { name := name, source := source }
      (description.toList.map fun description => ("description", .text description))
      { name := name, source := source, description := description.map some } := by
    cases description with
    | none => exact .nil
    | some description =>
      have present : Json.text description ≠ .null := nofun
      exact .cons ((yields_optional present (yields_text description)).field rfl) .nil
  have listed : Yields (Yaml.Reading.list document (ArgumentEntry.ofNode document))
      (.array (arguments.map ArgumentEntry.toJson)) arguments :=
    yields_list fun entry _ => entry.yields_toJson
  have complete : Steps (fieldOfNode document)
      { name := name, source := source, description := description.map some }
      [("arguments", .array (arguments.map ArgumentEntry.toJson))]
      { name := name, source := source, description := description.map some,
        arguments := arguments } :=
    .cons (listed.field rfl) .nil
  exact yields_record ((required.append described).append complete) (fun _ => rfl)
    (by cases description <;> rfl)

namespace Manifest

/-- A manifest is read back from a node that holds its form. -/
theorem yields_toJson (manifest : Manifest) :
    Yields (Yaml.Reading.record document (ofFields document)) manifest.toJson manifest := by
  have listed : Yields (Yaml.Reading.list document (CommandEntry.ofNode document))
      (.array (manifest.commands.map CommandEntry.toJson)) manifest.commands :=
    yields_list fun entry _ => entry.yields_toJson
  have steps : Steps (fieldOfNode document) {}
      [("version", .text manifest.version), ("prefix", .text manifest.sigil),
        ("commands", .array (manifest.commands.map CommandEntry.toJson))]
      { version := manifest.version, sigil := manifest.sigil, commands := manifest.commands } :=
    .cons ((yields_text manifest.version).field rfl) <|
      .cons ((yields_text manifest.sigil).field rfl) <|
        .cons (listed.field rfl) .nil
  exact yields_record steps (fun _ => rfl) rfl

/-- A manifest is read back from a document that holds its form. -/
theorem ofDocument?_of_holds {manifest : Manifest}
    (holds : document.root.holds manifest.toJson = true) :
    ofDocument? document = some manifest := by
  unfold ofDocument?
  dsimp only
  rw [manifest.yields_toJson holds]
  rfl

end Manifest

/-! ### Saved texts -/

/-- Whether the text of a value is read as a document that holds the value. -/
def Yaml.readsBack (value : Json) : Bool :=
  (Document.parse? (Content.ofJson value).toYaml).any fun document => document.root.holds value

/-- A usable manifest is read back from the text that it is saved as. -/
theorem Manifest.ofYaml_toYaml {manifest : Manifest} (usable : manifest.sigil ≠ "")
    (kept : Yaml.readsBack manifest.toJson = true) :
    ofYaml manifest.toYaml = .ok manifest := by
  obtain ⟨document, parsed, holds⟩ := (Option.any_eq_true _ _).mp kept
  have found : Document.parse? manifest.toYaml = some document := parsed
  unfold ofYaml
  rw [found, Option.bind_some, ofDocument?_of_holds holds]
  exact checked_eq_ok_iff.mpr ⟨rfl, usable⟩

end ChatCommand
