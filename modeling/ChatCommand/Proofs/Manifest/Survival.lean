import ChatCommand.Proofs.Manifest.YamlForm

/-!
# Manifests survive being written and read

A manifest that can be used is the same after it has been written and read again, in JSON and in
YAML, be it from a text or from a file. What was read once can be used, so it is the same whenever
it is written and read again.

## Main definitions

- `Manifest.Survives`: a manifest is read back from all that is written for it.

## Main results

- `Manifest.survival_law`: which manifests survive.
-/

namespace ChatCommand.Manifest

/-- A manifest is read back from all that is written for it. -/
structure Survives (manifest : Manifest) : Prop where
  /-- From the JSON texts that are written. -/
  json : ∀ text ∈ [manifest.toJson.compact, manifest.toJson.pretty], ofJson text = .ok manifest
  /-- From any other JSON text too that differs from them in spaces only. -/
  spelled : ∀ text : String, manifest.toJson.Spells text.toList → ofJson text = .ok manifest
  /-- From a file with such a text. -/
  file : ∀ (files : Files) (path text : String), isJsonPath path = true → files path = .ok text →
    manifest.toJson.Spells text.toList → load files path = .ok manifest
  /-- From the file that it is saved as, if the data in a saved file is the data that was
  written. -/
  saved : Yaml.readsBack manifest.toJson = true → ∀ (files : Files) (path : String),
    isJsonPath path = false → files path = .ok manifest.toYaml → load files path = .ok manifest

theorem survives_of_usable {manifest : Manifest} (usable : manifest.sigil ≠ "") :
    manifest.Survives where
  json := by
    intro text written
    rcases (by simpa using written : text = _ ∨ text = _) with rfl | rfl
    · exact ofJson_of_spells usable (Json.spells_compact _)
    · exact ofJson_of_spells usable (Json.spells_pretty _)
  spelled _ := ofJson_of_spells usable
  file := by
    intro files path text isJson found spelled
    unfold load
    rw [found]
    dsimp only
    rw [if_pos isJson, ofJson_of_spells usable spelled]
  saved := by
    intro kept files path other found
    unfold load
    rw [found]
    dsimp only
    rw [if_neg (Bool.eq_false_iff.mp other), ofYaml_toYaml usable kept]

/-- A manifest whose prefix is not empty survives, and so does every manifest that is read. -/
theorem survival_law :
    (∀ manifest : Manifest, manifest.sigil ≠ "" → manifest.Survives) ∧
      ∀ (text : String) (manifest : Manifest), ofJson text = .ok manifest → manifest.Survives :=
  ⟨fun _ usable => survives_of_usable usable,
    fun _ _ read => survives_of_usable (sigil_of_ofJson read)⟩

/-- A manifest of one command, whose version and prefix are quoted when it is saved. -/
def specimen : Manifest :=
  ⟨"1", "!", [⟨"on", "$1", none, [⟨"n", "N", true, some .uint8⟩]⟩]⟩

theorem specimen_survives : specimen.sigil ≠ "" ∧
    ofJson specimen.toJson.pretty = .ok specimen ∧
    load (fun _ => .ok specimen.toYaml) "commands.yml" = .ok specimen := by
  have usable : specimen.sigil ≠ "" := by decide
  have kept : Yaml.readsBack specimen.toJson = true := by decide +kernel
  have survives := survival_law.1 specimen usable
  have again := survival_law.2 _ specimen (survives.json specimen.toJson.compact (by simp))
  exact ⟨usable, again.json _ (by simp),
    survives.saved kept _ "commands.yml" (by decide +kernel) rfl⟩

end ChatCommand.Manifest
