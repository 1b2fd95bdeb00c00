import ChatCommand.Directory
import ChatCommand.Manifest.Json
import ChatCommand.Manifest.Yaml
import ChatCommand.Yaml.Printer

/-!
# Manifest files

The extension of a file tells the notation of its manifest. What is saved is YAML.
-/

namespace ChatCommand.Manifest

/-- Whether the manifest at a path is JSON. -/
def isJsonPath (path : String) : Bool :=
  (extension? path).any fun extension => Text.sameAscii extension.toList "json".toList

/-- The manifest at a path. A directory opens like a file, but there is no text to read. -/
def load (files : Files) (path : String) : Except ManifestError Manifest :=
  match files path with
  | .ok text => if isJsonPath path then ofJson text else ofYaml text
  | .error .isADirectory =>
    .error (if isJsonPath path then .jsonFile .isADirectory else .yaml)
  | .error problem => .error (.file problem)

/-- The text of the file that a manifest is saved as. -/
def toYaml (manifest : Manifest) : String := (Content.ofJson manifest.toJson).toYaml

end ChatCommand.Manifest
