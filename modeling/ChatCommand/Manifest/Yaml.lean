import ChatCommand.Manifest.Json
import ChatCommand.Yaml.Document
import ChatCommand.Yaml.Meaning

/-!
# Manifests in YAML

A manifest has the same parts as in JSON. Where a text is expected, any scalar is one as it is
spelled; the parts of a constraint are what their spelling means.

## Main definitions

- `Manifest.ofYaml`: reads a manifest.
-/

namespace ChatCommand

namespace Yaml

/-- Reads data of a document; the state is the number of aliases that may still be followed. -/
abbrev Reading (α : Type) := StateT Nat Option α

namespace Reading

/-- The number of aliases that may be followed for each mark of a document. -/
def aliasesPerMark : Nat := 100

/-- The node that a node stands for. -/
def resolve (document : Document) : Node → Reading Node
  | .alias number => do
    match ← get with
    | 0 => failure
    | left + 1 =>
      set left
      match document.anchored? number with
      | some node => pure node
      | none => failure
  | node => pure node

/-- Reads a text, which is a scalar as it is spelled. -/
def text (document : Document) (node : Node) : Reading String := do
  match ← resolve document node with
  | .scalar _ _ text => pure text
  | _ => failure

/-- The tag of truth values. -/
def boolTag : String := "tag:yaml.org,2002:bool"

/-- Reads a truth value. -/
def boolean (document : Document) (node : Node) : Reading Bool := do
  match ← resolve document node with
  | .scalar style tag text =>
    -- A tag makes a truth value of a literal scalar, but of no quoted one.
    if style = .plain || (style = .literal && tag = some boolTag) then
      match Meaning.bool? text with
      | some b => pure b
      | none => failure
    else failure
  | _ => failure

/-- The tag of null. -/
def nullTag : String := "tag:yaml.org,2002:null"

/-- Reads null as nothing, and anything else by the given reader. -/
def optional (document : Document) (read : Node → Reading α) (node : Node) :
    Reading (Option α) := do
  let node ← resolve document node
  match node with
  | .scalar style tag text =>
    match tag with
    | some tag =>
      if tag = nullTag then if Meaning.isNull text then pure none else failure
      else some <$> read node
    | none =>
      if style = .plain && (text.isEmpty || Meaning.isNull text) then pure none
      else some <$> read node
  | _ => some <$> read node

/-- Reads a list; a scalar that is not written is an empty one. -/
def list (document : Document) (read : Node → Reading α) (node : Node) : Reading (List α) := do
  match ← resolve document node with
  | .sequence _ items => items.mapM read
  | .scalar .plain _ "" => pure []
  | _ => failure

/-- Reads a record from its fields; a scalar that is not written is a record without fields. -/
def record (document : Document) (ofFields : List (Node × Node) → Reading α) (node : Node) :
    Reading α := do
  match ← resolve document node with
  | .mapping _ fields => ofFields fields
  | .scalar .plain _ "" => ofFields []
  | _ => failure

/-- Reads fields one after the other. -/
def fields (document : Document) (step : σ → String → Node → Reading σ) (start : σ)
    (entries : List (Node × Node)) : Reading σ :=
  entries.foldlM (fun slots entry => do step slots (← text document entry.1) entry.2) start

/-- Reads the value of a field for which nothing has been read yet. -/
def fill (slot : Option α) (read : Node → Reading α) (node : Node) : Reading (Option α) :=
  match slot with
  | some _ => failure
  | none => some <$> read node

/-- The value of a field that must have been read. -/
def require (slot : Option α) : Reading α :=
  match slot with
  | some a => pure a
  | none => failure

/-! ### Content -/

/-- What a scalar is by its spelling. Numbers of 128 bits are refused. -/
def meant (text : String) : Meaning → Option Content
  | .null => some .null
  | .bool b => some (.bool b)
  | .whole n => some (.number (.whole n))
  | .wide _ => none
  | .real x => some (.number (.real x))
  | .special name => some (.special name)
  | .text => some (.text text)

/-- What a scalar with a tag is. -/
def tagged (tag text : String) : Option Content :=
  if tag = boolTag then (Meaning.bool? text).map .bool
  else if tag = nullTag then if Meaning.isNull text then some .null else none
  else if tag = "tag:yaml.org,2002:int" then do
    meant text (← (← Meaning.integer? text.toList) |> Meaning.ofInteger?)
  else if tag = "tag:yaml.org,2002:float" then do meant text (← Meaning.number? text)
  else some (.text text)

/-- Whether a tag is one of the application, which nothing here has. -/
def isLocal (tag : Option String) : Bool := tag.any fun tag => tag.toList.head? = some '!'

/-- The content of a scalar. -/
def scalar (style : Style) (tag : Option String) (text : String) : Option Content :=
  match tag with
  | some tag => tagged tag text
  | none => if style = .plain then meant text (.of text) else some (.text text)

/-- The content of a node in which at most `levels` lists and records are nested. -/
def content (document : Document) (levels : Nat) (node : Node) : Reading Content := do
  match ← resolve document node with
  | .scalar style tag text =>
    if isLocal tag then failure
    else
      match scalar style tag text with
      | some content => pure content
      | none => failure
  | .sequence tag items =>
    match levels with
    | 0 => failure
    | levels + 1 =>
      if isLocal tag then failure else .list <$> items.mapM (content document levels)
  | .mapping tag entries =>
    match levels with
    | 0 => failure
    | levels + 1 =>
      if isLocal tag then failure
      else
        .record <$> entries.mapM fun entry => do
          return (← content document levels entry.1, ← content document levels entry.2)
  | .alias _ => failure

end Reading

end Yaml

open Yaml Yaml.Reading

namespace Constraint

/-- The number of lists and records that may be nested inside a constraint in YAML. -/
def yamlLevels : Nat := 122

/-- Reads a kind. -/
def kindOfNode (document : Document) (node : Node) : Reading Kind := do
  match Kind.ofName (← Yaml.Reading.text document node) with
  | .ok kind => pure kind
  | .error _ => failure

/-- Reads one field of a constraint. -/
def fieldOfNode (document : Document) (read : Option Kind × List (Content × Content))
    (entry : Node × Node) : Reading (Option Kind × List (Content × Content)) := do
  match ← content document yamlLevels entry.1 with
  | .text "kind" => return (← fill read.1 (kindOfNode document) entry.2, read.2)
  | key => return (read.1, (key, ← content document yamlLevels entry.2) :: read.2)

/-- Reads the form of a constraint. -/
def taggedOfNode (document : Document) (node : Node) : Reading Tagged := do
  match ← resolve document node with
  | .mapping tag entries =>
    if isLocal tag then failure
    let (kind, others) ← entries.foldlM (fieldOfNode document) (none, [])
    return ⟨← Yaml.Reading.require kind, .fields others.reverse⟩
  | .sequence tag (kind :: rest) =>
    if isLocal tag then failure
    return ⟨← kindOfNode document kind, .items (← rest.mapM (content document yamlLevels))⟩
  | _ => failure

/-- Reads a constraint. -/
def ofNode (document : Document) (node : Node) : Reading Constraint := do
  match (← taggedOfNode document node).decode with
  | .ok constraint => pure constraint
  | .error _ => failure

end Constraint

namespace ArgumentEntry

/-- Reads one field of an argument. -/
def fieldOfNode (document : Document) (slots : Slots) (key : String) (node : Node) :
    Reading Slots :=
  match key with
  | "id" => do return { slots with id := ← fill slots.id (Yaml.Reading.text document) node }
  | "name" => do return { slots with name := ← fill slots.name (Yaml.Reading.text document) node }
  | "optional" => do
    return { slots with optional := ← fill slots.optional (Yaml.Reading.boolean document) node }
  | "constraint" => do
    let constraint ← fill slots.constraint
      (Yaml.Reading.optional document (Constraint.ofNode document)) node
    return { slots with constraint }
  | _ => pure slots

/-- Reads an argument from its fields. -/
def ofFields (document : Document) (entries : List (Node × Node)) : Reading ArgumentEntry := do
  let slots ← Yaml.Reading.fields document (fieldOfNode document) {} entries
  let id ← Yaml.Reading.require slots.id
  let name ← Yaml.Reading.require slots.name
  return ⟨id, name, slots.optional.getD false, slots.constraint.join⟩

/-- Reads an argument. -/
def ofNode (document : Document) : Node → Reading ArgumentEntry :=
  Yaml.Reading.record document (ofFields document)

end ArgumentEntry

namespace CommandEntry

/-- Reads one field of a command. -/
def fieldOfNode (document : Document) (slots : Slots) (key : String) (node : Node) :
    Reading Slots :=
  match key with
  | "name" => do return { slots with name := ← fill slots.name (Yaml.Reading.text document) node }
  | "syntax" => do
    return { slots with source := ← fill slots.source (Yaml.Reading.text document) node }
  | "description" => do
    let description ← fill slots.description
      (Yaml.Reading.optional document (Yaml.Reading.text document)) node
    return { slots with description }
  | "arguments" => do
    let arguments ← fill slots.arguments
      (Yaml.Reading.list document (ArgumentEntry.ofNode document)) node
    return { slots with arguments }
  | _ => pure slots

/-- Reads a command from its fields. -/
def ofFields (document : Document) (entries : List (Node × Node)) : Reading CommandEntry := do
  let slots ← Yaml.Reading.fields document (fieldOfNode document) {} entries
  let name ← Yaml.Reading.require slots.name
  let source ← Yaml.Reading.require slots.source
  return ⟨name, source, slots.description.join, slots.arguments.getD []⟩

/-- Reads a command. -/
def ofNode (document : Document) : Node → Reading CommandEntry :=
  Yaml.Reading.record document (ofFields document)

end CommandEntry

namespace Manifest

/-- Reads one field of a manifest. -/
def fieldOfNode (document : Document) (slots : Slots) (key : String) (node : Node) :
    Reading Slots :=
  match key with
  | "version" => do
    return { slots with version := ← fill slots.version (Yaml.Reading.text document) node }
  | "prefix" => do
    return { slots with sigil := ← fill slots.sigil (Yaml.Reading.text document) node }
  | "commands" => do
    let commands ← fill slots.commands
      (Yaml.Reading.list document (CommandEntry.ofNode document)) node
    return { slots with commands }
  | _ => pure slots

/-- Reads a manifest from its fields. -/
def ofFields (document : Document) (entries : List (Node × Node)) : Reading Manifest := do
  let slots ← Yaml.Reading.fields document (fieldOfNode document) {} entries
  let version ← Yaml.Reading.require slots.version
  return ⟨version, slots.sigil.getD defaultSigil, slots.commands.getD []⟩

/-- The manifest that a document describes. -/
def ofDocument? (document : Document) : Option Manifest :=
  let read := Yaml.Reading.record document (ofFields document) document.root
  (read.run (aliasesPerMark * document.root.size)).map Prod.fst

/-- Reads the text of a manifest, which has to be usable. -/
def ofYaml (text : String) : Except ManifestError Manifest :=
  match (Document.parse? text).bind ofDocument? with
  | some manifest => manifest.checked
  | none => .error .yaml

end Manifest

end ChatCommand
