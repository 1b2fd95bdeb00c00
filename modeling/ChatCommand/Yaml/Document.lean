import ChatCommand.Yaml.Token.Scan

/-!
# Documents

A document is a tree of scalars, lists and records. A node can be given an anchor, and an alias
stands for the node that an anchor was last given to, be it finished or not.

## Main definitions

- `Node`, `Document`: documents.
- `Document.ofTokens?`: the document that tokens describe.
- `Document.parse?`: the only document of a text.
-/

namespace ChatCommand.Yaml

/-- A node of a document. Tags are given in full. -/
inductive Node where
  | scalar (style : Style) (tag : Option String) (text : String)
  | sequence (tag : Option String) (items : List Node)
  | mapping (tag : Option String) (fields : List (Node × Node))
  /-- The node with the given number among the nodes with anchors. -/
  | alias (number : Nat)
  deriving Repr, Inhabited

/-- A node that is not written. -/
def Node.blank : Node := .scalar .plain none ""

/-- The number of marks that it takes to write a node: one for a scalar or an alias, two for a
list or a record. -/
def Node.size : Node → Nat
  | .scalar _ _ _ | .alias _ => 1
  | .sequence _ items => 2 + sizeOfItems items
  | .mapping _ fields => 2 + sizeOfFields fields
where
  /-- The marks of items. -/
  sizeOfItems : List Node → Nat
    | [] => 0
    | item :: rest => item.size + sizeOfItems rest
  /-- The marks of fields. -/
  sizeOfFields : List (Node × Node) → Nat
    | [] => 0
    | (key, value) :: rest => key.size + value.size + sizeOfFields rest

/-- A tree with the nodes that aliases stand for. -/
structure Document where
  root : Node
  anchored : List (Nat × Node)

/-- How far tokens have been turned into nodes. -/
structure Draft where
  tokens : List Token
  /-- What tag handles stand for. -/
  handles : List (String × String)
  /-- The numbers of the anchors, the last ones first. -/
  names : List (String × Nat) := []
  /-- The finished nodes with anchors. -/
  anchored : List (Nat × Node) := []

/-- Turns tokens into a value. -/
abbrev Builder (α : Type) := StateT Draft Option α

namespace Builder

/-- Looks at the next token. -/
def peek : Builder Token := do
  match (← get).tokens with
  | token :: _ => pure token
  | [] => failure

/-- Passes the next token. -/
def next : Builder Unit := modify fun draft => { draft with tokens := draft.tokens.tail }

/-- Passes the next token, which has to be the given one. -/
def expect (token : Token) : Builder Unit := do
  if (← peek) = token then next else failure

/-- Whether the next token is one of those given. -/
def at? (tokens : List Token) : Builder Bool := do return (← peek) ∈ tokens

/-- Passes the next token if it is the given one, and tells whether it was. -/
def accept (token : Token) : Builder Bool := do
  if (← peek) = token then
    next
    pure true
  else pure false

/-- The full tag of a handle and a suffix. -/
def tagOf (handle suffix : String) : Builder String := do
  if handle.isEmpty then return suffix
  match (← get).handles.find? fun entry => entry.1 = handle with
  | some entry => return entry.2 ++ suffix
  | none => failure

/-- Reads an anchor, if one is ahead. -/
def anchor : Builder (Option String) := do
  match ← peek with
  | .anchor name => next; pure (some name)
  | _ => pure none

/-- Reads a tag, if one is ahead. -/
def tag : Builder (Option String) := do
  match ← peek with
  | .tag handle suffix => next; some <$> tagOf handle suffix
  | _ => pure none

/-- Reads an anchor and a tag, in either order. -/
def properties : Builder (Option String × Option String) := do
  match ← anchor with
  | some name => return (some name, ← tag)
  | none =>
    let tag ← tag
    if tag.isSome then return (← anchor, tag) else return (none, none)

/-- Gives an anchor to the node that is read next. -/
def anchoring (name : Option String) (read : Builder Node) : Builder Node := do
  match name with
  | none => read
  | some name =>
    -- The node itself may refer to the anchor already.
    let number := (← get).names.length
    modify fun draft => { draft with names := (name, number) :: draft.names }
    let node ← read
    modify fun draft => { draft with anchored := (number, node) :: draft.anchored }
    pure node

/-- The node that an alias stands for. -/
def aliasOf (name : String) : Builder Node := do
  match (← get).names.find? fun entry => entry.1 = name with
  | some entry => return .alias entry.2
  | none => failure

mutual

/-- Reads a node. Lists and records by indentation are allowed where `isBlock` says so, and
lists as far in as the record around them where `isLoose` does. -/
def node : Nat → Bool → Bool → Builder Node
  | 0, _, _ => failure
  | fuel + 1, isBlock, isLoose => do
    match ← peek with
    | .alias name => do next; aliasOf name
    | _ =>
      let (name, tag) ← properties
      anchoring name (content fuel isBlock isLoose tag (name.isSome || tag.isSome))

/-- Reads a node after its properties. One that has some need not be written. -/
def content : Nat → Bool → Bool → Option String → Bool → Builder Node
  | 0, _, _, _, _ => failure
  | fuel + 1, isBlock, isLoose, tag, hasProperties => do
    let token ← peek
    if isLoose && token = .blockEntry then .sequence tag <$> looseEntries fuel
    else
      match token with
      | .scalar style text => do next; pure (.scalar style tag text)
      | .flowSequenceStart => do next; .sequence tag <$> flowEntries fuel true
      | .flowMappingStart => do next; .mapping tag <$> flowFields fuel true
      | _ =>
        if isBlock && token = .blockSequenceStart then do next; .sequence tag <$> blockEntries fuel
        else if isBlock && token = .blockMappingStart then do
          next
          .mapping tag <$> blockFields fuel
        else if hasProperties then pure (.scalar .plain tag "")
        else failure

/-- Reads a node, unless one of the given tokens shows that there is none. -/
def nodeUnless : Nat → Bool → Bool → List Token → Builder Node
  | 0, _, _, _ => failure
  | fuel + 1, isBlock, isLoose, tokens => do
    if ← at? tokens then pure .blank else node fuel isBlock isLoose

/-- Reads the entries of a list by indentation, and its end. -/
def blockEntries : Nat → Builder (List Node)
  | 0 => failure
  | fuel + 1 => do
    if ← accept .blockEntry then
      let item ← nodeUnless fuel true false [.blockEntry, .blockEnd]
      return item :: (← blockEntries fuel)
    expect .blockEnd
    return []

/-- Reads the entries of a list that is as far in as the record around it. -/
def looseEntries : Nat → Builder (List Node)
  | 0 => failure
  | fuel + 1 => do
    if ← accept .blockEntry then
      let item ← nodeUnless fuel true false [.blockEntry, .key, .value, .blockEnd]
      return item :: (← looseEntries fuel)
    return []

/-- Reads the fields of a record by indentation, and its end. -/
def blockFields : Nat → Builder (List (Node × Node))
  | 0 => failure
  | fuel + 1 => do
    if ← accept .key then
      let key ← nodeUnless fuel true true [.key, .value, .blockEnd]
      let value ← if ← accept .value then nodeUnless fuel true true [.key, .value, .blockEnd]
        else pure .blank
      return (key, value) :: (← blockFields fuel)
    expect .blockEnd
    return []

/-- Reads the entries of a list in brackets, and its end. A key makes a record of one field. -/
def flowEntries : Nat → Bool → Builder (List Node)
  | 0, _ => failure
  | fuel + 1, first => do
    if ← accept .flowSequenceEnd then return []
    if !first then expect .flowEntry
    if ← accept .flowSequenceEnd then return []
    let item ← if ← accept .key then (fun field => .mapping none [field]) <$> flowPair fuel
      else node fuel false false
    return item :: (← flowEntries fuel false)

/-- Reads the only field of a record within brackets. -/
def flowPair : Nat → Builder (Node × Node)
  | 0 => failure
  | fuel + 1 => do
    let key ←
      if ← at? [.value, .flowEntry, .flowSequenceEnd] then do next; pure Node.blank
      else node fuel false false
    let value ← if ← accept .value then nodeUnless fuel false false [.flowEntry, .flowSequenceEnd]
      else pure .blank
    return (key, value)

/-- Reads the fields of a record in braces, and its end. A field need not have a value. -/
def flowFields : Nat → Bool → Builder (List (Node × Node))
  | 0, _ => failure
  | fuel + 1, first => do
    if ← accept .flowMappingEnd then return []
    if !first then expect .flowEntry
    if ← accept .flowMappingEnd then return []
    let field ← if ← accept .key then do
        let key ← nodeUnless fuel false false [.value, .flowEntry, .flowMappingEnd]
        let value ← if ← accept .value then
            nodeUnless fuel false false [.flowEntry, .flowMappingEnd]
          else pure .blank
        pure (key, value)
      else do pure (← node fuel false false, .blank)
    return field :: (← flowFields fuel false)

end

/-- The meanings of the handles that need no directive. -/
def usualHandles : List (String × String) := [("!", "!"), ("!!", "tag:yaml.org,2002:")]

/-- Reads the directives before a document: at most one of the version, which has to be 1.1 or
1.2, and one for each tag handle. -/
def directives (versioned : Bool) (handles : List (String × String)) :
    List Token → Option (Draft × Bool)
  | .version major minor :: rest =>
    if versioned || major ≠ 1 || (minor ≠ 1 && minor ≠ 2) then none
    else directives true handles rest
  | .tagHandle handle meaning :: rest =>
    if handles.any fun entry => entry.1 = handle then none
    else directives versioned (handles ++ [(handle, meaning)]) rest
  | tokens =>
    some ({ tokens, handles := handles ++ usualHandles }, versioned || !handles.isEmpty)

/-- Reads the root of a document, which may be missing behind a mark. -/
def root (fuel : Nat) (hasDirectives : Bool) : Builder Node := do
  if ← accept .documentStart then
    match ← peek with
    | .version _ _ | .tagHandle _ _ | .documentStart | .documentEnd | .streamEnd => pure .blank
    | _ => node fuel true false
  -- Behind directives the mark cannot be left out.
  else if hasDirectives then failure
  else node fuel true false

end Builder

namespace Document

/-- The document that tokens describe, if they describe one document and nothing else. -/
def ofTokens? (tokens : List Token) : Option Document := do
  let (draft, hasDirectives) ← Builder.directives false [] tokens
  let (root, draft) ← (Builder.root (4 * tokens.length + 4) hasDirectives).run draft
  if draft.tokens.dropWhile (· = .documentEnd) = [.streamEnd] then
    some ⟨root, draft.anchored⟩
  else none

/-- The only document of a text. -/
def parse? (text : String) : Option Document := do ofTokens? (← tokens? text)

/-- The node with an anchor. -/
def anchored? (document : Document) (number : Nat) : Option Node :=
  (document.anchored.find? fun entry => entry.1 = number).map Prod.snd

end Document

end ChatCommand.Yaml
