import ChatCommand.Compilation

/-!
# Extraction

A message that matches a compiled command yields a text for each argument. The blocks of one
optional argument have to be all there or all missing, and an argument that is used has to be
captured with them; otherwise the argument is only partly supplied, and nothing is yielded.

## Main definitions

- `Extraction`: the outcome for a message.
- `Compiled.extract`: extracts the arguments from a message.
- `extract`: the same by way of a cache.
-/

namespace ChatCommand

/-- A block that disagrees with the first block of its argument; number one itself when the first
block is there without the text of the argument. -/
structure Inconsistency where
  /-- The name of the argument. -/
  name : String
  occurrence : Nat
  wasPresent : Bool
  deriving DecidableEq, Repr

/-- The outcome for a message. -/
inductive Extraction where
  /-- The syntax string does not compile. -/
  | notCompiled (error : CompileError)
  /-- The message does not match. -/
  | mismatch
  /-- An optional argument is only partly supplied; a required one may be missing besides. -/
  | inconsistent (first : Inconsistency) (rest : List Inconsistency) (missing : Option String)
  /-- A required argument was not captured. -/
  | incomplete (id : String)
  /-- Each argument's text, by its key. -/
  | complete (values : List (String × Option String))
  deriving DecidableEq, Repr

namespace Extraction

/-- Whether every argument was extracted. -/
def succeeded : Extraction → Bool
  | complete _ => true
  | _ => false

/-- Whether the syntax string compiles. -/
def isCompiled : Extraction → Bool
  | notCompiled _ => false
  | _ => true

/-- Why the syntax string does not compile. -/
def compileError? : Extraction → Option CompileError
  | notCompiled error => some error
  | _ => none

/-- Whether the message does not match. -/
def isMismatch : Extraction → Bool
  | mismatch => true
  | _ => false

/-- The texts of the arguments, sorted by key. -/
def values : Extraction → List (String × Option String)
  | complete values => values
  | _ => []

/-- The blocks that disagree. -/
def inconsistencies : Extraction → List Inconsistency
  | inconsistent first rest _ => first :: rest
  | _ => []

/-- The key of the first required argument that was not captured. -/
def missing? : Extraction → Option String
  | inconsistent _ _ missing => missing
  | incomplete id => some id
  | _ => none

/-- The texts of the arguments as the fields of an object. -/
def valuesAsJson (extraction : Extraction) : Json.Fields :=
  extraction.values.map fun field => (field.1, Json.ofOption Json.text field.2)

end Extraction

/-- What a message says about one argument. -/
structure Finding where
  inconsistencies : List Inconsistency
  value : Option String
  deriving DecidableEq, Repr

namespace Compiled

/-- The texts of an argument's blocks in order, as far as they are there. -/
def blockTexts (compiled : Compiled) (captures : List Pattern.Capture) (n : Nat) :
    List (Option (List Char)) :=
  (List.range (compiled.template.blockCount n)).map fun k =>
    Pattern.textOf? captures (.keyOff n (k + 1))

/-- The blocks from the second one on that disagree with the first one. -/
def disagreeing (argument : Argument) (blocks : List (Option (List Char))) :
    List Inconsistency :=
  match blocks with
  | [] => []
  | first :: others =>
    (others.mapIdx fun index block => (index + 2, block.isSome)).filterMap
      fun (occurrence, isPresent) =>
        if isPresent = first.isSome then none else some ⟨argument.name, occurrence, isPresent⟩

/-- What a message says about an optional argument. A block without a use of its argument yields
its own text. -/
def findOptional (compiled : Compiled) (captures : List Pattern.Capture) (n : Nat)
    (argument : Argument) : Finding :=
  let blocks := compiled.blockTexts captures n
  let captured := Pattern.textOf? captures (.argument n)
  let inconsistencies := disagreeing argument blocks
  match blocks, captured with
  | [], captured => ⟨inconsistencies, captured.map String.ofList⟩
  -- The first block stands for all: the others are compared with it.
  | none :: _, _ => ⟨inconsistencies, none⟩
  | some _ :: _, some text => ⟨inconsistencies, some (String.ofList text)⟩
  | some block :: _, none =>
    if n ∈ compiled.template.referenced then
      ⟨inconsistencies ++ [⟨argument.name, 1, true⟩], none⟩
    else ⟨inconsistencies, some (String.ofList block)⟩

/-- What a message says about an argument. -/
def find (compiled : Compiled) (captures : List Pattern.Capture) (n : Nat)
    (argument : Argument) : Finding :=
  if argument.optional then compiled.findOptional captures n argument
  else ⟨[], (Pattern.textOf? captures (.argument n)).map String.ofList⟩

/-- Extracts the arguments from a message. -/
def extract (compiled : Compiled) (arguments : List Argument) (message : String) : Extraction :=
  match compiled.pattern.captures? message.toList with
  | none => .mismatch
  | some captures =>
    let findings := (Argument.numbered arguments).map fun (n, argument) =>
      (argument, compiled.find captures n argument)
    -- A part that is only partly supplied is reported before one that is missing.
    let missing := (findings.find? fun (argument, finding) =>
      !argument.optional && finding.value.isNone).map fun found => found.1.id
    match findings.flatMap fun found => found.2.inconsistencies with
    | first :: rest => .inconsistent first rest missing
    | [] =>
      match missing with
      | some id => .incomplete id
      | none =>
        .complete (Json.Fields.sort (findings.map fun found => (found.1.id, found.2.value)))

end Compiled

/-- Extracts the arguments of a syntax string from a message. -/
def extract [Pattern.Builder] (sigil : String) (arguments : List Argument)
    (source message : String) :
    StateM Cache Extraction := do
  match ← Cache.getOrCompile sigil arguments source with
  | .ok compiled => return compiled.extract arguments message
  | .error error => return .notCompiled error

end ChatCommand
