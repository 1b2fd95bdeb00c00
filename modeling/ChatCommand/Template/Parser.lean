import ChatCommand.Argument
import ChatCommand.Template.Token

/-!
# Reading a syntax string

A syntax string opens with the tag `<prefix>`; its tokens then build a template from left to
right. Reading stops at the first token that breaks a rule:

- an argument exists, and is used once;
- an optional argument is used inside a block of its own only, a required one outside all
  blocks;
- two arguments are never side by side, whichever blocks are there;
- every block is opened by a well-formed head and closed.

## Main definitions

- `Template.ParseError`: the rule broken, and where.
- `Template.Draft`: a template in the making.
- `Template.parse`: reads a syntax string.
-/

namespace ChatCommand.Template

/-- The rule that a syntax string breaks. -/
inductive ParseProblem where
  | malformedTag
  | nonexistentArgument
  | repeatedArgument
  | optionalOutsideKeyOff
  | keyOffOnRequired
  | requiredInKeyOff
  | adjacentArguments
  | malformedArgument
  | malformedKeyOff
  | unterminatedKeyOff
  | unexpectedClose
  deriving DecidableEq, Repr

/-- The sentence for a broken rule. -/
def ParseProblem.message : ParseProblem → String
  | malformedTag => "syntax string must start with <prefix>"
  | nonexistentArgument => "argument identifier references a non-existent argument"
  | repeatedArgument => "argument referenced more than once"
  | optionalOutsideKeyOff => "optional argument used outside its own key-off block"
  | keyOffOnRequired => "key-off block references a required argument"
  | requiredInKeyOff => "required argument used inside a key-off block"
  | adjacentArguments => "argument identifiers must be separated by literal text"
  | malformedArgument => "malformed argument identifier"
  | malformedKeyOff => "malformed key-off block, expected \x7bopt $N\x7d[...]"
  | unterminatedKeyOff => "unterminated key-off block"
  | unexpectedClose => "closing bracket without an open key-off block"

/-- A broken rule and the number of bytes before the token that breaks it. -/
structure ParseError where
  problem : ParseProblem
  position : Nat
  deriving DecidableEq, Repr

/-- The sentence for an error, with its place. -/
def ParseError.message (error : ParseError) : String :=
  error.problem.message ++ " (at byte " ++ toString error.position ++ ")"

/-- A block that is still open: its owner, where it opened, the segments before it, latest
first, and whether an argument may stand directly before it. -/
structure Frame where
  owner : Nat
  openedAt : Nat
  before : Template
  afterArgument : Bool
  deriving DecidableEq, Repr

/-- A template in the making. -/
structure Draft where
  /-- The literal being collected, latest character first. -/
  pending : List Char
  /-- The finished segments of the innermost open sequence, latest first. -/
  built : Template
  /-- Whether an argument may stand directly before the next token. -/
  afterArgument : Bool
  /-- The arguments used so far. -/
  claimed : List Nat
  /-- The open blocks, innermost first. -/
  frames : List Frame
  deriving DecidableEq, Repr

namespace Draft

/-- Nothing read yet. -/
def empty : Draft := ⟨[], nil, false, [], []⟩

/-- The finished segments with the pending literal, if there is one. -/
def flushed (draft : Draft) : Template :=
  if draft.pending.isEmpty then draft.built else literal draft.pending.reverse draft.built

/-- One more character of a literal. -/
def pushChar (draft : Draft) (c : Char) : Draft :=
  { draft with pending := c :: draft.pending, afterArgument := false }

/-- One more argument. -/
def pushArgument (draft : Draft) (n : Nat) : Draft :=
  { draft with
    pending := []
    built := argument n draft.flushed
    afterArgument := true
    claimed := n :: draft.claimed }

/-- Enters a block. -/
def openBlock (draft : Draft) (owner position : Nat) : Draft :=
  { draft with
    pending := []
    built := nil
    frames := ⟨owner, position, draft.flushed, draft.afterArgument⟩ :: draft.frames }

/-- Leaves the innermost block. Without the block, what stands before it is next to what
follows. -/
def closeBlock (draft : Draft) (frame : Frame) (frames : List Frame) : Draft :=
  { draft with
    pending := []
    built := keyOff frame.owner draft.flushed.reverse frame.before
    -- Whether the block is there or not, an argument may end up before the next token.
    afterArgument := frame.afterArgument || draft.afterArgument
    frames }

end Draft

/-- The argument that digits name, with its ordinal. -/
def ordinalOf (arguments : List Argument) (digits : List Char) (position : Nat) :
    Except ParseError (Nat × Argument) :=
  if digits.isEmpty then .error ⟨.malformedArgument, position⟩
  else
    match Argument.withOrdinal? arguments (Text.natOfDigits digits) with
    | some declared => .ok (Text.natOfDigits digits, declared)
    | none => .error ⟨.nonexistentArgument, position⟩

/-- Uses an argument. -/
def claim (arguments : List Argument) (draft : Draft) (digits : List Char) (position : Nat) :
    Except ParseError Draft := do
  let (n, declared) ← ordinalOf arguments digits position
  -- Of several broken rules the earlier one in this order is reported.
  if draft.afterArgument then throw ⟨.adjacentArguments, position⟩
  if n ∈ draft.claimed then throw ⟨.repeatedArgument, position⟩
  if declared.optional then
    if n ∉ draft.frames.map Frame.owner then throw ⟨.optionalOutsideKeyOff, position⟩
  else
    if !draft.frames.isEmpty then throw ⟨.requiredInKeyOff, position⟩
  return draft.pushArgument n

/-- Opens a block. -/
def enter (arguments : List Argument) (draft : Draft) (header : Header) (position : Nat) :
    Except ParseError Draft :=
  match header with
  | .malformed => .error ⟨.malformedKeyOff, position⟩
  | .keyed offset digits closed => do
    -- What is wrong with the argument is reported at the argument, all else at the brace.
    let (n, declared) ← ordinalOf arguments digits (position + offset)
    if !closed then throw ⟨.malformedKeyOff, position⟩
    if !declared.optional then throw ⟨.keyOffOnRequired, position⟩
    return draft.openBlock n position

/-- Takes one token into the draft. -/
def step (arguments : List Argument) (draft : Draft) (spot : Token.Spot) :
    Except ParseError Draft :=
  match spot.token with
  | .char c => .ok (draft.pushChar c)
  | .argument digits => claim arguments draft digits spot.position
  | .keyOff header => enter arguments draft header spot.position
  | .close =>
    match draft.frames with
    | [] => .error ⟨.unexpectedClose, spot.position⟩
    | frame :: frames => .ok (draft.closeBlock frame frames)

/-- The template of a draft, once all its blocks are closed. -/
def finish (draft : Draft) : Except ParseError Template :=
  match draft.frames with
  | [] => .ok draft.flushed.reverse
  | frame :: _ => .error ⟨.unterminatedKeyOff, frame.openedAt⟩

/-- The tag that every syntax string opens with. -/
def tag : List Char := ['<', 'p', 'r', 'e', 'f', 'i', 'x', '>']

/-- Reads a syntax string over declared arguments. -/
def parse (arguments : List Argument) (source : String) : Except ParseError Template :=
  match Text.after? tag source.toList with
  | none => .error ⟨.malformedTag, 0⟩
  | some body => do
    -- Places count from the start of the tag, whose letters take one byte each.
    let draft ← (Token.scan tag.length body).foldlM (step arguments) Draft.empty
    let template ← finish draft
    return sigil template

end ChatCommand.Template
