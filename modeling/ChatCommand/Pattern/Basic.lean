import ChatCommand.Template.Basic

/-!
# Patterns

A template with the active prefix filled in is a pattern: fixed texts, captures of arguments
and optional blocks, the captures and blocks being named groups. The blocks of an argument are
numbered from one in the order in which they open. A pattern has a written form in the usual
notation of regular expressions.

## Main definitions

- `Group`, `Pattern`: patterns and the groups in them.
- `Template.toPattern`: the pattern of a template under a prefix.
- `Pattern.render`: the written form.
-/

namespace ChatCommand

/-- A named group of a pattern. -/
inductive Group where
  /-- The text of an argument. -/
  | argument (ordinal : Nat)
  /-- A block of an argument, by its number among the blocks of that argument. -/
  | keyOff (ordinal occurrence : Nat)
  deriving DecidableEq, Repr

/-- The name of a group. -/
def Group.name : Group → String
  | argument n => "arg_" ++ toString n
  | keyOff n k => "keyoff_" ++ toString n ++ "_" ++ toString k

/-- A sequence of parts that a message is made of. -/
inductive Pattern where
  /-- The end of the sequence. -/
  | done
  /-- A fixed text up to letter case, then the rest. -/
  | text (chars : List Char) (rest : Pattern)
  /-- Any non-empty text, as short as possible, then the rest. -/
  | capture (ordinal : Nat) (rest : Pattern)
  /-- The content, if possible, or nothing, then the rest. -/
  | block (ordinal occurrence : Nat) (content rest : Pattern)
  deriving DecidableEq, Repr, Inhabited

namespace Template

/-- The pattern of a template. The list holds the owners of the blocks that opened earlier; it is
returned with those of this template added. -/
def number (sigilText : List Char) (opened : List Nat) : Template → Pattern × List Nat
  | nil => (.done, opened)
  | sigil rest =>
    let (pattern, opened) := rest.number sigilText opened
    (.text sigilText pattern, opened)
  | literal text rest =>
    let (pattern, opened) := rest.number sigilText opened
    (.text text pattern, opened)
  | argument n rest =>
    let (pattern, opened) := rest.number sigilText opened
    (.capture n pattern, opened)
  | keyOff n content rest =>
    -- The block counts as opened before those inside it.
    let occurrence := opened.count n + 1
    let (inside, opened) := content.number sigilText (n :: opened)
    let (pattern, opened) := rest.number sigilText opened
    (.block n occurrence inside pattern, opened)

/-- The pattern of a template under a prefix. -/
def toPattern (sigilText : String) (template : Template) : Pattern :=
  (template.number sigilText.toList []).1

end Template

namespace Pattern

/-- The groups of a pattern in the order in which they open. -/
def groups : Pattern → List Group
  | done => []
  | text _ rest => rest.groups
  | capture n rest => .argument n :: rest.groups
  | block n k content rest => .keyOff n k :: (content.groups ++ rest.groups)

/-- The characters that would act as operators and are therefore escaped. -/
def metacharacters : List Char :=
  ['\\', '.', '+', '*', '?', '(', ')', '|', '[', ']', '\x7b', '\x7d', '^', '$', '#', '&', '-', '~']

/-- How a character of a fixed text is written. -/
def escapedChar (c : Char) : List Char := if c ∈ metacharacters then ['\\', c] else [c]

/-- The opening of a group. -/
def openGroup (group : Group) : List Char :=
  ['(', '?', 'P', '<'] ++ group.name.toList ++ ['>']

/-- The written form of a sequence, without the anchors. -/
def renderBody : Pattern → List Char
  | done => []
  | text chars rest => chars.flatMap escapedChar ++ rest.renderBody
  | capture n rest => openGroup (.argument n) ++ ['.', '+', '?', ')'] ++ rest.renderBody
  | block n k content rest =>
    openGroup (.keyOff n k) ++ content.renderBody ++ [')', '?'] ++ rest.renderBody

/-- The written form of a pattern, which covers a whole message. -/
def render (pattern : Pattern) : String := String.ofList ('^' :: pattern.renderBody ++ ['$'])

end Pattern

end ChatCommand
