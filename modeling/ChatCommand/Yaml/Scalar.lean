import ChatCommand.Text.Ascii
import ChatCommand.Yaml.Character

/-!
# Scalars

A scalar is a text in one of five styles. In plain and quoted ones a line break stands for a
space, and n + 1 breaks for n; in folded ones that holds between lines that are not indented
further; in literal ones every line break stands for itself.

## Main definitions

- `Gap`: white space between the words of a scalar.
- `singleQuoted`, `doubleQuoted`, `plain`, `block`: the scalar ahead and what follows it.
-/

namespace ChatCommand.Yaml

/-- The style in which a scalar is written. -/
inductive Style where
  | plain
  | singleQuoted
  | doubleQuoted
  | literal
  | folded
  deriving DecidableEq, Repr

/-- White space inside a scalar that has been read but has not become text yet. -/
structure Gap where
  /-- Blanks, the last one first. -/
  blanks : List Char := []
  /-- Whether a line has ended. -/
  broken : Bool := false
  /-- The break that ended the line, unless it was escaped. -/
  first : Option Char := none
  /-- Further breaks, the last one first. -/
  more : List Char := []

namespace Gap

/-- Whether there is no white space. -/
def isEmpty (gap : Gap) : Bool := gap.blanks.isEmpty && !gap.broken

/-- One more blank, which only counts before the first break. -/
def blank (gap : Gap) (c : Char) : Gap :=
  if gap.broken then gap else { gap with blanks := c :: gap.blanks }

/-- One more break. Blanks at the end of a line do not count. -/
def lineBreak (gap : Gap) (c : Char) : Gap :=
  if gap.broken then { gap with more := c :: gap.more } else { broken := true, first := some c }

/-- The text that the white space stands for. -/
def text (gap : Gap) : List Char :=
  if !gap.broken then gap.blanks.reverse
  else if gap.first = some '\n' then if gap.more.isEmpty then [' '] else gap.more.reverse
  else gap.first.toList ++ gap.more.reverse

/-- Puts the text in front of characters in reverse order. -/
def onto (gap : Gap) (done : List Char) : List Char := gap.text.reverse ++ done

end Gap

/-! ### Quoted scalars -/

/-- Reads a single-quoted scalar after its opening quote. A quote in it is written twice. -/
def singleQuotedFrom (done : List Char) (gap : Gap) (line column : Nat) :
    List Char → Option (String × Cursor)
  | [] => none
  | c :: rest =>
    if isBlank c then singleQuotedFrom done (gap.blank c) line (column + 1) rest
    else if isBreak c then singleQuotedFrom done (gap.lineBreak c) (line + 1) 0 rest
    else if column = 0 && atDocumentMark (c :: rest) then none
    else if c = '\'' then
      match rest with
      | '\'' :: rest => singleQuotedFrom ('\'' :: gap.onto done) {} line (column + 2) rest
      | _ => some (String.ofList (gap.onto done).reverse, ⟨rest, line, column + 1⟩)
    else singleQuotedFrom (c :: gap.onto done) {} line (column + 1) rest

/-- Reads the single-quoted scalar ahead. -/
def singleQuoted (cursor : Cursor) : Option (String × Cursor) :=
  singleQuotedFrom [] {} cursor.line (cursor.column + 1) cursor.rest.tail

/-- Where a double-quoted scalar stands with an escape. -/
inductive Escape where
  | none
  | begun
  /-- A character is given by its number, of which digits are left. -/
  | code (left value : Nat)

/-- The number of digits in the escape that a letter opens. -/
def codeLength? : Char → Option Nat
  | 'x' => some 2
  | 'u' => some 4
  | 'U' => some 8
  | _ => none

/-- The character that a one-letter escape stands for. -/
def escaped? : Char → Option Char
  | '0' => some (Char.ofNat 0)
  | 'a' => some (Char.ofNat 7)
  | 'b' => some (Char.ofNat 8)
  | 't' | '\t' => some '\t'
  | 'n' => some '\n'
  | 'v' => some (Char.ofNat 11)
  | 'f' => some (Char.ofNat 12)
  | 'r' => some '\r'
  | 'e' => some (Char.ofNat 27)
  | ' ' => some ' '
  | '"' => some '"'
  | '/' => some '/'
  | '\\' => some '\\'
  | 'N' => some '\u0085'
  | '_' => some '\u00A0'
  | 'L' => some '\u2028'
  | 'P' => some '\u2029'
  | _ => none

/-- The character of a number. -/
def charOfCode? (value : Nat) : Option Char :=
  if (0xD800 ≤ value && value ≤ 0xDFFF) || 0x10FFFF < value then none
  else some (Char.ofNat value)

/-- Reads a double-quoted scalar after its opening quote. -/
def doubleQuotedFrom (done : List Char) (gap : Gap) (escape : Escape) (line column : Nat) :
    List Char → Option (String × Cursor)
  | [] => none
  | c :: rest =>
    match escape with
    | .begun =>
      -- An escaped break stands for nothing, and blanks behind it do not count.
      if isBreak c then doubleQuotedFrom done { broken := true } .none (line + 1) 0 rest
      else
        match codeLength? c with
        | some digits => doubleQuotedFrom done {} (.code digits 0) line (column + 1) rest
        | none => do doubleQuotedFrom ((← escaped? c) :: done) {} .none line (column + 1) rest
    | .code left value => do
      let value := 16 * value + (← Text.hexValue? c)
      if 1 < left then doubleQuotedFrom done {} (.code (left - 1) value) line (column + 1) rest
      else doubleQuotedFrom ((← charOfCode? value) :: done) {} .none line (column + 1) rest
    | .none =>
      if isBlank c then doubleQuotedFrom done (gap.blank c) .none line (column + 1) rest
      else if isBreak c then doubleQuotedFrom done (gap.lineBreak c) .none (line + 1) 0 rest
      else if column = 0 && atDocumentMark (c :: rest) then none
      else if c = '"' then
        some (String.ofList (gap.onto done).reverse, ⟨rest, line, column + 1⟩)
      else if c = '\\' then doubleQuotedFrom (gap.onto done) {} .begun line (column + 1) rest
      else doubleQuotedFrom (c :: gap.onto done) {} .none line (column + 1) rest

/-- Reads the double-quoted scalar ahead. -/
def doubleQuoted (cursor : Cursor) : Option (String × Cursor) :=
  doubleQuotedFrom [] {} .none cursor.line (cursor.column + 1) cursor.rest.tail

/-! ### Plain scalars -/

/-- Where a plain scalar stands: inside brackets or braces, and how far its lines have to be
indented otherwise. -/
structure Surroundings where
  inFlow : Bool
  indent : Nat

/-- A plain scalar with the cursor after it; white space that follows is passed over. -/
structure Plain where
  text : String
  /-- Whether a line ended in the white space that follows. -/
  broken : Bool
  cursor : Cursor

/-- Whether a plain scalar cannot go on with a word. -/
def stopsBeforeWord (around : Surroundings) (column : Nat) (text : List Char) : Bool :=
  (!around.inFlow && column < around.indent) || (column = 0 && atDocumentMark text) ||
    text.head? = some '#'

/-- The characters that structure lists and records in brackets and braces. -/
def isFlowIndicator (c : Char) : Bool :=
  c == ',' || c == '[' || c == ']' || c == '\x7b' || c == '\x7d'

/-- Whether a plain scalar ends before a character within a word. -/
def stopsInWord (around : Surroundings) (c : Char) (rest : List Char) : Bool :=
  (c == ':' && endsWord rest) || (around.inFlow && isFlowIndicator c)

/-- Whether a colon stands where neither a plain scalar nor a value can go on. -/
def isStrayColon (around : Surroundings) (c : Char) (rest : List Char) : Bool :=
  around.inFlow && c == ':' && rest.head?.any fun d => isFlowIndicator d || d == '?'

/-- Reads a plain scalar. -/
def plainFrom (around : Surroundings) (done : List Char) (gap : Gap) (line column : Nat) :
    List Char → Option Plain
  | [] => some ⟨String.ofList done.reverse, gap.broken, ⟨[], line, column⟩⟩
  | c :: rest =>
    if isBlank c then
      -- A tab cannot indent a further line.
      if gap.broken && column < around.indent && c == '\t' then none
      else plainFrom around done (gap.blank c) line (column + 1) rest
    else if isBreak c then plainFrom around done (gap.lineBreak c) (line + 1) 0 rest
    else if !gap.isEmpty && stopsBeforeWord around column (c :: rest) then
      some ⟨String.ofList done.reverse, gap.broken, ⟨c :: rest, line, column⟩⟩
    else if isStrayColon around c rest then none
    else if stopsInWord around c rest then
      some ⟨String.ofList done.reverse, gap.broken, ⟨c :: rest, line, column⟩⟩
    else plainFrom around (c :: gap.onto done) {} line (column + 1) rest

/-- Reads the plain scalar ahead. -/
def plain (around : Surroundings) (cursor : Cursor) : Option Plain :=
  plainFrom around [] {} cursor.line cursor.column cursor.rest

/-! ### Block scalars -/

/-- What becomes of the line breaks at the end of a block scalar. -/
inductive Chomping where
  /-- None is kept. -/
  | strip
  /-- The first one is kept. -/
  | clip
  /-- All are kept. -/
  | keep
  deriving DecidableEq, Repr

/-- The sign that tells about the line breaks at the end. -/
def chompingOf : List Char → Chomping × List Char
  | '+' :: rest => (.keep, rest)
  | '-' :: rest => (.strip, rest)
  | rest => (.clip, rest)

/-- The digit that tells by how much a block scalar is indented; zero is refused. -/
def incrementOf : List Char → Option (Option Nat × List Char)
  | [] => some (none, [])
  | c :: rest =>
    if c = '0' then none
    else if c.isDigit then some (some (c.toNat - '0'.toNat), rest)
    else some (none, c :: rest)

/-- The signs after the indicator of a block scalar, in either order. -/
def blockHeader (text : List Char) : Option (Chomping × Option Nat × List Char) := do
  match chompingOf text with
  | (.clip, _) =>
    let (increment, rest) ← incrementOf text
    if increment.isNone then return (.clip, none, rest)
    let (chomping, rest) := chompingOf rest
    return (chomping, increment, rest)
  | (chomping, rest) =>
    let (increment, rest) ← incrementOf rest
    return (chomping, increment, rest)

/-- The end of a line with nothing more than a comment. -/
def lineEnd (text : List Char) : Option (List Char) :=
  let rest := text.dropWhile isBlank
  let rest := if rest.head? = some '#' then rest.dropWhile (!isBreak ·) else rest
  match rest with
  | [] => some []
  | c :: rest => if isBreak c then some rest else none

/-- Empty lines, and the indentation before the next line: up to a given column or, if that is
still to be found, all of it. -/
structure Margin where
  /-- The breaks of the empty lines, the last one first. -/
  breaks : List Char
  /-- The widest indentation seen. -/
  widest : Nat
  cursor : Cursor

/-- Passes over empty lines and indentation. A tab cannot indent. -/
def marginFrom (indent : Option Nat) (breaks : List Char) (widest line column : Nat) :
    List Char → Option Margin
  | [] => some ⟨breaks, max widest column, ⟨[], line, column⟩⟩
  | c :: rest =>
    let inside := indent.all (column < ·)
    if inside && c == ' ' then marginFrom indent breaks widest line (column + 1) rest
    else if inside && c == '\t' then none
    else if isBreak c then
      marginFrom indent (c :: breaks) (max widest column) (line + 1) 0 rest
    else some ⟨breaks, max widest column, ⟨c :: rest, line, column⟩⟩

/-- A block scalar that has been read in part. -/
structure BlockDraft where
  /-- The text so far, in reverse order. -/
  done : List Char
  /-- The break after the last line. -/
  lineBreak : Option Char
  /-- Whether the last line starts with a blank. -/
  blankLine : Bool
  /-- The empty lines since, and where the next line starts. -/
  margin : Margin

/-- What becomes of the break after a line when another line follows that starts with the given
character. -/
def BlockDraft.joint (folds : Bool) (draft : BlockDraft) (next : Char) : List Char :=
  if folds && draft.lineBreak = some '\n' && !draft.blankLine && !isBlank next then
    if draft.margin.breaks.isEmpty then [' '] else []
  else draft.lineBreak.toList

/-- Reads the lines of a block scalar that are indented as far as the first one. -/
def blockLines (folds : Bool) (indent : Nat) : Nat → BlockDraft → Option BlockDraft
  | 0, draft => some draft
  | fuel + 1, draft => do
    let cursor := draft.margin.cursor
    match cursor.rest with
    | [] => some draft
    | c :: _ =>
      if cursor.column ≠ indent then some draft
      else
        let words := cursor.rest.takeWhile (!isBreak ·)
        let done := words.reverse ++
          (draft.margin.breaks ++ ((draft.joint folds c).reverse ++ draft.done))
        match cursor.rest.dropWhile (!isBreak ·) with
        | [] =>
          let column := cursor.column + words.length
          some ⟨done, none, isBlank c, ⟨[], 0, ⟨[], cursor.line, column⟩⟩⟩
        | b :: rest =>
          let margin ← marginFrom (some indent) [] 0 (cursor.line + 1) 0 rest
          blockLines folds indent fuel ⟨done, some b, isBlank c, margin⟩

/-- Reads the block scalar ahead; `parent` is the indentation around it, if there is any. -/
def block (folds : Bool) (parent : Option Nat) (cursor : Cursor) : Option (String × Cursor) := do
  let (chomping, increment, rest) ← blockHeader cursor.rest.tail
  let rest ← lineEnd rest
  -- Without a digit, the first line that is not empty tells the indentation.
  let given := increment.map (parent.getD 0 + ·)
  let margin ← marginFrom given [] 0 (cursor.line + 1) 0 rest
  let indent := given.getD (max margin.widest (max (parent.elim 0 (· + 1)) 1))
  let draft ← blockLines folds indent (rest.length + 1) ⟨[], none, false, margin⟩
  let done := match chomping with
    | .strip => draft.done
    | .clip => draft.lineBreak.toList ++ draft.done
    | .keep => draft.margin.breaks ++ (draft.lineBreak.toList ++ draft.done)
  return (String.ofList done.reverse, draft.margin.cursor)

end ChatCommand.Yaml
