import ChatCommand.Yaml.Token.Name

/-!
# The tokens of a text

Tokens are read from left to right. Outside brackets and braces, a line that is indented further
than the last list or record opens another one, and a line that is indented less closes some. A
key may come without a mark: whether a scalar was one shows only at the colon behind it, so the
place where the mark would have to be put is kept as long as the line lasts.

## Main definitions

- `Scan`: how far the reading of tokens has come.
- `Scan.step`: reads one more token.
- `tokens?`: the tokens of a text.
-/

namespace ChatCommand.Yaml

/-- A place at which an unmarked key may have started. -/
structure KeyPlace where
  /-- Whether only a key can stand here. -/
  required : Bool
  /-- The number of tokens before. -/
  position : Nat
  line : Nat
  column : Nat

namespace KeyPlace

/-- The greatest number of characters of an unmarked key. -/
def maxLength : Nat := 1024

/-- Whether a cursor has come too far for the key to end there. -/
def isPassed (place : KeyPlace) (cursor : Cursor) : Bool :=
  place.line < cursor.line || place.column + maxLength < cursor.column

end KeyPlace

/-- How far the reading of tokens has come. -/
structure Scan where
  cursor : Cursor
  /-- The tokens, the last one first. -/
  tokens : List Token := []
  /-- The number of tokens. -/
  count : Nat := 0
  /-- The indentations of the open lists and records, the innermost one first. -/
  indents : List Nat := []
  /-- Whether an unmarked key may start here. -/
  keyAllowed : Bool := true
  /-- Where an unmarked key may have started at this level of brackets and braces. -/
  key : Option KeyPlace := none
  /-- The same for the levels around. -/
  outer : List (Option KeyPlace) := []

namespace Scan

/-- Whether the reader is inside brackets or braces. -/
def inFlow (scan : Scan) : Bool := !scan.outer.isEmpty

/-- Adds a token. -/
def push (scan : Scan) (token : Token) : Scan :=
  { scan with tokens := token :: scan.tokens, count := scan.count + 1 }

/-- Puts a token behind the given number of tokens. -/
def insert (scan : Scan) (position : Nat) (token : Token) : Scan :=
  let later := scan.count - position
  { scan with
    tokens := scan.tokens.take later ++ token :: scan.tokens.drop later
    count := scan.count + 1 }

/-- Moves past some characters of the line. -/
def skip (scan : Scan) (count : Nat) : Scan := { scan with cursor := scan.cursor.drop count }

/-! ### Keys and indentation -/

/-- Gives up the place of a key, unless only a key can stand there. -/
def dropKey (scan : Scan) : Option Scan :=
  match scan.key with
  | some place => if place.required then none else some { scan with key := none }
  | none => some scan

/-- Keeps the present place as one where an unmarked key may start. -/
def saveKey (scan : Scan) : Option Scan :=
  if scan.keyAllowed then do
    let scan ← scan.dropKey
    let column := scan.cursor.column
    -- In the column of a record nothing but one of its keys can start.
    let required := !scan.inFlow && scan.indents.head? = some column
    some { scan with key := some ⟨required, scan.count, scan.cursor.line, column⟩ }
  else some scan

/-- The place of a key, if the cursor has not come too far. -/
def current (cursor : Cursor) : Option KeyPlace → Option (Option KeyPlace)
  | some place =>
    if place.isPassed cursor then if place.required then none else some none
    else some (some place)
  | none => some none

/-- Gives up the places of keys that the cursor has left behind. -/
def refresh (scan : Scan) : Option Scan := do
  let key ← current scan.cursor scan.key
  let outer ← scan.outer.mapM (current scan.cursor)
  some { scan with key, outer }

/-- Opens a list or record at a column, if that is further in than the last one. Its token goes
behind the given number of tokens. -/
def indentTo (scan : Scan) (column position : Nat) (token : Token) : Scan :=
  if scan.inFlow || scan.indents.head?.any (column ≤ ·) then scan
  else { scan.insert position token with indents := column :: scan.indents }

/-- Closes the lists and records that satisfy a condition on their columns. -/
def close (scan : Scan) (condition : Nat → Bool) : Scan :=
  if scan.inFlow then scan
  else
    let closed := scan.indents.takeWhile condition
    let scan := closed.foldl (fun scan _ => scan.push .blockEnd) scan
    { scan with indents := scan.indents.dropWhile condition }

/-- Closes the lists and records that are further in than a column. -/
def dedentTo (scan : Scan) (column : Nat) : Scan := scan.close (column < ·)

/-- Closes all lists and records. -/
def closeAll (scan : Scan) : Scan := scan.close fun _ => true

/-! ### White space -/

/-- Passes over white space and comments. Outside brackets and braces an unmarked key may start
on a new line, and a tab cannot stand before it. -/
def gapFrom (inFlow keyAllowed inComment : Bool) (line column : Nat) : List Char → Bool × Cursor
  | [] => (keyAllowed, ⟨[], line, column⟩)
  | c :: rest =>
    -- A break ends a comment too.
    if isBreak c then gapFrom inFlow (keyAllowed || !inFlow) false (line + 1) 0 rest
    else if inComment || c == '#' then gapFrom inFlow keyAllowed true line (column + 1) rest
    else if c == ' ' || (c == '\t' && (inFlow || !keyAllowed)) then
      gapFrom inFlow keyAllowed false line (column + 1) rest
    else (keyAllowed, ⟨c :: rest, line, column⟩)

/-- Passes over white space and comments. -/
def skipGap (scan : Scan) : Scan :=
  let cursor := scan.cursor
  let (keyAllowed, cursor) :=
    gapFrom scan.inFlow scan.keyAllowed false cursor.line cursor.column cursor.rest
  { scan with cursor, keyAllowed }

/-! ### Tokens -/

/-- Reads a directive. -/
def directive (scan : Scan) : Option Scan := do
  let scan ← scan.closeAll.dropKey
  let (token, rest) ← Token.ofDirective scan.cursor.rest.tail
  some { scan.push token with cursor := ⟨rest, scan.cursor.line + 1, 0⟩, keyAllowed := false }

/-- Reads a mark between documents. -/
def documentMark (scan : Scan) (token : Token) : Option Scan := do
  let scan ← scan.closeAll.dropKey
  some { (scan.push token).skip 3 with keyAllowed := false }

/-- Reads an opening bracket or brace. -/
def openFlow (scan : Scan) (token : Token) : Option Scan := do
  let scan ← scan.saveKey
  some { (scan.push token).skip 1 with
    key := none, outer := scan.key :: scan.outer, keyAllowed := true }

/-- Reads a closing bracket or brace. -/
def closeFlow (scan : Scan) (token : Token) : Option Scan := do
  let scan ← scan.dropKey
  let scan := match scan.outer with
    | key :: outer => { scan with key, outer }
    | [] => scan
  some { (scan.push token).skip 1 with keyAllowed := false }

/-- Reads a comma between entries. -/
def flowEntry (scan : Scan) : Option Scan := do
  let scan ← scan.dropKey
  some { (scan.push .flowEntry).skip 1 with keyAllowed := true }

/-- Reads the dash before an entry. -/
def blockEntry (scan : Scan) : Option Scan := do
  if !scan.inFlow && !scan.keyAllowed then none
  let scan ← (scan.indentTo scan.cursor.column scan.count .blockSequenceStart).dropKey
  some { (scan.push .blockEntry).skip 1 with keyAllowed := true }

/-- Reads the mark of a key. -/
def keyMark (scan : Scan) : Option Scan := do
  if !scan.inFlow && !scan.keyAllowed then none
  let scan ← (scan.indentTo scan.cursor.column scan.count .blockMappingStart).dropKey
  some { (scan.push .key).skip 1 with keyAllowed := !scan.inFlow }

/-- Reads the colon before a value, which may turn what stands before it into a key. -/
def valueMark (scan : Scan) : Option Scan := do
  match scan.key with
  -- What was read since that place was a key, and perhaps the first one of a record.
  | some place =>
    let scan := (scan.insert place.position .key).indentTo place.column place.position
      .blockMappingStart
    some { (scan.push .value).skip 1 with key := none, keyAllowed := false }
  | none =>
    -- The key is empty, or has a mark of its own.
    if !scan.inFlow && !scan.keyAllowed then none
    let scan := scan.indentTo scan.cursor.column scan.count .blockMappingStart
    some { (scan.push .value).skip 1 with keyAllowed := !scan.inFlow }

/-- Reads a name behind an indicator, which may start a key. -/
def named (scan : Scan) (read : List Char → Option (Token × List Char)) : Option Scan := do
  let scan ← scan.saveKey
  let (token, rest) ← read scan.cursor.rest.tail
  some { scan.push token with cursor := scan.cursor.upTo rest, keyAllowed := false }

/-- Reads a block scalar, which cannot be a key. -/
def blockScalar (scan : Scan) (style : Style) : Option Scan := do
  let scan ← scan.dropKey
  let (text, cursor) ← block (style == .folded) scan.indents.head? scan.cursor
  some { scan.push (.scalar style text) with cursor, keyAllowed := true }

/-- Reads a quoted scalar, which may be a key. -/
def quotedScalar (scan : Scan) (style : Style) (read : Cursor → Option (String × Cursor)) :
    Option Scan := do
  let scan ← scan.saveKey
  let (text, cursor) ← read scan.cursor
  some { scan.push (.scalar style text) with cursor, keyAllowed := false }

/-- Reads a plain scalar, which may be a key. -/
def plainScalar (scan : Scan) : Option Scan := do
  let scan ← scan.saveKey
  let around : Surroundings := ⟨scan.inFlow, scan.indents.head?.elim 0 (· + 1)⟩
  let plain ← plain around scan.cursor
  some { scan.push (.scalar .plain plain.text) with
    cursor := plain.cursor, keyAllowed := plain.broken }

/-- The characters that cannot start a plain scalar, unless some of them stand before a word. -/
def isIndicator (c : Char) : Bool :=
  isFlowIndicator c ||
    c ∈ ['-', '?', ':', '#', '&', '*', '!', '|', '>', '\'', '"', '%', '@', '\x60']

/-- Whether a plain scalar can start with a character. -/
def startsPlain (inFlow : Bool) (c : Char) (rest : List Char) : Bool :=
  (!isBlank c && !isIndicator c) || (c == '-' && !rest.head?.any isBlank) ||
    (!inFlow && (c == '?' || c == ':') && !endsWord rest)

/-- Reads one more token, which starts with the given character. -/
def token (scan : Scan) (c : Char) (rest : List Char) : Option Scan :=
  let atStart := scan.cursor.column == 0
  if atStart && c == '%' then scan.directive
  else if atStart && atDocumentMark (c :: rest) then
    scan.documentMark (if c = '-' then .documentStart else .documentEnd)
  else if c = '[' then scan.openFlow .flowSequenceStart
  else if c = '\x7b' then scan.openFlow .flowMappingStart
  else if c = ']' then scan.closeFlow .flowSequenceEnd
  else if c = '\x7d' then scan.closeFlow .flowMappingEnd
  else if c = ',' then scan.flowEntry
  else if c == '-' && endsWord rest then scan.blockEntry
  else if c == '?' && (scan.inFlow || endsWord rest) then scan.keyMark
  else if c == ':' && (scan.inFlow || endsWord rest) then scan.valueMark
  else if c = '*' then scan.named (Token.ofAnchor .alias)
  else if c = '&' then scan.named (Token.ofAnchor .anchor)
  else if c = '!' then scan.named (Token.ofTag scan.inFlow)
  else if c == '|' && !scan.inFlow then scan.blockScalar .literal
  else if c == '>' && !scan.inFlow then scan.blockScalar .folded
  else if c = '\'' then scan.quotedScalar .singleQuoted singleQuoted
  else if c = '"' then scan.quotedScalar .doubleQuoted doubleQuoted
  else if startsPlain scan.inFlow c rest then scan.plainScalar
  else none

/-- Reads tokens up to the end of the text. Each takes at least one character. -/
def run : Nat → Scan → Option (List Token)
  | 0, _ => none
  | fuel + 1, scan => do
    let scan ← scan.skipGap.refresh
    let scan := scan.dedentTo scan.cursor.column
    match scan.cursor.rest with
    | [] => do
      let scan ← scan.closeAll.dropKey
      some (scan.push .streamEnd).tokens.reverse
    | c :: rest => run fuel (← scan.token c rest)

end Scan

/-- The tokens of a text, if it has any. -/
def tokens? (text : String) : Option (List Token) :=
  if text.toList.all isAllowed then
    Scan.run (text.length + 1) { cursor := .start text }
  else none

end ChatCommand.Yaml
