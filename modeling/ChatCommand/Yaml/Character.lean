/-!
# Characters of YAML

The classes of characters that the notation tells apart. The several ways to end a line are
brought down to one before anything else happens; the line and paragraph separators end a line
too, but stay themselves.
-/

namespace ChatCommand.Yaml

/-- Whether a character may stand in a document. -/
def isAllowed (c : Char) : Bool :=
  let n := c.toNat
  n == 0x09 || n == 0x0A || n == 0x0D || (0x20 ≤ n && n ≤ 0x7E) || n == 0x85 ||
    (0xA0 ≤ n && n ≤ 0xD7FF) || (0xE000 ≤ n && n ≤ 0xFFFD) || 0x10000 ≤ n

/-- The mark that may open a text to tell the order of its bytes. -/
def byteOrderMark : Char := '\uFEFF'

/-- Whether a character ends a line. -/
def isBreak (c : Char) : Bool := c == '\n' || c == '\u2028' || c == '\u2029'

/-- Whether a character is a blank within a line. -/
def isBlank (c : Char) : Bool := c == ' ' || c == '\t'

/-- Whether a character may be part of the name of an anchor, a tag or a directive. -/
def isNameChar (c : Char) : Bool := c.isAlphanum || c == '_' || c == '-'

/-- A text in which every line ends in the same way. -/
def unifyBreaks : List Char → List Char
  | [] => []
  | '\r' :: '\n' :: rest => '\n' :: unifyBreaks rest
  | c :: rest => (if c = '\r' || c = '\u0085' then '\n' else c) :: unifyBreaks rest

/-- Whether a word ends before the given text. -/
def endsWord : List Char → Bool
  | [] => true
  | c :: _ => isBlank c || isBreak c

/-- Whether a line starts with one of the marks between documents. -/
def atDocumentMark : List Char → Bool
  | '-' :: '-' :: '-' :: rest | '.' :: '.' :: '.' :: rest => endsWord rest
  | _ => false

/-- How far a reader has come in a text: what is ahead, and in which line and column that
starts, both counted from zero. -/
structure Cursor where
  rest : List Char
  line : Nat
  column : Nat
  deriving DecidableEq, Repr

namespace Cursor

/-- The start of a text. -/
def start (text : String) : Cursor :=
  match unifyBreaks text.toList with
  | c :: rest => if c = byteOrderMark then ⟨rest, 0, 1⟩ else ⟨c :: rest, 0, 0⟩
  | [] => ⟨[], 0, 0⟩

/-- Past some characters of the line. -/
def drop (cursor : Cursor) (count : Nat) : Cursor :=
  ⟨cursor.rest.drop count, cursor.line, cursor.column + count⟩

/-- Past the characters of the line before the given rest. -/
def upTo (cursor : Cursor) (rest : List Char) : Cursor :=
  ⟨rest, cursor.line, cursor.column + (cursor.rest.length - rest.length)⟩

end Cursor

end ChatCommand.Yaml
