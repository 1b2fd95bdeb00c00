import ChatCommand.Content
import ChatCommand.Yaml.Meaning
import ChatCommand.Yaml.Scalar

/-!
# YAML text

Writing content: every item and field on lines of its own, two columns further in for each
level, except that the items of a list stand as far in as the record around it. A text is quoted
where it would mean something else otherwise, and written line by line where it has several
lines.

## Main definitions

- `Content.toYaml`: the text of content.
-/

namespace ChatCommand.Yaml

/-! ### The style of a text -/

/-- Whether a character is written as it is. -/
def isPrintable (c : Char) : Bool :=
  let n := c.toNat
  n == 0x0A || (0x20 ≤ n && n ≤ 0x7E) || (0xA0 ≤ n && n ≤ 0xD7FF) ||
    (0xE000 ≤ n && n ≤ 0xFFFD && n != 0xFEFF) || 0x10000 ≤ n

/-- The characters that cannot start a plain text. -/
def openingIndicators : List Char :=
  ['#', ',', '[', ']', '\x7b', '\x7d', '&', '*', '!', '|', '>', '\'', '"', '%', '@', '\x60']

/-- Whether a colon before white space, or a number sign behind it, is in the rest of a text. -/
def hasInnerIndicator (afterSpace : Bool) : List Char → Bool
  | [] => false
  | c :: rest =>
    (c == ':' && endsWord rest) || (c == '#' && afterSpace) ||
      hasInnerIndicator (isBlank c || isBreak c) rest

/-- Whether a text would not be read as a plain scalar. -/
def hasIndicator (text : List Char) : Bool :=
  match text with
  | [] => false
  | c :: rest =>
    c ∈ openingIndicators || (c ∈ ['?', ':', '-'] && endsWord rest) ||
      ['-', '-', '-'].isPrefixOf text || ['.', '.', '.'].isPrefixOf text ||
      hasInnerIndicator (isBlank c || isBreak c) rest

/-- Whether two neighbours in a text satisfy a condition. -/
def hasNeighbours (condition : Char → Char → Bool) : List Char → Bool
  | c :: d :: rest => condition c d || hasNeighbours condition (d :: rest)
  | _ => false

/-- Whether a text has a space before a line break. -/
def hasSpaceBeforeBreak (text : List Char) : Bool :=
  hasNeighbours (fun c d => c == ' ' && isBreak d) text

/-- Whether a text has a space behind a line break. -/
def hasSpaceAfterBreak (text : List Char) : Bool :=
  hasNeighbours (fun c d => isBreak c && d == ' ') text

/-- Whether a text can be written without escapes, but for spaces in bad places. -/
def isSimple (text : List Char) : Bool :=
  text.all isPrintable && !hasSpaceBeforeBreak text

/-- Whether a text can be written between single quotes. -/
def fitsQuotes (text : List Char) : Bool := isSimple text && !hasSpaceAfterBreak text

/-- Whether a text can be written without quotes on one line. -/
def fitsPlain (text : List Char) : Bool :=
  fitsQuotes text && !text.any isBreak && text.head? != some ' ' && text.getLast? != some ' ' &&
    !hasIndicator text

/-- Whether a text can be written line by line. -/
def fitsBlock (text : List Char) : Bool := isSimple text && text.getLast? != some ' '

/-- Whether a text would mean something else without quotes. -/
def isAmbiguous (text : String) : Bool :=
  Meaning.of text != .text || Meaning.hasLeadingZero (Meaning.unsigned text.toList)

/-- The style in which a text is written. -/
def styleOf (text : String) : Style :=
  let chars := text.toList
  if '\n' ∈ chars then
    if fitsBlock chars then .literal else .doubleQuoted
  else if !isAmbiguous text && fitsPlain chars then .plain
  else if fitsQuotes chars then .singleQuoted
  else .doubleQuoted

/-! ### Writing texts -/

/-- The spaces of an indentation. -/
def spaces (indent : Nat) : List Char := List.replicate indent ' '

/-- Writes characters, with an indentation on every line that is not empty. -/
def indented (indent : Nat) (write : Char → List Char) (atStart : Bool) :
    List Char → List Char
  | [] => []
  | c :: rest =>
    if isBreak c then c :: indented indent write true rest
    else if atStart then spaces indent ++ write c ++ indented indent write false rest
    else write c ++ indented indent write false rest

/-- A text between single quotes. -/
def writeQuoted (indent : Nat) (text : List Char) : List Char :=
  let body := indented indent (fun c => if c = '\'' then ['\'', '\''] else [c]) false text
  '\'' :: body ++ (if text.getLast?.any isBreak then spaces indent else []) ++ ['\'']

/-- The digits of a number in base sixteen, of which there are at least `width`. -/
def hexDigits (width n : Nat) : List Char :=
  let digits := (Nat.toDigits 16 n).map Char.toUpper
  List.replicate (width - digits.length) '0' ++ digits

/-- A character by its number. -/
def numberEscape (n : Nat) : List Char :=
  if n < 0x100 then '\\' :: 'x' :: hexDigits 2 n
  else if n < 0x10000 then '\\' :: 'u' :: hexDigits 4 n
  else '\\' :: 'U' :: hexDigits 8 n

/-- A character between double quotes. -/
def escapedChar (c : Char) : List Char :=
  if c = '"' ∨ c = '\\' then ['\\', c]
  else if isPrintable c && !isBreak c then [c]
  else
    match c.toNat with
    | 0 => ['\\', '0']
    | 7 => ['\\', 'a']
    | 8 => ['\\', 'b']
    | 9 => ['\\', 't']
    | 10 => ['\\', 'n']
    | 11 => ['\\', 'v']
    | 12 => ['\\', 'f']
    | 13 => ['\\', 'r']
    | 27 => ['\\', 'e']
    | 0x85 => ['\\', 'N']
    | 0x2028 => ['\\', 'L']
    | 0x2029 => ['\\', 'P']
    | n => numberEscape n

/-- The sign that tells about the line breaks at the end of a text. -/
def chompingSign (text : List Char) : List Char :=
  match text.reverse with
  | [] => ['-']
  | [c] => if isBreak c then ['+'] else ['-']
  | c :: d :: _ => if !isBreak c then ['-'] else if isBreak d then ['+'] else []

/-- A text line by line; the last line break is left to what follows. -/
def writeLiteral (indent : Nat) (text : List Char) : List Char :=
  -- Where the first line starts with a space, it cannot tell the indentation.
  let sign := if text.head?.any fun c => c == ' ' || isBreak c then ['2'] else []
  let body := indented indent (fun c => [c]) true text
  let body := if text.getLast? = some '\n' then body.dropLast else body
  '|' :: sign ++ chompingSign text ++ '\n' :: body

/-- Writes a text; further lines have the given indentation. -/
def writeText (indent : Nat) (text : String) : List Char :=
  let chars := text.toList
  match styleOf text with
  | .plain => chars
  | .literal => writeLiteral indent chars
  | .doubleQuoted => '"' :: chars.flatMap escapedChar ++ ['"']
  | .singleQuoted | .folded => writeQuoted indent chars

/-- Writes a number that is infinite or none at all. -/
def writeSpecial (name : String) : String :=
  if name = "NaN" then ".nan" else if name = "-inf" then "-.inf" else ".inf"

/-! ### Writing content -/

/-- The greatest number of bytes of a key that comes without a mark. -/
def maxKeyBytes : Nat := 128

/-- Whether content can be a key without a mark. -/
def isShortKey : Content → Bool
  | .text s => s.utf8ByteSize ≤ maxKeyBytes && !s.toList.any isBreak
  | .list items => items.isEmpty
  | .record fields => fields.isEmpty
  | _ => true

/-- A line break and an indentation. -/
def newLine (indent : Nat) : List Char := '\n' :: spaces indent

mutual

/-- Writes content; the lines after the first one have at least the given indentation. -/
def write (indent : Nat) : Content → List Char
  | .null => "null".toList
  | .bool b => (if b then "true" else "false").toList
  | .number (.whole n) => (toString n).toList
  | .number (.real x) => (NumberLayout.data.write x).toList
  | .special name => (writeSpecial name).toList
  | .text s => writeText indent s
  | .list [] => "[]".toList
  | .list items => (newLine indent).intercalate (writeItems indent items)
  | .record [] => ['\x7b', '\x7d']
  | .record fields => (newLine indent).intercalate (writeFields indent fields)

/-- Writes the items of a list. -/
def writeItems (indent : Nat) : List Content → List (List Char)
  | [] => []
  | item :: rest => (['-', ' '] ++ write (indent + 2) item) :: writeItems indent rest

/-- Writes the fields of a record. -/
def writeFields (indent : Nat) : List (Content × Content) → List (List Char)
  | [] => []
  | (key, value) :: rest =>
    let field :=
      if isShortKey key then write (indent + 2) key ++ ':' :: writeValue indent value
      else
        ['?', ' '] ++ write (indent + 2) key ++ newLine indent ++ [':', ' '] ++
          write (indent + 2) value
    field :: writeFields indent rest

/-- Writes the value of a field behind the colon. -/
def writeValue (indent : Nat) : Content → List Char
  | .list (item :: rest) =>
    newLine indent ++ (newLine indent).intercalate (writeItems indent (item :: rest))
  | .record (field :: rest) =>
    newLine (indent + 2) ++
      (newLine (indent + 2)).intercalate (writeFields (indent + 2) (field :: rest))
  | .null => " null".toList
  | .bool b => (if b then " true" else " false").toList
  | .number (.whole n) => ' ' :: (toString n).toList
  | .number (.real x) => ' ' :: (NumberLayout.data.write x).toList
  | .special name => ' ' :: (writeSpecial name).toList
  | .text s => ' ' :: writeText (indent + 2) s
  | .list [] => " []".toList
  | .record [] => [' ', '\x7b', '\x7d']

end

end ChatCommand.Yaml

namespace ChatCommand.Content

/-- The text of content. -/
def toYaml (content : Content) : String :=
  String.ofList (Yaml.write 0 content ++ ['\n'])

end ChatCommand.Content
