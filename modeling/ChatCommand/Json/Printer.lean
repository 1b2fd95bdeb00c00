import ChatCommand.Json.Basic
import ChatCommand.Number.Layout

/-!
# JSON text

Writing a value: on one line without spaces, or over several lines with two more spaces for
every level. A character below U+0020, a quote and a backslash are escaped; everything else is
written as it is.
-/

namespace ChatCommand.Json

/-- The text of a number. -/
def Number.render : Number → String
  | .whole n => toString n
  | .real x => NumberLayout.data.write x

/-- A hexadecimal digit of a number below sixteen. -/
def hexDigit (n : Nat) : Char := (Nat.digitChar n).toLower

/-- How a character is written inside a JSON string. -/
def escapedChar (c : Char) : List Char :=
  if c = '"' then ['\\', '"']
  else if c = '\\' then ['\\', '\\']
  else if c = '\n' then ['\\', 'n']
  else if c = '\r' then ['\\', 'r']
  else if c = '\t' then ['\\', 't']
  else if c.toNat = 8 then ['\\', 'b']
  else if c.toNat = 12 then ['\\', 'f']
  else if c.toNat < 32 then ['\\', 'u', '0', '0', hexDigit (c.toNat / 16), hexDigit (c.toNat % 16)]
  else [c]

/-- A string literal. -/
def stringLiteral (s : String) : String :=
  String.ofList ('"' :: s.toList.flatMap escapedChar ++ ['"'])

/-- The text of a value on one line. -/
def compact : Json → String
  | .null => "null"
  | .bool b => if b then "true" else "false"
  | .number n => n.render
  | .text s => stringLiteral s
  | .array items => "[" ++ ",".intercalate (compactItems items) ++ "]"
  | .object fields => "\x7b" ++ ",".intercalate (compactFields fields) ++ "\x7d"
where
  /-- The texts of items. -/
  compactItems : List Json → List String
    | [] => []
    | item :: rest => item.compact :: compactItems rest
  /-- The texts of fields. -/
  compactFields : List (String × Json) → List String
    | [] => []
    | (key, value) :: rest => (stringLiteral key ++ ":" ++ value.compact) :: compactFields rest

/-- A line break and the spaces of a level. -/
def lineBreak (level : Nat) : String := "\n" ++ String.ofList (List.replicate (2 * level) ' ')

/-- The text of a value over several lines, inside a surrounding level. -/
def prettyAt (level : Nat) : Json → String
  | .array [] => "[]"
  | .object [] => "\x7b\x7d"
  | .array items =>
    "[" ++ lineBreak (level + 1) ++
      ("," ++ lineBreak (level + 1)).intercalate (prettyItems (level + 1) items) ++
      lineBreak level ++ "]"
  | .object fields =>
    "\x7b" ++ lineBreak (level + 1) ++
      ("," ++ lineBreak (level + 1)).intercalate (prettyFields (level + 1) fields) ++
      lineBreak level ++ "\x7d"
  | value => value.compact
where
  /-- The texts of items. -/
  prettyItems (level : Nat) : List Json → List String
    | [] => []
    | item :: rest => item.prettyAt level :: prettyItems level rest
  /-- The texts of fields. -/
  prettyFields (level : Nat) : List (String × Json) → List String
    | [] => []
    | (key, value) :: rest =>
      (stringLiteral key ++ ": " ++ value.prettyAt level) :: prettyFields level rest

/-- The text of a value over several lines. -/
def pretty (value : Json) : String := value.prettyAt 0

end ChatCommand.Json
