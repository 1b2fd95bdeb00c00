import ChatCommand.Yaml.Token.Basic

/-!
# Anchors, tags and directives

Tokens that consist of a name behind an indicator.

## Main definitions

- `Token.ofAnchor`: an anchor or alias.
- `Token.ofTag`: a tag.
- `Token.ofDirective`: a directive, with its line.
-/

namespace ChatCommand.Yaml.Token

/-- Reads the token of an anchor or alias after its indicator. -/
def ofAnchor (make : String → Token) (text : List Char) : Option (Token × List Char) :=
  let name := text.takeWhile isNameChar
  let rest := text.dropWhile isNameChar
  let ends := endsWord rest || rest.head?.any (· ∈ ['?', ':', ',', ']', '\x7d', '%', '@', '\x60'])
  if !name.isEmpty && ends then some (make (String.ofList name), rest) else none

/-! ### Tags -/

/-- Whether a character may be part of the text of a tag; `verbatim` between angle brackets. -/
def isTagChar (verbatim : Bool) (c : Char) : Bool :=
  isNameChar c ||
    c ∈ [';', '/', '?', ':', '@', '&', '=', '+', '$', '.', '!', '~', '*', '\'', '(', ')'] ||
    (verbatim && c ∈ [',', '[', ']'])

/-- The octets that continue the encoding of a character after its first one, and the part of
its number in the first one. -/
def leadingOctet? (n : Nat) : Option (Nat × Nat) :=
  if n < 0x80 then some (0, n)
  else if 0xC0 ≤ n && n < 0xE0 then some (1, n - 0xC0)
  else if 0xE0 ≤ n && n < 0xF0 then some (2, n - 0xE0)
  else if 0xF0 ≤ n && n < 0xF8 then some (3, n - 0xF0)
  else none

/-- Reads the text of a tag, in which octets may be written by their numbers; `left` octets of a
character with the number `value` so far are still to come. -/
def tagTextFrom (verbatim : Bool) (done : List Char) (left value : Nat) :
    List Char → Option (List Char × List Char)
  | '%' :: a :: b :: rest => do
    let octet := 16 * (← Text.hexValue? a) + (← Text.hexValue? b)
    let (left, value) ←
      if left = 0 then leadingOctet? octet
      else if 0x80 ≤ octet && octet < 0xC0 then some (left - 1, 64 * value + (octet - 0x80))
      else none
    if left = 0 then tagTextFrom verbatim (Char.ofNat value :: done) 0 0 rest
    else tagTextFrom verbatim done left value rest
  | '%' :: _ => none
  | c :: rest =>
    if left ≠ 0 then none
    else if isTagChar verbatim c then tagTextFrom verbatim (c :: done) 0 0 rest
    else some (done.reverse, c :: rest)
  | [] => if left = 0 then some (done.reverse, []) else none

/-- Reads the text of a tag behind characters that belong to it. -/
def tagText (verbatim : Bool) (opening text : List Char) : Option (List Char × List Char) :=
  tagTextFrom verbatim opening.reverse 0 0 text

/-- A tag handle after its exclamation mark: a name that may end in another such mark. -/
def handleName (text : List Char) : List Char × Bool × List Char :=
  let name := text.takeWhile isNameChar
  match text.dropWhile isNameChar with
  | '!' :: rest => (name, true, rest)
  | rest => (name, false, rest)

/-- The parts of a tag after its exclamation mark. -/
def tagParts (text : List Char) : Option (String × String × List Char) :=
  match text with
  | '<' :: rest => do
    let (suffix, rest) ← tagText true [] rest
    match rest with
    | '>' :: rest => if suffix.isEmpty then none else some ("", String.ofList suffix, rest)
    | _ => none
  | _ => do
    match handleName text with
    | (name, true, rest) =>
      let (suffix, rest) ← tagText false [] rest
      if suffix.isEmpty then none
      else some (String.ofList ('!' :: name ++ ['!']), String.ofList suffix, rest)
    | (name, false, rest) =>
      let (suffix, rest) ← tagText false name rest
      if suffix.isEmpty then some ("", "!", rest)
      else some ("!", String.ofList suffix, rest)

/-- Reads the token of a tag after its exclamation mark. -/
def ofTag (inFlow : Bool) (text : List Char) : Option (Token × List Char) := do
  let (handle, suffix, rest) ← tagParts text
  if endsWord rest || (inFlow && rest.head? = some ',') then some (tag handle suffix, rest)
  else none

/-! ### Directives -/

/-- Reads a number of a version, which has up to nine digits. -/
def versionNumber (text : List Char) : Option (Nat × List Char) :=
  let digits := text.takeWhile Char.isDigit
  if digits.isEmpty || 9 < digits.length then none
  else
    some (digits.foldl (fun n d => 10 * n + (d.toNat - '0'.toNat)) 0, text.dropWhile Char.isDigit)

/-- Reads the version that a directive tells. -/
def ofVersion (text : List Char) : Option (Token × List Char) := do
  let (major, rest) ← versionNumber (text.dropWhile isBlank)
  match rest with
  | '.' :: rest =>
    let (minor, rest) ← versionNumber rest
    some (version major minor, rest)
  | _ => none

/-- Reads the handle and its meaning that a directive tells. -/
def ofHandle (text : List Char) : Option (Token × List Char) := do
  match text.dropWhile isBlank with
  | '!' :: rest =>
    let (handle, rest) ← match handleName rest with
      | (name, true, rest) => some ('!' :: name ++ ['!'], rest)
      | ([], false, rest) => some (['!'], rest)
      | _ => none
    match rest with
    | c :: _ =>
      if isBlank c then
        let (meaning, rest) ← tagText true [] (rest.dropWhile isBlank)
        if meaning.isEmpty || !endsWord rest then none
        else some (tagHandle (String.ofList handle) (String.ofList meaning), rest)
      else none
    | [] => none
  | _ => none

/-- Reads a directive after its percent sign, up to the start of the next line. -/
def ofDirective (text : List Char) : Option (Token × List Char) := do
  let name := text.takeWhile isNameChar
  let rest := text.dropWhile isNameChar
  if !endsWord rest then none
  let (token, rest) ←
    if name = ['Y', 'A', 'M', 'L'] then ofVersion rest
    else if name = ['T', 'A', 'G'] then ofHandle rest
    else none
  some (token, ← lineEnd rest)

end ChatCommand.Yaml.Token
