import ChatCommand.Json.Mismatch
import ChatCommand.Text.Ascii
import ChatCommand.Text.DecimalDigit

/-!
# Reading JSON text

A reader works through the characters of a text in order and stops at the first problem, be it
one of the notation or one of the data. It remembers whether it has looked at the character
ahead, because the place of a problem counts the characters looked at.

## Main definitions

- `Json.Reader`: readers of values of a type.
- `Json.Reader.value`: the reader of any JSON value.
- `Json.Reader.skipValue`: passes over a value without keeping it.
- `Json.Reader.list`, `Json.Reader.optional`, `Json.Reader.record`: readers of data of a type.
- `Json.parse`: reads a whole text as one value.
-/

namespace ChatCommand.Json

/-- What is wrong with the notation of a text. -/
inductive NotationProblem where
  | endInList
  | endInObject
  | endInString
  | endInValue
  | expectedColon
  | expectedListCommaOrEnd
  | expectedObjectCommaOrEnd
  | expectedIdent
  | expectedValue
  | invalidEscape
  | invalidNumber
  | numberOutOfRange
  | controlCharacter
  | keyNotText
  | loneSurrogate
  | endOfHexEscape
  | trailingComma
  | trailingCharacters
  | tooDeep
  deriving DecidableEq, Repr

namespace NotationProblem

/-- The sentence for a problem of notation. -/
def message : NotationProblem → String
  | endInList => "EOF while parsing a list"
  | endInObject => "EOF while parsing an object"
  | endInString => "EOF while parsing a string"
  | endInValue => "EOF while parsing a value"
  | expectedColon => "expected `:`"
  | expectedListCommaOrEnd => "expected `,` or `]`"
  | expectedObjectCommaOrEnd => "expected `,` or `\x7d`"
  | expectedIdent => "expected ident"
  | expectedValue => "expected value"
  | invalidEscape => "invalid escape"
  | invalidNumber => "invalid number"
  | numberOutOfRange => "number out of range"
  | controlCharacter => "control character (\\u0000-\\u001F) found while parsing a string"
  | keyNotText => "key must be a string"
  | loneSurrogate => "lone leading surrogate in hex escape"
  | endOfHexEscape => "unexpected end of hex escape"
  | trailingComma => "trailing comma"
  | trailingCharacters => "trailing characters"
  | tooDeep => "recursion limit exceeded"

/-- Whether the text is good as far as it goes and only ends too early. -/
def isEnd : NotationProblem → Bool
  | endInList | endInObject | endInString | endInValue => true
  | _ => false

end NotationProblem

/-- What stops a reader. -/
inductive Problem where
  | form (problem : NotationProblem)
  | data (problem : Mismatch)
  deriving DecidableEq, Repr

/-- The sentence for a problem, without its place. -/
def Problem.message : Problem → String
  | form problem => problem.message
  | data problem => problem.message

/-- How far a reader has come: the characters it has not consumed, and whether it has looked at
the first of them. -/
structure Cursor where
  rest : List Char
  seen : Bool := false
  deriving DecidableEq, Repr

/-- A problem, the cursor where it came up, and whether that is the place to report; until it
is, the end of the surrounding data is looked for first. -/
structure Trouble where
  problem : Problem
  cursor : Cursor
  placed : Bool := true
  deriving DecidableEq, Repr

/-- Reads a value of type `α` from the characters ahead. -/
abbrev Reader (α : Type) := StateT Cursor (Except Trouble) α

namespace Reader

/-- Stops at a problem of notation. -/
def fail (problem : NotationProblem) : Reader α := fun cursor =>
  .error { problem := .form problem, cursor }

/-- Stops at a problem of the data. -/
def mismatch (problem : Mismatch) : Reader α := fun cursor =>
  .error { problem := .data problem, cursor }

/-- Stops at a problem of the data whose place is yet to be found. -/
def unplaced (problem : Mismatch) : Reader α := fun cursor =>
  .error { problem := .data problem, cursor, placed := false }

/-- Looks at the next character. -/
def peek : Reader (Option Char) := fun cursor =>
  .ok (cursor.rest.head?, { cursor with seen := true })

/-- Consumes the next character. -/
def next : Reader (Option Char) := fun cursor =>
  .ok (cursor.rest.head?, { rest := cursor.rest.tail })

/-- Consumes a character that has been looked at. -/
def eat : Reader Unit := fun cursor => .ok ((), { rest := cursor.rest.tail })

/-- Whether a character may stand between the parts of a value. -/
def isSpace (c : Char) : Bool := c == ' ' || c == '\n' || c == '\t' || c == '\r'

/-- Skips spaces and looks at the character after them. -/
def skipSpaces : Reader (Option Char) := fun cursor =>
  let rest := cursor.rest.dropWhile isSpace
  .ok (rest.head?, { rest, seen := true })

/-- Stops at a problem of notation before the given characters. -/
def failBefore (problem : NotationProblem) (rest : List Char) : Except Trouble α :=
  .error { problem := .form problem, cursor := { rest } }

/-- Consumes the characters of a word. -/
def word : List Char → Reader Unit
  | [] => pure ()
  | c :: rest => do
    match ← next with
    | none => fail .endInValue
    | some d => if c = d then word rest else fail .expectedIdent

/-! ### Numbers -/

/-- Consumes the digits ahead and looks at the character after them. -/
def digits : Reader (List Char) := fun cursor =>
  .ok (cursor.rest.takeWhile Char.isDigit,
    { rest := cursor.rest.dropWhile Char.isDigit, seen := true })

/-- The greatest number of 64 bits. -/
def maxWord : Nat := UInt64.size - 1

/-- Appends digits to a number while it fits 64 bits; the second part counts the digits left
over. -/
def extend (value : Nat) : List Char → Nat × Nat
  | [] => (value, 0)
  | d :: rest =>
    let more := 10 * value + (d.toNat - '0'.toNat)
    if maxWord < more then (value, rest.length + 1) else extend more rest

/-- The binary64 number of a significand and a power of ten. -/
def real (negative : Bool) (significand : Nat) (exponent : Int) : Reader Number :=
  match Binary64.ofDecimal? negative significand exponent with
  | some x => pure (.real x)
  | none => fail .numberOutOfRange

/-- The greatest exponent that is read to its end whatever the significand. -/
def maxExponent : Nat := Nat.pow 2 31 - 1

/-- Appends digits to an exponent, and tells what follows them. A bounded exponent ends at the
digit that takes it beyond the greatest one. -/
def exponentFrom (isBounded : Bool) (value : Nat) : List Char → Except Trouble (Nat × List Char)
  | [] => .ok (value, [])
  | c :: rest =>
    if c.isDigit then
      let more := 10 * value + (c.toNat - '0'.toNat)
      if isBounded && maxExponent < more then failBefore .numberOutOfRange rest
      else exponentFrom isBounded more rest
    else .ok (value, c :: rest)

/-- Consumes the digits of an exponent after the first one, which is given by its value. -/
def exponentDigits (isBounded : Bool) (value : Nat) : Reader Nat := fun cursor => do
  let (value, rest) ← exponentFrom isBounded value cursor.rest
  return (value, { rest, seen := true })

/-- The number after the `e` behind a significand: a sign and at least one digit. -/
def exponentPart (significand : Nat) : Reader Int := do
  eat
  let negative ← match ← peek with
    | some '+' => do eat; pure false
    | some '-' => do eat; pure true
    | _ => pure false
  match ← next with
  | none => fail .endInValue
  | some d =>
    if d.isDigit then do
      -- Only a number that is not zero can get too large.
      let isBounded := !negative && significand != 0
      let value ← exponentDigits isBounded (d.toNat - '0'.toNat)
      pure (if negative then -(value : Int) else value)
    else fail .invalidNumber

/-- Reads an exponent, if there is one, and makes the number. -/
def finishReal (negative : Bool) (significand : Nat) (exponent : Int) : Reader Number := do
  match ← peek with
  | some 'e' | some 'E' => do
    let shift ← exponentPart significand
    real negative significand (exponent + shift)
  | _ => real negative significand exponent

/-- Reads a fraction of at least one digit and what may follow it. -/
def fraction (negative : Bool) (significand : Nat) (exponent : Int) : Reader Number := do
  eat
  let places ← digits
  if places.isEmpty then
    match ← peek with
    | some _ => fail .invalidNumber
    | none => fail .endInValue
  else
    let (significand, left) := extend significand places
    finishReal negative significand (exponent - (places.length - left : Nat))

/-- The whole number with the given digits, or the binary64 number where 64 bits do not hold
it; a negative zero is a binary64 number too. -/
def wholeOrReal (negative : Bool) (significand : Nat) : Reader Number :=
  if !negative then pure (.whole significand)
  -- A zero is left out, since no whole number keeps its sign.
  else if 1 ≤ significand && significand ≤ Nat.pow 2 63 then pure (.whole (-significand))
  else real true significand 0

/-- Reads what follows the whole part of a number. -/
def afterWhole (negative : Bool) (ds : List Char) : Reader Number := do
  let (significand, left) := extend 0 ds
  match ← peek with
  | some '.' => fraction negative significand left
  | some 'e' | some 'E' => finishReal negative significand left
  | _ => if left = 0 then wholeOrReal negative significand else real negative significand left

/-- Reads a number after its sign. -/
def number (negative : Bool) : Reader Number := do
  match ← next with
  | none => fail .endInValue
  -- No digit follows a leading zero.
  | some '0' =>
    match ← peek with
    | some d => if d.isDigit then fail .invalidNumber else afterWhole negative ['0']
    | none => afterWhole negative ['0']
  | some d =>
    if d.isDigit then do
      let more ← digits
      afterWhole negative (d :: more)
    else fail .invalidNumber

/-! ### Strings -/

/-- The value of four hexadecimal digits. -/
def hexWord? (a b c d : Char) : Option Nat := do
  let a ← Text.hexValue? a
  let b ← Text.hexValue? b
  let c ← Text.hexValue? c
  let d ← Text.hexValue? d
  pure (a * 4096 + b * 256 + c * 16 + d)

/-- The character that a one-letter escape stands for. -/
def shortEscape? : Char → Option Char
  | '"' => some '"'
  | '\\' => some '\\'
  | '/' => some '/'
  | 'b' => some (Char.ofNat 8)
  | 'f' => some (Char.ofNat 12)
  | 'n' => some '\n'
  | 'r' => some '\r'
  | 't' => some '\t'
  | _ => none

/-- Whether a number is the first half of a surrogate pair. -/
def isHighSurrogate (n : Nat) : Bool := 0xD800 ≤ n && n ≤ 0xDBFF

/-- Whether a number is the second half of a surrogate pair. -/
def isLowSurrogate (n : Nat) : Bool := 0xDC00 ≤ n && n ≤ 0xDFFF

/-- The character of a surrogate pair. -/
def ofSurrogates (high low : Nat) : Char :=
  Char.ofNat (0x10000 + (high - 0xD800) * 0x400 + (low - 0xDC00))

/-- Reads the characters of a string up to its closing quote. -/
def stringFrom (done : List Char) : List Char → Except Trouble (String × List Char)
  | [] => failBefore .endInString []
  | '"' :: rest => .ok (String.ofList done.reverse, rest)
  | '\\' :: escape =>
    match escape with
    | [] => failBefore .endInString []
    | 'u' :: code =>
      match code with
      | a :: b :: c :: d :: rest =>
        match hexWord? a b c d with
        | none => failBefore .invalidEscape rest
        | some n =>
          -- The halves of a pair come in two escapes, the first half first.
          if isLowSurrogate n then failBefore .loneSurrogate rest
          else if isHighSurrogate n then
            match rest with
            | '\\' :: 'u' :: e :: f :: g :: h :: rest =>
              match hexWord? e f g h with
              | none => failBefore .invalidEscape rest
              | some m =>
                if isLowSurrogate m then stringFrom (ofSurrogates n m :: done) rest
                else failBefore .loneSurrogate rest
            | '\\' :: 'u' :: _ => failBefore .endInString []
            | ['\\'] => failBefore .endInString []
            | '\\' :: _ :: rest => failBefore .endOfHexEscape rest
            | [] => failBefore .endInString []
            | _ :: rest => failBefore .endOfHexEscape rest
          else stringFrom (Char.ofNat n :: done) rest
      | _ => failBefore .endInString []
    | e :: rest =>
      match shortEscape? e with
      | some c => stringFrom (c :: done) rest
      | none => failBefore .invalidEscape rest
  | c :: rest =>
    if c < ' ' then failBefore .controlCharacter rest else stringFrom (c :: done) rest

/-- Reads a string after its opening quote. -/
def stringBody : Reader String := fun cursor =>
  match stringFrom [] cursor.rest with
  | .ok (s, rest) => .ok (s, { rest })
  | .error trouble => .error trouble

/-- Passes over the characters of a string up to its closing quote. -/
def skipStringFrom : List Char → Except Trouble (List Char)
  | [] => failBefore .endInString []
  | '"' :: rest => .ok rest
  | '\\' :: escape =>
    match escape with
    | [] => failBefore .endInString []
    | 'u' :: code =>
      match code with
      | a :: b :: c :: d :: rest =>
        if (hexWord? a b c d).isSome then skipStringFrom rest
        else failBefore .invalidEscape rest
      | _ => failBefore .endInString []
    | e :: rest =>
      if (shortEscape? e).isSome then skipStringFrom rest else failBefore .invalidEscape rest
  | c :: rest => if c < ' ' then failBefore .controlCharacter rest else skipStringFrom rest

/-- Passes over a string after its opening quote. -/
def skipString : Reader Unit := fun cursor =>
  match skipStringFrom cursor.rest with
  | .ok rest => .ok ((), { rest })
  | .error trouble => .error trouble

/-! ### Lists and objects -/

/-- Whether another item follows in a list; `first` before the first one. -/
def moreItems (first : Bool) : Reader Bool := do
  match ← skipSpaces with
  | none => fail .endInList
  | some ']' => pure false
  | some c =>
    if first then pure true
    else if c = ',' then do
      eat
      match ← skipSpaces with
      | some ']' => fail .trailingComma
      | some _ => pure true
      | none => fail .endInValue
    else fail .expectedListCommaOrEnd

/-- Whether another field follows in an object; `first` before the first one. -/
def moreFields (first : Bool) : Reader Bool := do
  match ← skipSpaces with
  | none => fail .endInObject
  | some '\x7d' => pure false
  | some c =>
    if first then if c = '"' then pure true else fail .keyNotText
    else if c = ',' then do
      eat
      match ← skipSpaces with
      | some '"' => pure true
      | some '\x7d' => fail .trailingComma
      | some _ => fail .keyNotText
      | none => fail .endInValue
    else fail .expectedObjectCommaOrEnd

/-- Consumes the colon between a key and its value. -/
def colon : Reader Unit := do
  match ← skipSpaces with
  | some ':' => eat
  | some _ => fail .expectedColon
  | none => fail .endInObject

/-- Consumes the end of a list. -/
def endList : Reader Unit := do
  match ← skipSpaces with
  | some ']' => eat
  | some ',' => do
    eat
    match ← skipSpaces with
    | some ']' => fail .trailingComma
    | _ => fail .trailingCharacters
  | some _ => fail .trailingCharacters
  | none => fail .endInList

/-- Consumes the end of an object. -/
def endObject : Reader Unit := do
  match ← skipSpaces with
  | some '\x7d' => eat
  | some ',' => fail .trailingComma
  | some _ => fail .trailingCharacters
  | none => fail .endInObject

/-- Reads the inside of a list or an object and then its end. A problem of the data that has no
place yet gets the one after the end. -/
def closedBy (finish : Reader Unit) (inside : Reader α) : Reader α := fun cursor =>
  match inside cursor with
  | .ok (a, cursor) =>
    match finish cursor with
    | .ok ((), cursor) => .ok (a, cursor)
    | .error trouble => .error trouble
  | .error trouble =>
    if trouble.placed then .error trouble
    else
      -- The problem stays; only its place comes from the attempt to finish.
      match finish trouble.cursor with
      | .ok ((), cursor) => .error { trouble with cursor, placed := true }
      | .error stop => .error { trouble with cursor := stop.cursor, placed := true }

/-- Reads items while there are more. -/
def itemsFrom (item : Reader α) : Nat → Bool → List α → Reader (List α)
  | 0, _, done => pure done.reverse
  | fuel + 1, first, done => do
    if ← moreItems first then
      let a ← item
      itemsFrom item fuel false (a :: done)
    else pure done.reverse

/-- Reads all items of a list. Every item takes at least one character, so the number of
characters ahead bounds their number. -/
def items (item : Reader α) : Reader (List α) := fun cursor =>
  itemsFrom item (cursor.rest.length + 1) true [] cursor

/-- Reads fields while there are more, each handed with its key to `step`, which consumes the
colon and the value. -/
def fieldsFrom (step : σ → String → Reader σ) : Nat → Bool → σ → Reader σ
  | 0, _, state => pure state
  | fuel + 1, first, state => do
    if ← moreFields first then
      eat
      let key ← stringBody
      let state ← step state key
      fieldsFrom step fuel false state
    else pure state

/-- Reads all fields of an object. -/
def fields (step : σ → String → Reader σ) (start : σ) : Reader σ := fun cursor =>
  fieldsFrom step (cursor.rest.length + 1) true start cursor

/-! ### Any value -/

/-- Reads any value in which at most `levels` lists and objects are nested. Fields are kept in
the order of the text, equal keys included. -/
def value (levels : Nat) : Reader Json := do
  match ← skipSpaces with
  | none => fail .endInValue
  | some 'n' => do eat; word ['u', 'l', 'l']; pure .null
  | some 't' => do eat; word ['r', 'u', 'e']; pure (.bool true)
  | some 'f' => do eat; word ['a', 'l', 's', 'e']; pure (.bool false)
  | some '-' => do eat; .number <$> number true
  | some '"' => do eat; .text <$> stringBody
  | some '[' =>
    match levels with
    | 0 => fail .tooDeep
    | levels + 1 => do eat; .array <$> closedBy endList (items (value levels))
  | some '\x7b' =>
    match levels with
    | 0 => fail .tooDeep
    | levels + 1 => do
      eat
      let entries ← closedBy endObject (fields (fun done key => do
        colon
        let entry ← value levels
        pure ((key, entry) :: done)) [])
      pure (.object entries.reverse)
  | some c => if c.isDigit then .number <$> number false else fail .expectedValue

/-- The number of lists and objects that may be nested in a text. -/
def maxLevels : Nat := 127

/-- Passes over a number after its sign. -/
def skipNumber : Reader Unit := do
  match ← next with
  | some '0' =>
    match ← peek with
    | some d => if d.isDigit then fail .invalidNumber
    | none => pure ()
  | some d => if d.isDigit then discard digits else fail .invalidNumber
  | none => fail .invalidNumber
  if (← peek) = some '.' then
    eat
    let places ← digits
    if places.isEmpty then fail .invalidNumber
  match ← peek with
  | some 'e' | some 'E' => do
    eat
    match ← peek with
    | some '+' | some '-' => eat
    | _ => pure ()
    match ← next with
    | some d => if d.isDigit then discard digits else fail .invalidNumber
    | none => fail .invalidNumber
  | _ => pure ()

/-- Passes over the key and the colon of a field. -/
def skipKey : Reader Unit := do
  match ← skipSpaces with
  | some '"' => eat
  | some _ => fail .keyNotText
  | none => fail .endInObject
  skipString
  colon

mutual

/-- Passes over a value, however deeply nested. -/
def skipValueFrom : Nat → Reader Unit
  | 0 => pure ()
  | fuel + 1 => do
    match ← skipSpaces with
    | none => fail .endInValue
    | some 'n' => do eat; word ['u', 'l', 'l']
    | some 't' => do eat; word ['r', 'u', 'e']
    | some 'f' => do eat; word ['a', 'l', 's', 'e']
    | some '-' => do eat; skipNumber
    | some '"' => do eat; skipString
    | some '[' => do
      eat
      match ← skipSpaces with
      | some ']' => eat
      | none => fail .endInList
      | some _ => skipItemsFrom fuel
    | some '\x7b' => do
      eat
      match ← skipSpaces with
      | some '\x7d' => eat
      | none => fail .endInObject
      | some _ => skipFieldsFrom fuel
    | some c => if c.isDigit then skipNumber else fail .expectedValue

/-- Passes over the items of a list and its end. -/
def skipItemsFrom : Nat → Reader Unit
  | 0 => pure ()
  | fuel + 1 => do
    skipValueFrom fuel
    match ← skipSpaces with
    | some ',' => do eat; skipItemsFrom fuel
    | some ']' => eat
    | some _ => fail .expectedListCommaOrEnd
    | none => fail .endInList

/-- Passes over the fields of an object and its end. -/
def skipFieldsFrom : Nat → Reader Unit
  | 0 => pure ()
  | fuel + 1 => do
    skipKey
    skipValueFrom fuel
    match ← skipSpaces with
    | some ',' => do eat; skipFieldsFrom fuel
    | some '\x7d' => eat
    | some _ => fail .expectedObjectCommaOrEnd
    | none => fail .endInObject

end

/-- Passes over a value without keeping it. -/
def skipValue : Reader Unit := fun cursor => skipValueFrom (2 * cursor.rest.length + 2) cursor

/-! ### Data of a type -/

/-- Stops because the value ahead has the wrong type. What a scalar says is read first. -/
def wrongType (expected : String) : Reader α := do
  let found : Found ← match ← peek with
    | some 'n' => do eat; word ['u', 'l', 'l']; pure Found.null
    | some 't' => do eat; word ['r', 'u', 'e']; pure (Found.bool true)
    | some 'f' => do eat; word ['a', 'l', 's', 'e']; pure (Found.bool false)
    | some '-' => do eat; Found.number <$> number true
    | some '"' => do eat; Found.text <$> stringBody
    | some '[' => pure Found.list
    | some '\x7b' => pure Found.record
    | some c => if c.isDigit then Found.number <$> number false else fail .expectedValue
    | none => fail .expectedValue
  mismatch (.wrongType found expected)

/-- Reads a string; `expected` is what a message says was wanted. -/
def string (expected : String) : Reader String := do
  match ← skipSpaces with
  | none => fail .endInValue
  | some '"' => do eat; stringBody
  | some _ => wrongType expected

/-- Reads a truth value. -/
def boolean : Reader Bool := do
  match ← skipSpaces with
  | none => fail .endInValue
  | some 't' => do eat; word ['r', 'u', 'e']; pure true
  | some 'f' => do eat; word ['a', 'l', 's', 'e']; pure false
  | some _ => wrongType "a boolean"

/-- Reads `null` as nothing, and anything else by the given reader. -/
def optional (inner : Reader α) : Reader (Option α) := do
  match ← skipSpaces with
  -- An `n` cannot open anything but `null`.
  | some 'n' => do eat; word ['u', 'l', 'l']; pure none
  | _ => some <$> inner

/-- Reads a list. -/
def list (item : Reader α) : Reader (List α) := do
  match ← skipSpaces with
  | none => fail .endInValue
  | some '[' => do eat; closedBy endList (items item)
  | some _ => wrongType "a sequence"

/-- Reads a record, which is an object or the list of its values. -/
def record (expected : String) (ofFields ofItems : Reader α) : Reader α := do
  match ← skipSpaces with
  | none => fail .endInValue
  | some '\x7b' => do eat; closedBy endObject ofFields
  | some '[' => do eat; closedBy endList ofItems
  | some _ => wrongType expected

/-- Reads the value of a field for which nothing has been read yet. -/
def fill (name : String) (slot : Option α) (read : Reader α) : Reader α :=
  match slot with
  | some _ => unplaced (.duplicateField name)
  | none => do colon; read

/-- Passes over the value of a field that means nothing. -/
def skipField : Reader Unit := do
  colon
  skipValue

/-- The value of a field that must have been read. -/
def require (name : String) : Option α → Reader α
  | some a => pure a
  | none => unplaced (.missingField name)

/-- Reads the next item of a list, if there is one. -/
def item? (first : Bool) (read : Reader α) : Reader (Option α) := do
  if ← moreItems first then some <$> read else pure none

/-- Reads the item at a position, which must be there. -/
def itemAt (position : Nat) (expected : String) (read : Reader α) : Reader α := do
  match ← item? (position == 0) read with
  | some a => pure a
  | none => unplaced (.wrongLength position expected)

/-- Requires that nothing but spaces follows. -/
def finish : Reader Unit := do
  match ← skipSpaces with
  | some _ => fail .trailingCharacters
  | none => pure ()

/-- Runs a reader on a whole text. -/
def readAll (reader : Reader α) (text : String) : Except Trouble α :=
  match (do let a ← reader; finish; pure a : Reader α) { rest := text.toList } with
  | .ok (a, _) => .ok a
  | .error trouble => .error trouble

end Reader

/-- A line and a column, both counted from one; the column counts bytes. -/
structure Place where
  line : Nat
  column : Nat
  deriving DecidableEq, Repr

/-- The place after one more character, which takes some bytes. -/
def Place.past (place : Place) (c : Char) (bytes : Nat) : Place :=
  if c = '\n' then { line := place.line + 1, column := 0 }
  else { place with column := place.column + bytes }

/-- The place after the given characters. -/
def Place.after (text : List Char) : Place :=
  text.foldl (fun place c => place.past c c.utf8Size) { line := 1, column := 0 }

/-- The place after the first byte of the last of the given characters. -/
def Place.inside (text : List Char) : Place :=
  match text.getLast? with
  | none => Place.after []
  | some c => (Place.after text.dropLast).past c 1

/-- Whether a text is good as far as it goes and only ends too early. -/
def Problem.isEnd : Problem → Bool
  | form problem => problem.isEnd
  | data _ => false

/-- The place of a problem in a text: after all characters consumed or looked at. The first byte
of the last one is enough to tell a problem other than the end. -/
def Trouble.place (trouble : Trouble) (text : String) : Place :=
  let all := text.toList
  let consumed := all.take (all.length - trouble.cursor.rest.length)
  let ahead := if trouble.cursor.seen then trouble.cursor.rest.take 1 else []
  if trouble.problem.isEnd then Place.after consumed else Place.inside (consumed ++ ahead)

/-- The sentence for a problem with its place. -/
def Problem.messageAt (problem : Problem) (place : Place) : String :=
  problem.message ++ " at line " ++ toString place.line ++ " column " ++ toString place.column

/-- Reads a text as one value, with the fields of objects in the order of the text. -/
def parse (text : String) : Except Trouble Json :=
  Reader.readAll (Reader.value Reader.maxLevels) text

end ChatCommand.Json
