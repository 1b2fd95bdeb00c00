import ChatCommand.Proofs.Template.TokenSpelling

/-!
# Reading by a cursor on bytes

Tokens are cut from the text that is still to come. A walker has the whole source in bytes instead,
with a cursor that it moves by widths of characters, by counts of bytes and by differences of
lengths, and it looks arguments up in lists by their ordinals. Nothing stands at a cursor inside a
character or beyond the end, and a list has no item beyond its end; a walker that looks there comes
to a fault. Reading is spelled out here down to the single moves of the cursor.

## Main definitions

- `splitAt?`: a text cut behind so many bytes.
- `Walker`: a walker at a place, in a stage of its work on a token.
- `Walker.step`: one move.
- `Stands`: the text from the cursor on.

## Main results

- `splitAt?_eq_some_iff`: where a text can be cut.
- `digitWidth_eq`, `blankWidth_eq`: what is counted in bytes is the width of whole characters.
- `Stands.isValid`: a place from which a text stands is one of the source.
-/

namespace ChatCommand.Template

/-- The two parts of a text cut behind so many bytes. There is no such cut inside a character or
beyond the end. -/
def splitAt? : List Char → Nat → Option (List Char × List Char)
  | text, 0 => some ([], text)
  | [], _ + 1 => none
  | c :: text, width + 1 =>
    if c.utf8Size ≤ width + 1 then
      (splitAt? text (width + 1 - c.utf8Size)).map fun (front, back) => (c :: front, back)
    else none

/-- The text between two places, `width` bytes apart. -/
def between? (source : List Char) (start width : Nat) : Option (List Char) :=
  match splitAt? source start with
  | some (_, back) => (splitAt? back width).map Prod.fst
  | none => none

/-- Whether a byte is an ASCII digit. -/
def isDigitByte (byte : UInt8) : Bool := 48 ≤ byte && byte ≤ 57

/-- The number of bytes at the beginning of a text that are ASCII digits. -/
def digitWidth (text : List Char) : Nat :=
  ((text.flatMap String.utf8EncodeChar).takeWhile isDigitByte).length

/-- The number of bytes by which a text is shorter without the white space at its beginning. -/
def blankWidth (text : List Char) : Nat := bytes text - bytes (Text.trimStart text)

/-- The flag with an ordinal in a table, which counts from one. -/
def flag? (table : List Bool) (n : Nat) : Option Bool := if n = 0 then none else table[n - 1]?

/-- What an argument is read for. -/
inductive Role where
  | used
  /-- It owns the block whose brace stands at a place. -/
  | owner (brace : Nat)
  deriving DecidableEq, Repr

/-- What a walker is about to do at the cursor. -/
inductive Stage where
  | tag
  | token
  /-- Behind a backslash. -/
  | escaped
  /-- Behind the sign of an argument. -/
  | digits (sign : Nat) (role : Role)
  /-- Behind an argument that is to be used. -/
  | claim (sign n : Nat)
  /-- In the head of a block: white space, which may have to be there. -/
  | blanks (brace : Nat) (needed : Bool) (next : Stage)
  /-- In the head of a block: the word `opt`. -/
  | word (brace : Nat)
  /-- In the head of a block: the argument that owns it. -/
  | argument (brace : Nat)
  /-- In the head of a block: a character. -/
  | sign (brace : Nat) (c : Char) (next : Stage)
  /-- Behind the head of a block. -/
  | inside (brace n : Nat)
  deriving DecidableEq, Repr

/-- What comes behind an argument that is read for some purpose. -/
def Role.behind (sign n : Nat) : Role → Stage
  | used => .claim sign n
  | owner brace => .blanks brace false (.sign brace '\x7d' (.sign brace '[' (.inside brace n)))

/-- How a walk ends. -/
inductive Halt where
  /-- The walker looked where nothing is. -/
  | fault
  | answer (outcome : Except ParseError Template)
  deriving DecidableEq, Repr

/-- A walker over the bytes of a syntax string. -/
structure Walker where
  stage : Stage
  /-- The number of bytes before the place. -/
  cursor : Nat
  draft : Draft
  /-- For each argument, whether it has been used. -/
  table : List Bool
  deriving DecidableEq, Repr

namespace Walker

/-- A walker at the beginning. -/
def start (arguments : List Argument) : Walker :=
  ⟨.tag, 0, .empty, List.replicate arguments.length false⟩

/-- Ends the walk with an error. -/
def refuse (error : ParseError) : Except Halt Walker := .error (.answer (.error error))

/-- The walker so many bytes further on. -/
def move (walker : Walker) (stage : Stage) (width : Nat) : Walker :=
  { walker with stage, cursor := walker.cursor + width }

/-- The text from the cursor on. -/
def ahead (source : List Char) (walker : Walker) : Except Halt (List Char) :=
  match splitAt? source walker.cursor with
  | some (_, back) => .ok back
  | none => .error .fault

/-- Goes over a word that must stand here, in any case of letters. -/
def readWord (source : List Char) (walker : Walker) (word : List Char) (stage : Stage)
    (error : ParseError) : Except Halt Walker :=
  match between? source walker.cursor (bytes word) with
  | none => refuse error
  | some spelled =>
    if Text.sameAscii word spelled then .ok (walker.move stage (bytes word)) else refuse error

/-- Goes over a character that must stand here. -/
def readSign (walker : Walker) (c : Char) (stage : Stage) (error : ParseError)
    (text : List Char) : Except Halt Walker :=
  if text.head? = some c then .ok (walker.move stage c.utf8Size) else refuse error

/-- Goes over white space. -/
def readBlanks (walker : Walker) (needed : Bool) (stage : Stage) (error : ParseError)
    (text : List Char) : Except Halt Walker :=
  let width := blankWidth text
  if needed && width = 0 then refuse error else .ok (walker.move stage width)

/-- Goes over one character, which begins a token. -/
def enterToken (walker : Walker) (c : Char) : Except Halt Walker :=
  match c with
  | '\\' => .ok (walker.move .escaped c.utf8Size)
  | '$' => .ok (walker.move (.digits walker.cursor .used) c.utf8Size)
  | '\x7b' => .ok (walker.move (.blanks walker.cursor false (.word walker.cursor)) c.utf8Size)
  | ']' =>
    match walker.draft.frames with
    | [] => refuse ⟨.unexpectedClose, walker.cursor⟩
    | frame :: frames =>
      .ok { walker.move .token c.utf8Size with draft := walker.draft.closeBlock frame frames }
  | c => .ok { walker.move .token c.utf8Size with draft := walker.draft.pushChar c }

/-- Goes over the digits of an argument, which must exist. -/
def readDigits (arguments : List Argument) (walker : Walker) (sign : Nat) (role : Role)
    (text : List Char) : Except Halt Walker :=
  let width := digitWidth text
  match splitAt? text width with
  | none => .error .fault
  | some (digits, _) =>
    let n := Text.natOfDigits digits
    if digits.isEmpty then refuse ⟨.malformedArgument, sign⟩
    else if 1 ≤ n ∧ n ≤ arguments.length then .ok (walker.move (role.behind sign n) width)
    else refuse ⟨.nonexistentArgument, sign⟩

/-- Uses an argument. -/
def useArgument (arguments : List Argument) (walker : Walker) (sign n : Nat) :
    Except Halt Walker :=
  if walker.draft.afterArgument then refuse ⟨.adjacentArguments, sign⟩
  else
    match flag? walker.table n with
    | none => .error .fault
    | some true => refuse ⟨.repeatedArgument, sign⟩
    | some false =>
      match Argument.withOrdinal? arguments n with
      | none => .error .fault
      | some found =>
        if found.optional && n ∉ walker.draft.frames.map Frame.owner then
          refuse ⟨.optionalOutsideKeyOff, sign⟩
        else if !found.optional && !walker.draft.frames.isEmpty then
          refuse ⟨.requiredInKeyOff, sign⟩
        else
          .ok { walker with
            stage := .token
            draft := walker.draft.pushArgument n
            table := walker.table.set (n - 1) true }

/-- Opens a block that an argument owns. -/
def openBlock (arguments : List Argument) (walker : Walker) (brace n : Nat) :
    Except Halt Walker :=
  match Argument.withOrdinal? arguments n with
  | none => .error .fault
  | some found =>
    if !found.optional then refuse ⟨.keyOffOnRequired, brace⟩
    else .ok { walker with stage := .token, draft := walker.draft.openBlock n brace }

/-- One move. -/
def step (arguments : List Argument) (source : List Char) (walker : Walker) :
    Except Halt Walker :=
  match walker.stage with
  | .tag => walker.readWord source tag .token ⟨.malformedTag, walker.cursor⟩
  | .token => do
    match ← walker.ahead source with
    | [] => .error (.answer ((finish walker.draft).map sigil))
    | c :: _ => walker.enterToken c
  | .escaped => do
    match ← walker.ahead source with
    | [] => .ok { walker with stage := .token, draft := walker.draft.pushChar '\\' }
    | c :: _ => .ok { walker.move .token c.utf8Size with draft := walker.draft.pushChar c }
  | .digits sign role => do
    walker.readDigits arguments sign role (← walker.ahead source)
  | .claim sign n => walker.useArgument arguments sign n
  | .blanks brace needed next => do
    walker.readBlanks needed next ⟨.malformedKeyOff, brace⟩ (← walker.ahead source)
  | .word brace =>
    walker.readWord source ['o', 'p', 't'] (.blanks brace true (.argument brace))
      ⟨.malformedKeyOff, brace⟩
  | .argument brace => do
    walker.readSign '$' (.digits walker.cursor (.owner brace)) ⟨.malformedKeyOff, brace⟩
      (← walker.ahead source)
  | .sign brace c next => do
    walker.readSign c next ⟨.malformedKeyOff, brace⟩ (← walker.ahead source)
  | .inside brace n => walker.openBlock arguments brace n

end Walker

/-! ### Places in a text -/

variable {source text front back opening : List Char} {cursor width : Nat}

theorem bytes_eq_zero_iff : bytes text = 0 ↔ text = [] := by
  cases text with
  | nil => exact ⟨fun _ => rfl, fun _ => rfl⟩
  | cons c text =>
    have positive : 0 < bytes (c :: text) := Nat.add_pos_left (Char.utf8Size_pos c) _
    simp only [reduceCtorEq, iff_false]
    omega

theorem splitAt?_append (front back : List Char) :
    splitAt? (front ++ back) (bytes front) = some (front, back) := by
  induction front with
  | nil => cases back <;> rfl
  | cons c front ih =>
    -- The first character takes a byte at least.
    obtain ⟨width, positive⟩ := Nat.exists_eq_add_one.mpr
      (Nat.pos_of_ne_zero (mt bytes_eq_zero_iff.mp (List.cons_ne_nil c front)))
    rw [bytes] at positive
    have fits : c.utf8Size ≤ width + 1 := positive ▸ Nat.le_add_right _ _
    have left : width + 1 - c.utf8Size = bytes front := by omega
    rw [List.cons_append, bytes, positive, splitAt?, if_pos fits, left, ih]
    rfl

theorem append_of_splitAt? (cut : splitAt? text width = some (front, back)) :
    text = front ++ back ∧ bytes front = width := by
  fun_induction splitAt? text width generalizing front with
  | case1 text =>
    obtain ⟨rfl, rfl⟩ := Prod.mk.inj (Option.some.inj cut)
    exact ⟨rfl, rfl⟩
  | case2 => contradiction
  | case3 c text width fits ih =>
    obtain ⟨⟨inner, rest⟩, found, same⟩ := Option.map_eq_some_iff.mp cut
    obtain ⟨rfl, rfl⟩ := Prod.mk.inj same
    obtain ⟨rfl, size⟩ := ih found
    refine ⟨rfl, ?_⟩
    rw [bytes, size]
    omega
  | case4 => contradiction

/-- A text can be cut between any two of its characters, and nowhere else. -/
theorem splitAt?_eq_some_iff :
    splitAt? text width = some (front, back) ↔ text = front ++ back ∧ bytes front = width := by
  constructor
  · exact append_of_splitAt?
  · rintro ⟨rfl, rfl⟩
    exact splitAt?_append front back

/-! ### Counts of bytes -/

theorem isDigit_iff_toNat {c : Char} : c.isDigit = true ↔ 48 ≤ c.val.toNat ∧ c.val.toNat ≤ 57 := by
  simp only [Char.isDigit, Bool.and_eq_true, decide_eq_true_eq, ge_iff_le, UInt32.le_iff_toNat_le]
  rfl

theorem isDigitByte_ofNat_iff {n : Nat} :
    isDigitByte (UInt8.ofNat n) = true ↔ 48 ≤ n % 256 ∧ n % 256 ≤ 57 := by
  simp only [isDigitByte, Bool.and_eq_true, decide_eq_true_eq, UInt8.le_iff_toNat_le,
    UInt8.toNat_ofNat']
  rfl

/-- The first byte of a character is an ASCII digit when the character is one, and then it is the
only byte. -/
theorem exists_utf8EncodeChar (c : Char) :
    ∃ byte more, String.utf8EncodeChar c = byte :: more ∧
      (isDigitByte byte = true ↔ c.isDigit = true) ∧ (c.isDigit = true → more = []) := by
  unfold String.utf8EncodeChar
  simp only [isDigit_iff_toNat]
  by_cases one : c.val.toNat ≤ 127
  · rw [if_pos one]
    refine ⟨_, [], rfl, ?_, fun _ => rfl⟩
    rw [isDigitByte_ofNat_iff]
    omega
  · -- The first byte of a longer encoding is 192 at least.
    have none : ¬(48 ≤ c.val.toNat ∧ c.val.toNat ≤ 57) := by omega
    rw [if_neg one]
    repeat' split
    all_goals
      refine ⟨_, _, rfl, ?_, fun digit => absurd digit none⟩
      rw [isDigitByte_ofNat_iff]
      omega

theorem digitWidth_eq (text : List Char) :
    digitWidth text = (text.takeWhile Char.isDigit).length := by
  unfold digitWidth
  induction text with
  | nil => rfl
  | cons c text ih =>
    obtain ⟨byte, more, encoded, first, only⟩ := exists_utf8EncodeChar c
    rw [List.flatMap_cons, encoded, List.cons_append, List.takeWhile_cons, List.takeWhile_cons,
      Bool.eq_iff_iff.mpr first]
    split
    next digit =>
      rw [only digit, List.nil_append, List.length_cons, List.length_cons, ih]
    next => rfl

theorem blankWidth_eq (text : List Char) :
    blankWidth text = bytes (text.takeWhile Text.isBlank) := by
  have whole := congrArg bytes (List.takeWhile_append_dropWhile (p := Text.isBlank) (l := text))
  rw [bytes_append] at whole
  unfold blankWidth Text.trimStart
  omega

/-- What follows an opening is told by the bytes that the opening takes. -/
theorem after?_eq (opening text : List Char) :
    Text.after? opening text =
      match splitAt? text (bytes opening) with
      | some (word, rest) => if Text.sameAscii opening word then some rest else none
      | none => none := by
  ext rest
  rw [Text.after?_eq_some_iff]
  constructor
  · rintro ⟨word, rfl, same⟩
    rw [← bytes_eq_of_sameAscii same, splitAt?_append]
    exact if_pos same
  · intro found
    split at found
    next word behind cut =>
      obtain ⟨rfl, -⟩ := splitAt?_eq_some_iff.mp cut
      split at found
      next same =>
        obtain rfl := Option.some.inj found
        exact ⟨word, rfl, same⟩
      next => contradiction
    next => contradiction

/-! ### Cursors -/

/-- The text from a place on. -/
def Stands (source : List Char) (cursor : Nat) (back : List Char) : Prop :=
  ∃ front, source = front ++ back ∧ bytes front = cursor

theorem Stands.onward (stands : Stands source cursor (front ++ back)) :
    Stands source (cursor + bytes front) back := by
  obtain ⟨before, rfl, rfl⟩ := stands
  exact ⟨before ++ front, (List.append_assoc ..).symm, bytes_append before front⟩

theorem Stands.next {c : Char} (stands : Stands source cursor (c :: text)) :
    Stands source (cursor + c.utf8Size) text := by
  rw [← List.singleton_append] at stands
  exact stands.onward

/-- The text behind the white space at a place. -/
theorem Stands.afterBlanks (stands : Stands source cursor text) :
    Stands source (cursor + bytes (text.takeWhile Text.isBlank)) (text.dropWhile Text.isBlank) :=
  Stands.onward (by rwa [List.takeWhile_append_dropWhile])

theorem Stands.isValid {source : String} (stands : Stands source.toList cursor back) :
    String.Pos.Raw.IsValid source ⟨cursor⟩ := by
  obtain ⟨front, whole, rfl⟩ := stands
  refine String.Pos.Raw.isValid_iff_exists_append.mpr
    ⟨String.ofList front, String.ofList back, ?_, ?_⟩
  · rw [← String.ofList_append, ← whole, String.ofList_toList]
  · ext
    exact (utf8ByteSize_ofList front).symm

theorem Stands.splitAt?_eq (stands : Stands source cursor back) :
    ∃ front, splitAt? source cursor = some (front, back) := by
  obtain ⟨front, whole, size⟩ := stands
  exact ⟨front, splitAt?_eq_some_iff.mpr ⟨whole, size⟩⟩

theorem Stands.between?_eq (stands : Stands source cursor back) (width : Nat) :
    between? source cursor width = (splitAt? back width).map Prod.fst := by
  obtain ⟨front, cut⟩ := stands.splitAt?_eq
  rw [between?, cut]

namespace Walker

theorem ahead_of_stands {walker : Walker} (stands : Stands source walker.cursor text) :
    walker.ahead source = .ok text := by
  obtain ⟨front, cut⟩ := stands.splitAt?_eq
  rw [ahead, cut]

end Walker

end ChatCommand.Template
