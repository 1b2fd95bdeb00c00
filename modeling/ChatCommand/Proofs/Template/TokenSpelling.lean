import ChatCommand.Proofs.Template.Reading
import ChatCommand.Proofs.Template.Spelling

/-!
# Tokens and the texts that write them

Cutting a text into tokens looks ahead: digits are taken as long as there are any, and the head of
a block is taken as a whole or not at all. So each token is described by the text that writes it
in front of another text. A token that is accepted by reading is written so, and what is written so
is cut off as that token, whatever comes later.

## Main definitions

- `Token.Written`: a text writes a token in front of another text.

## Main results

- `Token.scan_of_written`: what is written is cut off as the token.
- `Token.exists_written`: a token without fault has been written.
- `Token.header_cases`: a head without an argument where one must stand is malformed.
-/

namespace ChatCommand.Template

/-! ### Sizes -/

theorem bytes_map_toLower (text : List Char) : bytes (text.map Char.toLower) = bytes text := by
  induction text with
  | nil => rfl
  | cons c text ih => simp only [List.map_cons, bytes, Text.utf8Size_toLower, ih]

/-- Texts that agree up to the case of ASCII letters are equally long. -/
theorem bytes_eq_of_sameAscii {text other : List Char} (same : Text.sameAscii text other = true) :
    bytes other = bytes text := by
  rw [← bytes_map_toLower, ← Text.sameAscii_iff.mp same, bytes_map_toLower]

theorem bytes_digits {digits : List Char} (decimal : Text.Within Char.isDigit digits) :
    bytes digits = digits.length := by
  induction digits with
  | nil => rfl
  | cons c digits ih =>
    obtain ⟨first, others⟩ := List.forall_mem_cons.mp decimal
    have small : c.utf8Size = 1 := by
      simp only [Char.isDigit, Bool.and_eq_true, decide_eq_true_eq] at first
      rw [Char.utf8Size_eq_one_iff]
      exact UInt32.le_trans first.2 (by decide)
    rw [bytes, ih others, small, List.length_cons, Nat.add_comm]

theorem Keyword.bytes_text (keyword : Keyword) :
    bytes keyword.text = 1 + bytes keyword.gap + 3 + bytes keyword.space := by
  have word : bytes keyword.word = 3 := bytes_eq_of_sameAscii keyword.same
  simp only [text, inner, bytes, bytes_append, word]
  show 1 + _ = _
  omega

namespace Token

/-! ### Heads of blocks -/

variable {text behind : List Char} {keyword : Keyword}

theorem isDigit_of_isBlank {c : Char} (blank : Text.isBlank c = true) : c.isDigit = false := by
  rw [Bool.eq_false_iff]
  intro digit
  simp only [Char.isDigit, Bool.and_eq_true, decide_eq_true_eq] at digit
  have low : 48 ≤ c.toNat := UInt32.le_iff_toNat_le.mp digit.1
  have high : c.toNat ≤ 57 := UInt32.le_iff_toNat_le.mp digit.2
  simp only [Text.isBlank, Bool.or_eq_true, Bool.and_eq_true, decide_eq_true_eq,
    beq_iff_eq] at blank
  omega

/-- The word `opt` opens with no white space. -/
theorem opensOutside_word {word : List Char} (same : Text.sameAscii ['o', 'p', 't'] word = true) :
    Text.OpensOutside Text.isBlank (word ++ text) := by
  cases word with
  | nil => contradiction
  | cons c word =>
    simp only [Text.sameAscii, Bool.and_eq_true, beq_iff_eq] at same
    refine Bool.eq_false_iff.mpr fun blank => ?_
    rw [Text.toLower_of_isBlank blank] at same
    obtain rfl : 'o' = c := same.1
    contradiction

/-- The sign of an argument is no white space. -/
theorem opensOutside_sign (after : List Char) :
    Text.OpensOutside Text.isBlank ('$' :: after) := by
  show Text.isBlank '$' = false
  decide

/-- What the head of a block comes to, from its argument on. -/
def behindSign (offset : Nat) (after : List Char) : Header × Nat × List Char :=
  let afterDigits := after.dropWhile Char.isDigit
  let width := offset + (after.takeWhile Char.isDigit).length +
    bytes (afterDigits.takeWhile Text.isBlank)
  match afterDigits.dropWhile Text.isBlank with
  | '\x7d' :: '[' :: rest => (.keyed offset (after.takeWhile Char.isDigit) true, width + 2, rest)
  | rest => (.keyed offset (after.takeWhile Char.isDigit) false, width, rest)

theorem behindSign_fst (offset : Nat) (after : List Char) :
    ∃ digits closed, (behindSign offset after).1 = .keyed offset digits closed := by
  unfold behindSign
  dsimp only
  split
  next => exact ⟨_, _, rfl⟩
  next => exact ⟨_, _, rfl⟩

theorem header_of_keyword (keyword : Keyword) (after : List Char) :
    header (keyword.inner ++ '$' :: after) = behindSign (bytes keyword.text) after := by
  -- Neither run of white space goes on into what stands behind it.
  have outside : Text.OpensOutside Text.isBlank
      (keyword.word ++ (keyword.space ++ '$' :: after)) := opensOutside_word keyword.same
  have word : Text.after? ['o', 'p', 't'] (keyword.word ++ (keyword.space ++ '$' :: after)) =
      some (keyword.space ++ '$' :: after) :=
    Text.after?_eq_some_iff.mpr ⟨_, rfl, keyword.same⟩
  have sign := opensOutside_sign after
  have spaced : keyword.space.isEmpty = false := by simpa using keyword.apart
  unfold header
  simp only [Keyword.inner, List.append_assoc, Text.takeWhile_run keyword.gap_blank outside,
    Text.dropWhile_run keyword.gap_blank outside, word,
    Text.takeWhile_run keyword.space_blank sign, Text.dropWhile_run keyword.space_blank sign,
    spaced]
  have width : 1 + bytes keyword.gap + 3 + bytes keyword.space - 1 + 1 =
      bytes keyword.text := by
    rw [keyword.bytes_text]
    omega
  rw [width, ← keyword.bytes_text]
  rfl

/-- The head of a block is malformed unless it begins with a brace, the word `opt`, white space and
an argument. -/
theorem header_cases (text : List Char) :
    (header text = (.malformed, 0, text) ∧
      ∀ (keyword : Keyword) (after : List Char), text ≠ keyword.inner ++ '$' :: after) ∨
    ∃ (keyword : Keyword) (after : List Char), text = keyword.inner ++ '$' :: after ∧
      header text = behindSign (bytes keyword.text) after := by
  by_cases begins : ∃ (keyword : Keyword) (after : List Char), text = keyword.inner ++ '$' :: after
  · obtain ⟨keyword, after, rfl⟩ := begins
    exact .inr ⟨keyword, after, rfl, header_of_keyword keyword after⟩
  · refine .inl ⟨?_, fun keyword after same => begins ⟨keyword, after, same⟩⟩
    unfold header
    split
    next => rfl
    next afterWord found =>
      split
      next after signed =>
        dsimp only
        split
        next => rfl
        next spaced =>
          obtain ⟨word, split_at, same⟩ := Text.after?_eq_some_iff.mp found
          refine absurd ⟨⟨text.takeWhile Text.isBlank, word, afterWord.takeWhile Text.isBlank,
            Text.within_takeWhile _ _, same, by simpa using spaced,
            Text.within_takeWhile _ _⟩, after, ?_⟩ begins
          -- The parts found, put together again, are the text.
          rw [Keyword.inner, List.append_assoc, List.append_assoc, ← signed,
            List.takeWhile_append_dropWhile, ← split_at, List.takeWhile_append_dropWhile]
      next => rfl

/-- The head of a block that breaks off before its argument is malformed. -/
theorem header_inner (keyword : Keyword) : (header keyword.inner).1 = .malformed := by
  rcases header_cases keyword.inner with ⟨malformed, -⟩ | ⟨other, after, same, -⟩
  · rw [malformed]
  · -- No character of the beginning of a head is the sign of an argument.
    have member : '$' ∈ keyword.inner := by simp [same]
    simp only [Keyword.inner, List.mem_append] at member
    rcases member with (inGap | inWord) | inSpace
    · exact absurd (keyword.gap_blank _ inGap) (by decide)
    · have lowered := List.mem_map_of_mem (f := Char.toLower) inWord
      rw [← Text.sameAscii_iff.mp keyword.same] at lowered
      exact absurd lowered (by decide)
    · exact absurd (keyword.space_blank _ inSpace) (by decide)

theorem header_of_blockHead (head : BlockHead) (behind : List Char) :
    header (head.body ++ behind) =
      (.keyed (bytes head.text) head.numeral.digits true,
        bytes head.text + head.numeral.digits.length + bytes head.tail + 2, behind) := by
  have brace : Text.OpensOutside Text.isBlank ('\x7d' :: '[' :: behind) := by
    show Text.isBlank '\x7d' = false
    decide
  have outside : Text.OpensOutside Char.isDigit (head.tail ++ '\x7d' :: '[' :: behind) := by
    cases tail : head.tail with
    | nil =>
      show Char.isDigit '\x7d' = false
      decide
    | cons c rest => exact isDigit_of_isBlank (head.tail_blank c (tail ▸ List.mem_cons_self))
  have body : head.body ++ behind =
      head.inner ++ '$' :: (head.numeral.digits ++ (head.tail ++ '\x7d' :: '[' :: behind)) := by
    simp [BlockHead.body]
  rw [body, header_of_keyword]
  unfold behindSign
  simp only [Text.takeWhile_run head.numeral.decimal outside,
    Text.dropWhile_run head.numeral.decimal outside, Text.takeWhile_run head.tail_blank brace,
    Text.dropWhile_run head.tail_blank brace]

/-- The head of a block from which nothing is missing has been written. -/
theorem exists_blockHead {offset : Nat} {digits : List Char} (filled : digits ≠ [])
    (taken : (header text).1 = .keyed offset digits true) :
    ∃ head : BlockHead, text = head.body ++ (header text).2.2 ∧ bytes head.text = offset ∧
      head.numeral.digits = digits := by
  rcases header_cases text with ⟨malformed, -⟩ | ⟨keyword, after, rfl, found⟩
  · rw [malformed] at taken
    contradiction
  · rw [found] at taken ⊢
    unfold behindSign at taken ⊢
    dsimp only at taken ⊢
    split at taken
    next rest ended =>
      obtain ⟨rfl, rfl, -⟩ := Header.keyed.inj taken
      refine ⟨⟨keyword, ⟨after.takeWhile Char.isDigit, filled, Text.within_takeWhile _ _⟩,
        (after.dropWhile Char.isDigit).takeWhile Text.isBlank, Text.within_takeWhile _ _⟩,
        ?_, rfl, rfl⟩
      simp only [BlockHead.body, List.append_assoc, List.cons_append, List.nil_append]
      rw [← ended, List.takeWhile_append_dropWhile, List.takeWhile_append_dropWhile]
    next => simp at taken

theorem bytes_written (head : BlockHead) :
    bytes head.written =
      1 + (bytes head.text + head.numeral.digits.length + bytes head.tail + 2) := by
  have sizes : '\x7b'.utf8Size = 1 ∧ '$'.utf8Size = 1 ∧ '\x7d'.utf8Size = 1 ∧ '['.utf8Size = 1 := by
    decide
  simp only [BlockHead.written, BlockHead.body, Keyword.text, bytes, bytes_append,
    bytes_digits head.numeral.decimal, sizes]
  omega

/-! ### Tokens -/

/-- A text writes a token in front of another text. -/
inductive Written : Token → List Char → List Char → Prop
  | char {c : Char} {text behind : List Char} (spelled : SpellsChar c text behind) :
      Written (.char c) text behind
  | argument {behind : List Char} (numeral : Numeral)
      (ends : Text.OpensOutside Char.isDigit behind) :
      Written (.argument numeral.digits) ('$' :: numeral.digits) behind
  | keyOff {behind : List Char} (head : BlockHead) :
      Written (.keyOff (.keyed (bytes head.text) head.numeral.digits true)) head.written
        behind
  | close {behind : List Char} : Written .close [']'] behind

variable {token : Token}

theorem cut_of_plain {c : Char} (plain : c ∉ signs) (text : List Char) :
    cut c text = ⟨.char c, c.utf8Size, text⟩ := by
  unfold cut
  split
  case h_5 => rfl
  all_goals exact absurd (by decide) plain

/-- What is written is cut off as the token, whatever comes later. -/
theorem cut_of_written (written : Written token text behind) :
    ∃ c rest, text = c :: rest ∧ cut c (rest ++ behind) = ⟨token, bytes text, behind⟩ := by
  cases written with
  | @char c _ _ spelled =>
    cases spelled with
    | bare plain => exact ⟨c, [], rfl, cut_of_plain plain _⟩
    | escaped => exact ⟨'\\', [c], rfl, rfl⟩
    | lone => exact ⟨'\\', [], rfl, rfl⟩
  | argument numeral ends =>
    refine ⟨'$', numeral.digits, rfl, ?_⟩
    simp only [cut, Text.takeWhile_run numeral.decimal ends,
      Text.dropWhile_run numeral.decimal ends, bytes, bytes_digits numeral.decimal]
    rfl
  | keyOff head =>
    refine ⟨'\x7b', head.body, rfl, ?_⟩
    rw [bytes_written]
    simp only [cut, header_of_blockHead]
  | close => exact ⟨']', [], rfl, rfl⟩

theorem scan_of_written (written : Written token text behind) (position : Nat) :
    scan position (text ++ behind) = ⟨token, position⟩ :: scan (position + bytes text) behind := by
  obtain ⟨c, rest, rfl, taken⟩ := cut_of_written written
  rw [List.cons_append, scan_cons, taken]

/-- A token may be written as well in front of another text, if this opens with a digit or is not
empty only when the first one does or is. -/
theorem Written.congr {other : List Char} (written : Written token text behind)
    (ends : Text.OpensOutside Char.isDigit behind → Text.OpensOutside Char.isDigit other)
    (last : behind = [] → other = []) : Written token text other := by
  cases written with
  | char spelled =>
    refine .char ?_
    cases spelled with
    | bare plain => exact .bare plain
    | escaped c => exact .escaped _
    | lone =>
      rw [last rfl]
      exact .lone
  | argument numeral outside => exact .argument numeral (ends outside)
  | keyOff head => exact .keyOff head
  | close => exact .close

/-- Whether nothing is missing from a token. -/
def Complete : Token → Prop
  | char _ | close => True
  | argument digits => digits ≠ []
  | keyOff .malformed => False
  | keyOff (.keyed _ digits closed) => digits ≠ [] ∧ closed = true

/-- A token from which nothing is missing has been written. -/
theorem exists_written {c : Char} {rest : List Char} (complete : (cut c rest).token.Complete) :
    ∃ text, c :: rest = text ++ (cut c rest).rest ∧
      Written (cut c rest).token text (cut c rest).rest := by
  unfold cut at complete ⊢
  split
  · split
    next d rest => exact ⟨['\\', d], rfl, .char (.escaped d)⟩
    next => exact ⟨['\\'], rfl, .char .lone⟩
  · refine ⟨'$' :: rest.takeWhile Char.isDigit, ?_, ?_⟩
    · rw [List.cons_append, List.takeWhile_append_dropWhile]
    · exact .argument ⟨_, complete, Text.within_takeWhile _ _⟩ (Text.opensOutside_dropWhile _ _)
  · cases found : (header rest).1 with
    | malformed =>
      simp only [found] at complete
      exact complete.elim
    | keyed offset digits closed =>
      simp only [found] at complete
      obtain ⟨filled, rfl⟩ := complete
      obtain ⟨head, body, rfl, rfl⟩ := exists_blockHead filled found
      refine ⟨head.written, congrArg ('\x7b' :: ·) body, ?_⟩
      simp only [found]
      exact .keyOff head
  · exact ⟨[']'], rfl, .close⟩
  next noEscape noSign noBrace noBracket =>
    -- Any other character is no sign and stands for itself.
    refine ⟨[c], rfl, .char (.bare ?_)⟩
    simp only [signs, List.mem_cons, List.not_mem_nil, or_false, not_or]
    exact ⟨noEscape, noSign, noBrace, noBracket⟩

end Token

end ChatCommand.Template
