import ChatCommand.Text.Ascii
import ChatCommand.Text.Blank
import ChatCommand.Text.DecimalDigit

/-!
# Tokens of a syntax string

A syntax string is cut into tokens before their order is judged. A character stands for itself
alone or after a backslash; `$` and digits name an argument; `{opt $N}[` opens a key-off block
and `]` closes it. Each token carries its place, the number of bytes before it.

## Main definitions

- `Template.Token`: tokens, malformed ones included.
- `Template.Token.scan`: the tokens of a text.
-/

namespace ChatCommand.Template

/-- The number of bytes that characters take in UTF-8. -/
def bytes : List Char → Nat
  | [] => 0
  | c :: rest => c.utf8Size + bytes rest

@[simp]
theorem bytes_append (text other : List Char) :
    bytes (text ++ other) = bytes text + bytes other := by
  induction text with
  | nil => exact (Nat.zero_add _).symm
  | cons c rest ih => simp only [List.cons_append, bytes, ih, Nat.add_assoc]

theorem utf8ByteSize_ofList (text : List Char) :
    (String.ofList text).utf8ByteSize = bytes text := by
  induction text with
  | nil => simp [bytes]
  | cons c rest ih => simp [bytes, ← ih, String.ofList_cons]

/-- The head of a key-off block, `{opt $N}[`. -/
inductive Header where
  /-- There is no argument where one must stand. -/
  | malformed
  /-- An argument with the given digits stands `offset` bytes after the brace; `closed` when the
  rest of the head is there too. -/
  | keyed (offset : Nat) (digits : List Char) (closed : Bool)
  deriving DecidableEq, Repr

/-- A piece of a syntax string. -/
inductive Token where
  | char (c : Char)
  | argument (digits : List Char)
  | keyOff (header : Header)
  | close
  deriving DecidableEq, Repr

namespace Token

/-- A token with what follows it. -/
structure Cut where
  token : Token
  width : Nat
  rest : List Char
  deriving DecidableEq, Repr

/-- The head of a block after its brace: the head, its width, and what follows. -/
def header (text : List Char) : Header × Nat × List Char :=
  let gap := text.takeWhile Text.isBlank
  match Text.after? ['o', 'p', 't'] (text.dropWhile Text.isBlank) with
  | none => (.malformed, 0, text)
  | some afterWord =>
    let space := afterWord.takeWhile Text.isBlank
    match afterWord.dropWhile Text.isBlank with
    | '$' :: afterSign =>
      -- The word and the argument must not run together.
      if space.isEmpty then (.malformed, 0, text)
      else
        -- One byte for the brace and three for the word.
        let offset := 1 + bytes gap + 3 + bytes space
        let digits := afterSign.takeWhile Char.isDigit
        let afterDigits := afterSign.dropWhile Char.isDigit
        let tail := afterDigits.takeWhile Text.isBlank
        let width := offset - 1 + 1 + digits.length + bytes tail
        match afterDigits.dropWhile Text.isBlank with
        | '\x7d' :: '[' :: rest => (.keyed offset digits true, width + 2, rest)
        | rest => (.keyed offset digits false, width, rest)
    | _ => (.malformed, 0, text)

/-- The token that starts with `c` before `text`. -/
def cut (c : Char) (text : List Char) : Cut :=
  match c with
  | '\\' =>
    match text with
    | d :: rest => ⟨char d, 1 + d.utf8Size, rest⟩
    -- At the end there is nothing left to escape.
    | [] => ⟨char '\\', 1, []⟩
  | '$' =>
    let digits := text.takeWhile Char.isDigit
    ⟨argument digits, 1 + digits.length, text.dropWhile Char.isDigit⟩
  | '\x7b' =>
    let (head, width, rest) := header text
    ⟨keyOff head, 1 + width, rest⟩
  | ']' => ⟨close, 1, text⟩
  | c => ⟨char c, c.utf8Size, text⟩

theorem length_after?_le {opening text rest : List Char}
    (h : Text.after? opening text = some rest) : rest.length ≤ text.length := by
  obtain ⟨spelled, rfl, -⟩ := Text.after?_eq_some_iff.mp h
  simp

theorem length_header_le (text : List Char) : (header text).2.2.length ≤ text.length := by
  have drop (p : Char → Bool) (l : List Char) : (l.dropWhile p).length ≤ l.length :=
    (List.dropWhile_sublist p).length_le
  unfold header
  split
  · exact Nat.le_refl _
  next afterWord found =>
    have first := Nat.le_trans (length_after?_le found) (drop _ text)
    split
    next afterSign signed =>
      have second := drop Text.isBlank afterWord
      rw [signed, List.length_cons] at second
      dsimp only
      split
      · exact Nat.le_refl _
      · have third := drop Char.isDigit afterSign
        have fourth := drop Text.isBlank (afterSign.dropWhile Char.isDigit)
        split
        next rest ended =>
          simp only [ended, List.length_cons] at fourth
          show rest.length ≤ text.length
          omega
        next =>
          show (List.dropWhile _ _).length ≤ text.length
          omega
    · exact Nat.le_refl _

theorem length_cut_le (c : Char) (text : List Char) : (cut c text).rest.length ≤ text.length := by
  unfold cut
  split
  · split <;> simp
  · exact (List.dropWhile_sublist _).length_le
  · exact length_header_le text
  · exact Nat.le_refl _
  · exact Nat.le_refl _

/-- A token and the number of bytes before it. -/
structure Spot where
  token : Token
  position : Nat
  deriving DecidableEq, Repr

/-- Appends the tokens of a text that stands at `position` to those in `done`, latest first. -/
def scanOnto (done : List Spot) (position : Nat) : List Char → List Spot
  | [] => done.reverse
  | c :: text =>
    scanOnto (⟨(cut c text).token, position⟩ :: done) (position + (cut c text).width)
      (cut c text).rest
termination_by text => text.length
decreasing_by
  have := length_cut_le c text
  simp only [List.length_cons]
  omega

/-- The tokens of a text that stands at `position`. -/
def scan (position : Nat) (text : List Char) : List Spot := scanOnto [] position text

theorem scanOnto_eq (done : List Spot) (position : Nat) (text : List Char) :
    scanOnto done position text = done.reverse ++ scan position text := by
  have general : ∀ n, ∀ text : List Char, text.length ≤ n → ∀ done position,
      scanOnto done position text = done.reverse ++ scanOnto [] position text := by
    intro n
    induction n with
    | zero =>
      intro text small done position
      obtain rfl : text = [] := List.eq_nil_of_length_eq_zero (Nat.le_zero.mp small)
      simp [scanOnto]
    | succ n ih =>
      intro text small done position
      cases text with
      | nil => simp [scanOnto]
      | cons c text =>
        have shorter : (cut c text).rest.length ≤ n := by
          have := length_cut_le c text
          simp only [List.length_cons] at small
          omega
        rw [scanOnto, scanOnto, ih _ shorter, ih _ shorter [_]]
        simp
  exact general text.length text (Nat.le_refl _) done position

theorem scan_nil (position : Nat) : scan position [] = [] := by simp [scan, scanOnto]

theorem scan_cons (position : Nat) (c : Char) (text : List Char) :
    scan position (c :: text) =
      ⟨(cut c text).token, position⟩ ::
        scan (position + (cut c text).width) (cut c text).rest := by
  rw [scan, scanOnto, scanOnto_eq]
  rfl

end Token

end ChatCommand.Template
