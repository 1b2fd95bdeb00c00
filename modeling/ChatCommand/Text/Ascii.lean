/-!
# Letter case of ASCII

Names of fixed spelling (the prefix tag, the word `opt`, choices) ignore the case of the
letters `a` to `z` and of no others.
-/

namespace ChatCommand.Text

/-- Whether two texts agree up to the case of ASCII letters. -/
def sameAscii : List Char → List Char → Bool
  | [], [] => true
  | c :: text, d :: other => c.toLower == d.toLower && sameAscii text other
  | _, _ => false

theorem sameAscii_iff {text other : List Char} :
    sameAscii text other = true ↔ text.map Char.toLower = other.map Char.toLower := by
  induction text generalizing other with
  | nil => cases other <;> simp [sameAscii]
  | cons c text ih => cases other <;> simp [sameAscii, ih]

theorem sameAscii_refl (text : List Char) : sameAscii text text = true :=
  sameAscii_iff.mpr rfl

/-- What follows `opening` in a text that begins with it in any ASCII case. -/
def after? : List Char → List Char → Option (List Char)
  | [], text => some text
  | o :: opening, c :: text => if o.toLower = c.toLower then after? opening text else none
  | _ :: _, [] => none

theorem after?_eq_some_iff {opening text rest : List Char} :
    after? opening text = some rest ↔
      ∃ spelled, text = spelled ++ rest ∧ sameAscii opening spelled = true := by
  induction opening generalizing text with
  | nil =>
    constructor
    · intro h
      exact ⟨[], by simpa [after?] using h, rfl⟩
    · rintro ⟨spelled, rfl, same⟩
      cases spelled with
      | nil => rfl
      | cons => simp [sameAscii] at same
  | cons o opening ih =>
    cases text with
    | nil =>
      simp only [after?, reduceCtorEq, false_iff, not_exists, not_and]
      intro spelled nothing
      have : spelled = [] := by
        cases spelled with
        | nil => rfl
        | cons => simp at nothing
      simp [this, sameAscii]
    | cons c text =>
      simp only [after?]
      split
      next same =>
        rw [ih]
        constructor
        · rintro ⟨spelled, rfl, rest_same⟩
          exact ⟨c :: spelled, rfl, by simp [sameAscii, same, rest_same]⟩
        · rintro ⟨spelled, split_at, spelled_same⟩
          cases spelled with
          | nil => simp [sameAscii] at spelled_same
          | cons d spelled =>
            simp only [List.cons_append, List.cons.injEq] at split_at
            simp only [sameAscii, Bool.and_eq_true] at spelled_same
            exact ⟨spelled, split_at.2, spelled_same.2⟩
      next different =>
        simp only [reduceCtorEq, false_iff, not_exists, not_and]
        rintro (_ | ⟨d, spelled⟩) split_at
        · simp [sameAscii]
        · simp only [List.cons_append, List.cons.injEq] at split_at
          simp [sameAscii, ← split_at.1, different]

/-- What follows `opening` in a text that begins with exactly it. -/
def afterExact? : List Char → List Char → Option (List Char)
  | [], text => some text
  | o :: opening, c :: text => if o = c then afterExact? opening text else none
  | _ :: _, [] => none

theorem afterExact?_eq_some_iff {opening text rest : List Char} :
    afterExact? opening text = some rest ↔ text = opening ++ rest := by
  induction opening generalizing text with
  | nil => simp [afterExact?]
  | cons o opening ih =>
    cases text with
    | nil => simp [afterExact?]
    | cons c text =>
      simp only [afterExact?, List.cons_append, List.cons.injEq]
      split
      next same => simp [ih, same]
      next different => simp [Ne.symm different]

/-- A text with its ASCII letters in lower case. -/
def lowerAscii (text : String) : String := String.ofList (text.toList.map Char.toLower)

/-- Whether a character is an ASCII hexadecimal digit. -/
def isHexDigit (c : Char) : Bool :=
  c.isDigit || ('a' ≤ c && c ≤ 'f') || ('A' ≤ c && c ≤ 'F')

/-- The value of a hexadecimal digit. -/
def hexValue? (c : Char) : Option Nat :=
  if c.isDigit then some (c.toNat - '0'.toNat)
  else if 'a' ≤ c && c ≤ 'f' then some (c.toNat - 'a'.toNat + 10)
  else if 'A' ≤ c && c ≤ 'F' then some (c.toNat - 'A'.toNat + 10)
  else none

theorem utf8Size_of_isHexDigit {c : Char} (digit : isHexDigit c = true) : c.utf8Size = 1 := by
  rw [Char.utf8Size_eq_one_iff, UInt32.le_iff_toNat_le]
  simp only [isHexDigit, Char.isDigit, Bool.or_eq_true, Bool.and_eq_true, decide_eq_true_eq,
    Char.le_def, UInt32.le_iff_toNat_le] at digit
  rcases digit with (digit | digit) | digit
  all_goals exact Nat.le_trans digit.2 (by decide)

/-- A text of hexadecimal digits takes as many bytes as it has characters. -/
theorem utf8ByteSize_of_hexDigits {text : String} (digits : text.toList.all isHexDigit = true) :
    text.utf8ByteSize = text.toList.length := by
  rw [← String.ofList_toList (s := text)] at digits ⊢
  generalize text.toList = chars at digits
  rw [String.toList_ofList] at digits ⊢
  induction chars with
  | nil => rfl
  | cons c chars ih =>
    simp only [List.all_cons, Bool.and_eq_true] at digits
    simp [String.ofList_cons, ih digits.2, utf8Size_of_isHexDigit digits.1, Nat.add_comm]

end ChatCommand.Text
