import ChatCommand.Check.Format
import ChatCommand.Proofs.Check.Unsigned

/-!
# Texts of digits of a fixed length

Digests are accepted by the number of their hexadecimal digits: the check for all usual lengths
accepts what one of the checks for a single length accepts, and both put the letters into lower
case. An identifier has 17 to 20 decimal digits, which may be those of any script. Only if all of
them are ASCII digits, an identifier can be read as a number too.

## Main definitions

- `Check.hexDigits`, `Check.lowerHex`: hexadecimal digits and their form in lower case.
- `Check.IsIdentifier`: texts of 17 to 20 digits.

## Main results

- `Check.digests_agree`: the two ways to check a digest.
- `Check.identifiers_exact`: what is accepted as an identifier, and which identifiers are numbers.
-/

namespace ChatCommand.Check

/-! ### Digests -/

/-- The hexadecimal digits. -/
def hexDigits : List Char :=
  ['0', '1', '2', '3', '4', '5', '6', '7', '8', '9', 'a', 'b', 'c', 'd', 'e', 'f',
    'A', 'B', 'C', 'D', 'E', 'F']

/-- A hexadecimal digit with the letters `A` to `F` in lower case. -/
def lowerHex : Char → Char
  | 'A' => 'a'
  | 'B' => 'b'
  | 'C' => 'c'
  | 'D' => 'd'
  | 'E' => 'e'
  | 'F' => 'f'
  | c => c

theorem ofNat_mem_hexDigits : ∀ range ∈ [(48, 57), (97, 102), (65, 70)], ∀ n ≤ range.2,
    range.1 ≤ n → Char.ofNat n ∈ hexDigits := by decide

theorem isHexDigit_iff {c : Char} : Text.isHexDigit c = true ↔ c ∈ hexDigits := by
  constructor
  · intro digit
    simp only [Text.isHexDigit, Char.isDigit, Bool.or_eq_true, Bool.and_eq_true, decide_eq_true_eq,
      Char.le_def, UInt32.le_iff_toNat_le] at digit
    rw [← Char.ofNat_toNat c]
    rcases digit with (digit | digit) | digit
    · change 48 ≤ c.toNat ∧ c.toNat ≤ 57 at digit
      exact ofNat_mem_hexDigits (48, 57) (by decide) _ digit.2 digit.1
    · change 97 ≤ c.toNat ∧ c.toNat ≤ 102 at digit
      exact ofNat_mem_hexDigits (97, 102) (by decide) _ digit.2 digit.1
    · change 65 ≤ c.toNat ∧ c.toNat ≤ 70 at digit
      exact ofNat_mem_hexDigits (65, 70) (by decide) _ digit.2 digit.1
  · have all : hexDigits.all Text.isHexDigit = true := by decide
    exact List.all_eq_true.mp all c

theorem toLower_of_mem_hexDigits : ∀ c ∈ hexDigits, c.toLower = lowerHex c :=
  List.map_inj_left.mp (by decide)

theorem isHexOf_iff {length : Nat} {s : String} :
    isHexOf length s.toList = true ↔ s.length = length ∧ ∀ c ∈ s.toList, c ∈ hexDigits := by
  simp only [isHexOf, Bool.and_eq_true, beq_iff_eq, List.all_eq_true, isHexDigit_iff,
    String.length_toList]

theorem lowerAscii_of_hexDigits {s : String} (digits : ∀ c ∈ s.toList, c ∈ hexDigits) :
    Text.lowerAscii s = String.ofList (s.toList.map lowerHex) :=
  congrArg String.ofList (List.map_congr_left fun c member =>
    toLower_of_mem_hexDigits c (digits c member))

theorem run_hexDigestOf {length : Nat} {input : Option Json} {value : String} :
    (hexDigestOf length).run input = .ok value ↔
      ∃ s, input = some (.text s) ∧ isHexOf length s.toList = true ∧ Text.lowerAscii s = value := by
  unfold hexDigestOf
  rw [run_normalize, Failure.map_eq_ok_iff]
  simp only [run_ruled_eq_ok_iff, hexOf_eq_none_iff, and_assoc]

theorem run_hexDigest {input : Option Json} {value : String} :
    hexDigest.run input = .ok value ↔ ∃ s, input = some (.text s) ∧
      (∃ length ∈ [32, 40, 64], isHexOf length s.toList = true) ∧ Text.lowerAscii s = value := by
  unfold hexDigest
  rw [run_normalize, Failure.map_eq_ok_iff]
  simp only [run_ruled_eq_ok_iff, Rule.matching_eq_none_iff, and_assoc]
  simp [or_assoc]

/-- A digest of one of the usual lengths is accepted exactly where the check for its length accepts
it, and with the same value: the digits themselves, with the letters in lower case. -/
theorem digests_agree :
    (∀ (input : Option Json) (value : String), hexDigest.run input = .ok value ↔
      ∃ length ∈ [32, 40, 64], (hexDigestOf length).run input = .ok value) ∧
    ∀ (length : Nat) (input : Option Json) (value : String),
      (hexDigestOf length).run input = .ok value ↔
        ∃ s, input = some (.text s) ∧ s.length = length ∧ (∀ c ∈ s.toList, c ∈ hexDigits) ∧
          value = String.ofList (s.toList.map lowerHex) := by
  constructor
  · intro input value
    simp only [run_hexDigest, run_hexDigestOf]
    grind
  · intro length input value
    simp only [run_hexDigestOf, isHexOf_iff, and_assoc]
    refine exists_congr fun s => and_congr_right fun _ => and_congr_right fun _ =>
      and_congr_right fun digits => ?_
    rw [lowerAscii_of_hexDigits digits, eq_comm]

/-! ### Identifiers -/

/-- The text consists of 17 to 20 digits of a class. -/
structure IsIdentifier (isDigit : Char → Bool) (s : String) : Prop where
  least : 17 ≤ s.length
  most : s.length ≤ 20
  digits : Text.Within isDigit s.toList

theorem isSnowflake_iff {s : String} :
    isSnowflake s.toList = true ↔ IsIdentifier Text.isDecimalDigit s := by
  simp only [isSnowflake, Bool.and_eq_true, decide_eq_true_eq, List.all_eq_true,
    String.length_toList, and_assoc]
  exact ⟨fun ⟨least, most, digits⟩ => ⟨least, most, digits⟩,
    fun ⟨least, most, digits⟩ => ⟨least, most, digits⟩⟩

theorem run_snowflake_eq_ok_iff {input : Option Json} {value : String} :
    snowflake.run input = .ok value ↔
      input = some (.text value) ∧ IsIdentifier Text.isDecimalDigit value := by
  unfold snowflake
  rw [run_ruled_eq_ok_iff, Rule.matching_eq_none_iff, isSnowflake_iff]

theorem IsIdentifier.mono {isDigit isOther : Char → Bool} {s : String}
    (identifier : IsIdentifier isDigit s) (others : Text.Within isOther s.toList) :
    IsIdentifier isOther s :=
  ⟨identifier.least, identifier.most, others⟩

/-- Being accepted is being of 17 to 20 ASCII digits, unless a digit of another script occurs. -/
theorem snowflake_ascii_iff {s : String} :
    (snowflake.run (some (.text s)) = .ok s ↔ IsIdentifier Char.isDigit s) ↔
      ¬ (IsIdentifier Text.isDecimalDigit s ∧ ¬ Text.Within Char.isDigit s.toList) := by
  rw [run_snowflake_eq_ok_iff, and_iff_right rfl]
  constructor
  · rintro same ⟨identifier, foreign⟩
    exact foreign (same.mp identifier).digits
  · intro clear
    constructor
    · intro identifier
      exact identifier.mono (not_not.mp fun foreign => clear ⟨identifier, foreign⟩)
    · intro identifier
      exact identifier.mono fun c member =>
        Text.isDecimalDigit_of_isDigit (identifier.digits c member)

theorem IsIdentifier.exists_uint8String_iff {isDigit : Char → Bool} {s : String}
    (identifier : IsIdentifier isDigit s) :
    (∃ word, uint8String.run (some (.text s)) = .ok word) ↔
      Text.Within Char.isDigit s.toList ∧ Text.decimalValue s.toList ≤ 2 ^ 64 - 1 := by
  have filled : s.toList ≠ [] := by
    have least := identifier.least
    rintro empty
    rw [← String.length_toList, empty] at least
    contradiction
  refine ((readsDecimals_unsigned UInt64 _ "UInt8Like" "UInt8N").accepts_iff s).trans ?_
  exact and_congr_left' ⟨fun decimal => decimal.digits, fun digits => ⟨filled, digits⟩⟩

/-- What is accepted as an identifier is left as it is and has 17 to 20 decimal digits, of any
script. These are ASCII digits unless one of another script occurs, and with such a digit the
identifier is no number of 64 bits, however small the number is that the digits denote. -/
theorem identifiers_exact (s : String) :
    (∀ value, snowflake.run (some (.text s)) = .ok value ↔
      value = s ∧ IsIdentifier Text.isDecimalDigit s) ∧
    ((snowflake.run (some (.text s)) = .ok s ↔ IsIdentifier Char.isDigit s) ↔
      ¬ (IsIdentifier Text.isDecimalDigit s ∧ ¬ Text.Within Char.isDigit s.toList)) ∧
    (snowflake.run (some (.text s)) = .ok s →
      ((∃ word, uint8String.run (some (.text s)) = .ok word) ↔
        Text.Within Char.isDigit s.toList ∧ Text.decimalValue s.toList ≤ 2 ^ 64 - 1)) := by
  refine ⟨fun value => ?_, snowflake_ascii_iff, fun accepted => ?_⟩
  · rw [run_snowflake_eq_ok_iff, Option.some.injEq, Json.text.injEq]
    constructor
    · rintro ⟨rfl, identifier⟩
      exact ⟨rfl, identifier⟩
    · rintro ⟨rfl, identifier⟩
      exact ⟨rfl, identifier⟩
  · exact (run_snowflake_eq_ok_iff.mp accepted).2.exists_uint8String_iff

/-- An identifier in Arabic-Indic digits is accepted. -/
theorem not_forall_snowflake_ascii :
    ¬ ∀ s, snowflake.run (some (.text s)) = .ok s ↔ IsIdentifier Char.isDigit s := by
  intro all
  have identifier : IsIdentifier Text.isDecimalDigit "١٢٣٤٥٦٧٨٩٠١٢٣٤٥٦٧٨" :=
    isSnowflake_iff.mp (by decide)
  have ascii := (all _).mp (run_snowflake_eq_ok_iff.mpr ⟨rfl, identifier⟩)
  have foreign : ('١' : Char).isDigit = false := by decide
  have listed : '١' ∈ "١٢٣٤٥٦٧٨٩٠١٢٣٤٥٦٧٨".toList := by decide
  rw [ascii.digits _ listed] at foreign
  contradiction

end ChatCommand.Check
