import ChatCommand.Proofs.Check.FixedLength
import ChatCommand.Proofs.Check.PostLink
import ChatCommand.Proofs.Text.Form

/-!
# The forms of numbers, identifiers, digests and links

What a text has to look like is said by a regular expression, and the scans that look at it from
left to right recognise just the texts of that form. For a link this rests on the parts of links,
which are told apart in one way only.

## Main definitions

- `Check.digitsForm`, `Check.snowflakeForm`, `Check.hexDigestForm`, `Check.postLinkForm`: the forms.

## Main results

- `Check.isDigits_iff_matches`, `Check.isSnowflake_iff_matches`, `Check.isHexOf_iff_matches`,
  `Check.isStatusLink_iff_matches`: the scans recognise the forms.
-/

namespace ChatCommand.Check

open Text (CharClass Form)

variable {text : List Char}

/-! ### Digits -/

/-- One or more decimal digits. -/
def digitsForm : Form := .times (.char .digit) 1 none

/-- A text of decimal digits. -/
theorem isDigits_iff_matches : isDigits text = true ↔ digitsForm.Matches text := by
  unfold digitsForm
  rw [Form.matches_times_char_iff]
  simp [isDigits, Text.Within, CharClass.holds, Nat.one_le_iff_ne_zero]

example : digitsForm.written = "^\\d+$" := by decide

/-- The digits of an identifier. -/
def snowflakeForm : Form := .times (.char .digit) 17 (some 20)

theorem isSnowflake_iff_matches : isSnowflake text = true ↔ snowflakeForm.Matches text := by
  unfold snowflakeForm
  rw [Form.matches_times_char_iff]
  simp [isSnowflake, Text.Within, CharClass.holds, and_assoc]

example : snowflakeForm.written = "^\\d\x7b17,20\x7d$" := by decide

/-! ### Digests -/

/-- The hexadecimal digits. -/
def hexDigit : CharClass := .ranges [('0', '9'), ('a', 'f'), ('A', 'F')]

theorem holds_hexDigit (c : Char) : hexDigit.holds c = Text.isHexDigit c := by
  show (c.isDigit || ('a' ≤ c && c ≤ 'f' || ('A' ≤ c && c ≤ 'F' || false))) = _
  rw [Bool.or_false, ← Bool.or_assoc]
  rfl

/-- So many hexadecimal digits. -/
def hexForm (length : Nat) : Form := .times (.char hexDigit) length (some length)

theorem isHexOf_iff_matches {length : Nat} :
    isHexOf length text = true ↔ (hexForm length).Matches text := by
  unfold hexForm
  rw [Form.matches_times_char_iff]
  simp only [isHexOf, Text.Within, holds_hexDigit, Bool.and_eq_true, beq_iff_eq, List.all_eq_true,
    Option.mem_def, Option.some.injEq, forall_eq', ← and_assoc]
  exact and_congr_left' (eq_comm.trans Nat.le_antisymm_iff)

/-- The digits of a digest of one of the usual lengths. -/
def hexDigestForm : Form := .either (.either (hexForm 32) (hexForm 40)) (hexForm 64)

theorem run_hexDigest_eq_ok_iff_matches {input : Option Json} {value : String} :
    hexDigest.run input = .ok value ↔ ∃ s, input = some (.text s) ∧
      hexDigestForm.Matches s.toList ∧ Text.lowerAscii s = value := by
  rw [run_hexDigest]
  simp only [isHexOf_iff_matches, hexDigestForm, Form.Matches, List.exists_mem_cons_iff,
    List.not_mem_nil, false_and, exists_false, or_false, or_assoc]

example : hexDigestForm.written =
    "^(?:[0-9a-fA-F]\x7b32\x7d|[0-9a-fA-F]\x7b40\x7d|[0-9a-fA-F]\x7b64\x7d)$" := by decide

/-! ### Links -/

/-- The scheme of a link. -/
def schemeForm : Form := .seq (.word "http") (.seq (.optional (.word "s")) (.word "://"))

/-- What may stand in front of the domain. -/
def subdomainForm : Form := .optional (.either (.word "www.") (.word "mobile."))

/-- The domain, with the slash behind it. -/
def domainForm : Form := .seq (.either (.word "twitter") (.word "x")) (.word ".com/")

/-- The characters of an account's name. -/
def accountChar : CharClass := .ranges [('A', 'Z'), ('a', 'z'), ('0', '9'), ('_', '_')]

/-- The name of an account. -/
def accountForm : Form := .times (.char accountChar) 1 (some 15)

/-- The word for a post. -/
def postWordForm : Form := .seq (.word "/status") (.seq (.optional (.word "es")) (.word "/"))

/-- The query or fragment of a link, if there is one. -/
def tailForm : Form :=
  .optional (.seq (.char (.ranges [('?', '?'), ('#', '#')])) (.times (.char .solid) 0 none))

/-- A link to a post. -/
def postLinkForm : Form :=
  .seq schemeForm (.seq subdomainForm (.seq domainForm (.seq accountForm (.seq postWordForm
    (.seq digitsForm (.seq (.optional (.word "/")) tailForm))))))

theorem lists_schemeForm : schemeForm.Lists (schemes.map String.toList) :=
  (Form.lists_word _).seq ((Form.lists_word _).optional.seq (Form.lists_word _))

theorem lists_subdomainForm : subdomainForm.Lists (subdomains.map String.toList) :=
  ((Form.lists_word _).either (Form.lists_word _)).optional

theorem lists_domainForm : domainForm.Lists (domains.map String.toList) :=
  ((Form.lists_word _).either (Form.lists_word _)).seq (Form.lists_word _)

theorem lists_postWordForm : postWordForm.Lists (postWords.map String.toList) :=
  (Form.lists_word _).seq ((Form.lists_word _).optional.seq (Form.lists_word _))

theorem lists_slashForm : (Form.optional (.word "/")).Lists (["", "/"].map String.toList) :=
  (Form.lists_word _).optional

/-- The range of a single character. -/
theorem decide_le_and_le (c d : Char) : (d ≤ c && c ≤ d) = (c == d) := by
  rw [Bool.eq_iff_iff, Bool.and_eq_true, decide_eq_true_iff, decide_eq_true_iff, beq_iff_eq,
    and_comm, le_antisymm_iff]

theorem holds_accountChar (c : Char) : accountChar.holds c = isAccountChar c := by
  have upper : ('A' ≤ c && c ≤ 'Z') = c.isUpper := (Bool.decide_and _ _).symm
  show (('A' ≤ c && c ≤ 'Z') ||
    (c.isLower || (c.isDigit || ('_' ≤ c && c ≤ '_' || false)))) = _
  rw [Bool.or_false, decide_le_and_le, upper]
  simp only [isAccountChar, Char.isAlphanum, Char.isAlpha, Bool.or_assoc]

theorem matches_accountForm_iff :
    accountForm.Matches text ↔
      (1 ≤ text.length ∧ text.length ≤ 15) ∧ Text.Within isAccountChar text := by
  unfold accountForm
  rw [Form.matches_times_char_iff]
  simp [Text.Within, holds_accountChar, and_assoc]

theorem matches_digitsForm_iff :
    digitsForm.Matches text ↔ text ≠ [] ∧ Text.Within Text.isDecimalDigit text := by
  rw [← isDigits_iff_matches]
  simp [isDigits, Text.Within]

theorem matches_tailForm_iff : tailForm.Matches text ↔ IsTail text := by
  unfold tailForm IsTail
  rw [Form.matches_optional_iff, Form.matches_seq_iff]
  refine or_congr_right ⟨?_, ?_⟩
  · rintro ⟨_, rest, rfl, ⟨mark, listed, rfl⟩, solid⟩
    obtain ⟨-, -, within⟩ := Form.matches_times_char_iff.mp solid
    refine ⟨mark, ?_, rest, rfl, fun c member => ?_⟩
    · simpa [CharClass.holds, decide_le_and_le] using listed
    · simpa [CharClass.holds] using within c member
  · rintro ⟨mark, listed, rest, rfl, solid⟩
    refine ⟨[mark], rest, rfl, ⟨mark, ?_, rfl⟩, Form.matches_times_char_iff.mpr
      ⟨Nat.zero_le _, nofun, fun c member => ?_⟩⟩
    · simpa [CharClass.holds, decide_le_and_le] using listed
    · simpa [CharClass.holds] using solid c member

/-- The texts of the form are those that the parts of a link make up. -/
theorem matches_postLinkForm_iff :
    postLinkForm.Matches text ↔ ∃ link : PostLink, link.toList = text := by
  simp only [postLinkForm, Form.matches_seq_iff, lists_schemeForm _, lists_subdomainForm _,
    lists_domainForm _, lists_postWordForm _, lists_slashForm _, matches_accountForm_iff,
    matches_digitsForm_iff, matches_tailForm_iff, List.mem_map]
  constructor
  · rintro ⟨_, _, rfl, ⟨scheme, scheme_mem, rfl⟩, _, _, rfl, ⟨subdomain, subdomain_mem, rfl⟩, _, _,
      rfl, ⟨domain, domain_mem, rfl⟩, account, _, rfl, ⟨account_length, account_within⟩, _, _, rfl,
      ⟨word, word_mem, rfl⟩, post, _, rfl, ⟨post_filled, post_within⟩, _, tail, rfl,
      ⟨slash, slash_mem, rfl⟩, tail_form⟩
    exact ⟨⟨scheme, subdomain, domain, account, word, post, slash, tail, scheme_mem, subdomain_mem,
      domain_mem, account_length, account_within, word_mem, post_filled, post_within, slash_mem,
      tail_form⟩, rfl⟩
  · rintro ⟨link, rfl⟩
    exact ⟨_, _, rfl, ⟨_, link.scheme_mem, rfl⟩, _, _, rfl, ⟨_, link.subdomain_mem, rfl⟩, _, _, rfl,
      ⟨_, link.domain_mem, rfl⟩, _, _, rfl, ⟨link.account_length, link.account_within⟩, _, _, rfl,
      ⟨_, link.word_mem, rfl⟩, _, _, rfl, ⟨link.post_filled, link.post_within⟩, _, _, rfl,
      ⟨_, link.slash_mem, rfl⟩, link.tail_form⟩

theorem isStatusLink_iff_matches : isStatusLink text = true ↔ postLinkForm.Matches text :=
  isStatusLink_iff.trans matches_postLinkForm_iff.symm

example : postLinkForm.written =
    "^https?://(?:www\\.|mobile\\.)?(?:twitter|x)\\.com/[A-Za-z0-9_]\x7b1,15\x7d/status(?:es)?/" ++
      "\\d+/?(?:[?#]\\S*)?$" := by decide

end ChatCommand.Check
