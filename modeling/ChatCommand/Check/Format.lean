import ChatCommand.Check.Refinement
import ChatCommand.Check.Unsigned
import ChatCommand.Text.Blank

/-!
# Texts of a fixed form

Identifiers, digests, links and words for yes and no. The texts of identifiers, digests and links
are those of a regular expression, which is given beside each scan.

## Main definitions

- `Check.snowflake`: an identifier of 17 to 20 digits.
- `Check.hexDigest`, `Check.hexDigestOf`: digests, of the usual lengths or of a given one.
- `Check.statusLink`: a link to a post.
- `Check.yesOrNo`: a truth value in words.
-/

namespace ChatCommand.Check

/-- A rule for texts is asked about the text as it comes. -/
theorem run_ruled_eq_ok_iff {name : String} {rule : String → Option Violation}
    {input : Option Json} {s : String} :
    ((string.named name).validate rule).run input = .ok s ↔
      input = some (.text s) ∧ rule s = none := by
  have unnamed : (string.named name).run input = string.run input := by
    unfold string
    exact (run_ofTransform _ _ _).trans (run_ofTransform _ _ _).symm
  rw [run_validate_eq_ok_iff, unnamed, run_string_eq_ok_iff]

/-! ### Identifiers -/

/-- Whether a text has 17 to 20 digits, of any script, and nothing else: `^\d{17,20}$`. -/
def isSnowflake (text : List Char) : Bool :=
  17 ≤ text.length && text.length ≤ 20 && text.all Text.isDecimalDigit

/-- Accepts an identifier. -/
def snowflake : Check String :=
  (string.named "Snowflake").validate (Rule.matching isSnowflake "a 17 to 20 digit identifier")

/-! ### Digests -/

/-- Whether a text has the given number of hexadecimal digits and nothing else: `^[0-9a-fA-F]{32}$`
for 32 of them. -/
def isHexOf (length : Nat) (text : List Char) : Bool :=
  text.length == length && text.all Text.isHexDigit

/-- Accepts a digest of one of the usual lengths and puts it into lower case. The texts are those of
`^(?:[0-9a-fA-F]{32}|[0-9a-fA-F]{40}|[0-9a-fA-F]{64})$`. -/
def hexDigest : Check String :=
  ((string.named "HexDigest").validate
    (Rule.matching (fun text => isHexOf 32 text || isHexOf 40 text || isHexOf 64 text)
      "a hex digest")).normalize Text.lowerAscii

/-- Requires a text that takes the given number of bytes and has hexadecimal digits only. -/
def hexOf (length : Nat) (text : String) : Option Violation :=
  if text.utf8ByteSize == length && text.toList.all Text.isHexDigit then none
  else some fun subject => subject ++ " must be " ++ toString length ++ " hexadecimal characters"

/-- Hexadecimal digits take one byte each, so that bytes and characters need not be told apart. -/
theorem hexOf_eq_none_iff {length : Nat} {text : String} :
    hexOf length text = none ↔ isHexOf length text.toList = true := by
  have counted : (text.utf8ByteSize == length && text.toList.all Text.isHexDigit) =
      isHexOf length text.toList := by
    unfold isHexOf
    cases digits : text.toList.all Text.isHexDigit with
    | false => simp only [Bool.and_false]
    | true => rw [Text.utf8ByteSize_of_hexDigits digits]
  simp [hexOf, counted]

/-- Accepts a digest of one length and puts it into lower case. -/
def hexDigestOf (length : Nat) : Check String :=
  ((string.named ("HexDigest" ++ toString length)).validate (hexOf length)).normalize
    Text.lowerAscii

/-! ### Links -/

/-- Whether a character may be part of an account's name. -/
def isAccountChar (c : Char) : Bool := c.isAlphanum || c == '_'

/-- What follows the first of some openings that a text begins with. -/
def afterOneOf (openings : List String) (text : List Char) : Option (List Char) :=
  openings.findSome? fun opening => Text.afterExact? opening.toList text

/-- What follows an opening that a text may begin with. -/
def afterOptional (openings : List String) (text : List Char) : List Char :=
  (afterOneOf openings text).getD text

/-- Whether a text is nothing, or a query or fragment without white space. -/
def isLinkTail : List Char → Bool
  | [] => true
  | c :: rest => (c == '?' || c == '#') && rest.all (!Text.isBlank ·)

/-- Whether a text is a link to a post: scheme, host and account as in
`^https?://(?:www\.|mobile\.)?(?:twitter|x)\.com/[A-Za-z0-9_]{1,15}`, then the word for a post, the
number of the post and an ending as in `/status(?:es)?/\d+/?(?:[?#]\S*)?$`. No opening begins with
another one, and what follows a name or a number opens with a character that neither has, so the
scan never has to go back. -/
def isStatusLink (text : List Char) : Bool :=
  let account? := do
    let host ← afterOneOf ["http://", "https://"] text
    afterOneOf ["twitter.com/", "x.com/"] (afterOptional ["www.", "mobile."] host)
  match account? with
  | none => false
  | some rest =>
    let account := rest.takeWhile isAccountChar
    match afterOneOf ["/status/", "/statuses/"] (rest.dropWhile isAccountChar) with
    | none => false
    | some rest =>
      let post := rest.takeWhile Text.isDecimalDigit
      1 ≤ account.length && account.length ≤ 15 && !post.isEmpty &&
        isLinkTail (afterOptional ["/"] (rest.dropWhile Text.isDecimalDigit))

/-- Accepts a link to a post. -/
def statusLink : Check String :=
  (string.named "StatusLink").validate (Rule.matching isStatusLink "a link to a post")

/-! ### Yes and no -/

/-- The truth value that a word stands for, up to surrounding space and letter case. -/
def truthOf (text : String) : Except Violation Bool :=
  let word := (Text.trim text.toList).map Char.toLower
  if word = "yes".toList ∨ word = "true".toList then .ok true
  else if word = "no".toList ∨ word = "false".toList then .ok false
  else
    .error fun subject =>
      subject ++ " must be one of yes, no, true or false, received " ++ Text.quoted text

/-- Accepts a truth value in words. -/
def yesOrNo : Check Bool := string.convert "BooleanS" truthOf

end ChatCommand.Check
