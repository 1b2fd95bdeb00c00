/-!
# White space

The characters with the property White_Space, and the two operations on texts that rest on
them: trimming, and taking the first word.
-/

namespace ChatCommand.Text

/-- Whether a character is white space. -/
def isBlank (c : Char) : Bool :=
  let code := c.toNat
  (9 ≤ code && code ≤ 13) || code == 0x20 || code == 0x85 || code == 0xA0 || code == 0x1680 ||
    (0x2000 ≤ code && code ≤ 0x200A) || code == 0x2028 || code == 0x2029 || code == 0x202F ||
    code == 0x205F || code == 0x3000

/-- A text without the white space at its beginning. -/
def trimStart (text : List Char) : List Char := text.dropWhile isBlank

/-- A text without the white space at its end. -/
def trimEnd (text : List Char) : List Char := (trimStart text.reverse).reverse

/-- A text without the white space at its two ends. -/
def trim (text : List Char) : List Char := trimEnd (trimStart text)

/-- The first maximal run of characters that are not white space. -/
def firstWord? (text : List Char) : Option (List Char) :=
  match (trimStart text).takeWhile (!isBlank ·) with
  | [] => none
  | word => some word

/-- A first word is non-empty and holds no white space. -/
theorem firstWord?_solid {text word : List Char} (h : firstWord? text = some word) :
    word ≠ [] ∧ ∀ c ∈ word, isBlank c = false := by
  have all := List.all_takeWhile (p := (!isBlank ·)) (l := trimStart text)
  unfold firstWord? at h
  revert all h
  generalize (trimStart text).takeWhile (!isBlank ·) = taken
  cases taken with
  | nil => simp
  | cons c rest =>
    intro found all
    obtain rfl := Option.some.inj found
    exact ⟨by simp, fun d member => by simpa using List.all_eq_true.mp all d member⟩

end ChatCommand.Text
