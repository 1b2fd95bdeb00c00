import ChatCommand.Proofs.Text.Run
import ChatCommand.Text.Folding
import ChatCommand.Text.Lowercase
import Mathlib

/-!
# Words and letter case

White space has no letter case, so a text that agrees with another one up to letter case has its
words in the same places and is trimmed when the other one is. How long the lower-case form of a
text is does not depend on its letter case, and each character has a part in it, which is why a
longer word never has the lower-case form of its own beginning.

## Main results

- `isBlank_fold`: case folding neither makes nor removes white space.
- `trim_eq_self_iff`, `trim_eq_self_of_map_fold`: when there is nothing to trim.
- `firstWord?_eq_some_iff`, `exists_firstWord?_append`: where the first word of a text ends.
- `lowercase_append_ne`: a word that goes on has another lower-case form.
- `lowercase_of_sameAscii`: texts that agree up to ASCII case have one lower-case form.
-/

namespace ChatCommand.Text

/-! ### Ranges and runs -/

/-- No run touches one of the ranges, neither where it starts from nor where it leads. -/
def Apart (runs : List CodeRun) (ranges : List (Nat × Nat)) : Prop :=
  ∀ run ∈ runs, ∀ range ∈ ranges, (range.2 < run.first ∨ run.last < range.1) ∧
    ((range.2 : Int) < run.first + run.shift ∨ (run.last : Int) + run.shift < range.1)

instance (runs : List CodeRun) (ranges : List (Nat × Nat)) : Decidable (Apart runs ranges) :=
  inferInstanceAs (Decidable (∀ _ ∈ _, _))

theorem exists_range_of_inRanges_ofNat {ranges : List (Nat × Nat)} {n : Nat}
    (positive : ∀ range ∈ ranges, 0 < range.1) (inside : inRanges ranges (Char.ofNat n) = true) :
    ∃ range ∈ ranges, range.1 ≤ n ∧ n ≤ range.2 := by
  obtain ⟨range, listed, low, high⟩ := inRanges_iff.mp inside
  by_cases valid : n.isValidChar
  · rw [Char.toNat_ofNat, if_pos valid] at low high
    exact ⟨range, listed, low, high⟩
  · -- Any other number stands for the character zero, which is in no range.
    rw [Char.toNat_ofNat, if_neg valid] at low
    exact absurd low (Nat.not_le_of_lt (positive range listed))

theorem inRanges_mapByRuns {runs : List CodeRun} {ranges : List (Nat × Nat)}
    (positive : ∀ range ∈ ranges, 0 < range.1) (apart : Apart runs ranges) (c : Char) :
    inRanges ranges (mapByRuns runs c) = inRanges ranges c := by
  unfold mapByRuns
  split
  next run found =>
    have member := List.mem_of_find?_eq_some found
    have covers : run.covers c.toNat = true := by simpa using List.find?_some found
    simp only [CodeRun.covers, Bool.and_eq_true, decide_eq_true_eq] at covers
    -- Neither a character that is moved nor the one it is moved to belongs to the ranges.
    have source : inRanges ranges c = false := by
      rw [Bool.eq_false_iff]
      intro inside
      obtain ⟨range, listed, low, high⟩ := inRanges_iff.mp inside
      have clear := (apart run member range listed).1
      omega
    have target : inRanges ranges (Char.ofNat (Int.toNat (c.toNat + run.shift))) = false := by
      rw [Bool.eq_false_iff]
      intro inside
      obtain ⟨range, listed, low, high⟩ := exists_range_of_inRanges_ofNat positive inside
      have clear := (apart run member range listed).2
      have start := positive range listed
      omega
    rw [source, target]
  next => rfl

/-! ### ASCII letters -/

/-- What each capital letter of ASCII has in common with the small one, every character has in
common with its lower-case form, since the others are left alone. -/
theorem apply_toLower {α : Type} (f : Char → α)
    (letters : ∀ k < 26, f (Char.ofNat (65 + k + 32)) = f (Char.ofNat (65 + k))) (c : Char) :
    f c.toLower = f c := by
  by_cases upper : c.isUpper = true
  · have bounds : 65 ≤ c.toNat ∧ c.toNat ≤ 90 := by
      simpa [Char.isUpper, UInt32.le_iff_toNat_le] using upper
    have here := letters (c.toNat - 65) (by omega)
    have place : 65 + (c.toNat - 65) = c.toNat := by omega
    rwa [place, Char.ofNat_toNat, ← Char.toLower_eq_of_isUpper upper] at here
  · rw [Char.toLower_eq_of_not_isUpper upper]

theorem toLower_toLower (c : Char) : c.toLower.toLower = c.toLower :=
  apply_toLower Char.toLower (by decide) c

theorem isHexDigit_toLower (c : Char) : isHexDigit c.toLower = isHexDigit c :=
  apply_toLower isHexDigit (by decide) c

theorem isCased_toLower (c : Char) : isCased c.toLower = isCased c :=
  apply_toLower isCased (by decide +kernel) c

theorem isCaseIgnorable_toLower (c : Char) : isCaseIgnorable c.toLower = isCaseIgnorable c :=
  apply_toLower isCaseIgnorable (by decide +kernel) c

theorem lowerChar_toLower (c : Char) : lowerChar c.toLower = lowerChar c :=
  apply_toLower lowerChar (by decide +kernel) c

theorem toLower_eq_sigma_iff (c : Char) : c.toLower = 'Σ' ↔ c = 'Σ' :=
  Iff.of_eq (apply_toLower (· = 'Σ') (by decide +kernel) c)

theorem lowerAscii_lowerAscii (text : String) : lowerAscii (lowerAscii text) = lowerAscii text := by
  unfold lowerAscii
  rw [String.toList_ofList, List.map_map]
  exact congrArg String.ofList (List.map_congr_left fun c _ => toLower_toLower c)

/-- Texts that agree up to letter case agree with the same others. -/
theorem sameAscii_right {text other : List Char} (same : sameAscii text other = true)
    (third : List Char) : sameAscii third text = sameAscii third other := by
  rw [Bool.eq_iff_iff, sameAscii_iff, sameAscii_iff, sameAscii_iff.mp same]

/-! ### Case folding -/

/-- Case folding does not lead into ranges that its runs leave alone, nor out of them. -/
theorem inRanges_fold {ranges : List (Nat × Nat)} (positive : ∀ range ∈ ranges, 0 < range.1)
    (apart : Apart foldingRuns ranges)
    (letters : ∀ k < 26, inRanges ranges (Char.ofNat (65 + k + 32)) =
      inRanges ranges (Char.ofNat (65 + k))) (c : Char) :
    inRanges ranges (fold c) = inRanges ranges c := by
  unfold fold
  split
  next => exact apply_toLower (inRanges ranges) letters c
  next => exact inRanges_mapByRuns positive apart c

/-- The code points of white space. -/
def blankRanges : List (Nat × Nat) :=
  [(9, 13), (0x20, 0x20), (0x85, 0x85), (0xA0, 0xA0), (0x1680, 0x1680), (0x2000, 0x200A),
    (0x2028, 0x2029), (0x202F, 0x202F), (0x205F, 0x205F), (0x3000, 0x3000)]

theorem isBlank_eq (c : Char) : isBlank c = inRanges blankRanges c := by
  rw [Bool.eq_iff_iff, inRanges_iff]
  simp [isBlank, blankRanges]
  omega

/-- Case folding neither makes nor removes white space. -/
theorem isBlank_fold (c : Char) : isBlank (fold c) = isBlank c := by
  rw [isBlank_eq, isBlank_eq]
  exact inRanges_fold (by decide) (by decide +kernel) (by decide) c

variable {text other word spelled more : List Char} {inClass : Char → Bool}

/-- A text that agrees with another one up to letter case belongs to the same classes, as far as
case folding keeps them. -/
theorem Within.of_map_fold (stable : ∀ c, inClass (fold c) = inClass c)
    (same : text.map fold = other.map fold) (within : Within inClass other) :
    Within inClass text := by
  intro c member
  have folded : fold c ∈ other.map fold := same ▸ List.mem_map_of_mem member
  obtain ⟨d, listed, agrees⟩ := List.mem_map.mp folded
  rw [← stable, ← agrees, stable]
  exact within d listed

theorem OpensOutside.of_map_fold (stable : ∀ c, inClass (fold c) = inClass c)
    (same : text.map fold = other.map fold) (outside : OpensOutside inClass other) :
    OpensOutside inClass text := by
  cases text with
  | nil => trivial
  | cons c text =>
    obtain ⟨d, other, rfl, agrees, -⟩ := List.map_eq_cons_iff.mp same.symm
    show inClass c = false
    rw [← stable, ← agrees, stable]
    exact outside

theorem isSolid_fold (c : Char) : (!isBlank (fold c)) = !isBlank c :=
  congrArg not (isBlank_fold c)

/-! ### Trimming -/

theorem opensOutside_trim (text : List Char) :
    OpensOutside isBlank (trim text) ∧ OpensOutside isBlank (trim text).reverse := by
  unfold trim trimEnd
  rw [List.reverse_reverse]
  refine ⟨?_, opensOutside_dropWhile _ _⟩
  -- What is left is a beginning of the text without the white space in front.
  have cut := List.takeWhile_append_dropWhile (p := isBlank) (l := (trimStart text).reverse)
  have whole : trimStart text = (trimStart (trimStart text).reverse).reverse ++
      ((trimStart text).reverse.takeWhile isBlank).reverse := by
    rw [← List.reverse_append]
    exact (List.reverse_eq_iff.mpr cut).symm
  have opens : OpensOutside isBlank (trimStart text) := opensOutside_dropWhile _ _
  rw [whole] at opens
  exact opens.of_append

/-- A text is trimmed when it neither begins nor ends with white space. -/
theorem trim_eq_self_iff :
    trim text = text ↔ OpensOutside isBlank text ∧ OpensOutside isBlank text.reverse := by
  constructor
  · intro trimmed
    exact trimmed ▸ opensOutside_trim text
  · rintro ⟨front, back⟩
    unfold trim trimEnd trimStart
    rw [dropWhile_of_opensOutside front, dropWhile_of_opensOutside back, List.reverse_reverse]

theorem trim_trim (text : List Char) : trim (trim text) = trim text :=
  trim_eq_self_iff.mpr (opensOutside_trim text)

/-- Whether a text is trimmed does not depend on its letter case. -/
theorem trim_eq_self_of_map_fold (same : text.map fold = other.map fold)
    (trimmed : trim other = other) : trim text = text := by
  obtain ⟨front, back⟩ := trim_eq_self_iff.mp trimmed
  have backwards : text.reverse.map fold = other.reverse.map fold := by
    rw [List.map_reverse, List.map_reverse, same]
  exact trim_eq_self_iff.mpr
    ⟨front.of_map_fold isBlank_fold same, back.of_map_fold isBlank_fold backwards⟩

/-! ### Lower case -/

theorem startsCased_map_toLower (text : List Char) :
    startsCased (text.map Char.toLower) = startsCased text := by
  unfold startsCased
  induction text with
  | nil => rfl
  | cons c text ih =>
    rw [List.map_cons, List.dropWhile_cons, List.dropWhile_cons, isCaseIgnorable_toLower]
    by_cases ignorable : isCaseIgnorable c = true
    · rw [if_pos ignorable, if_pos ignorable]
      exact ih
    · rw [if_neg ignorable, if_neg ignorable]
      exact isCased_toLower c

/-- The lower-case form does not depend on the case of ASCII letters. -/
theorem lowercaseOnto_map_toLower (done before text : List Char) :
    lowercaseOnto done (before.map Char.toLower) (text.map Char.toLower) =
      lowercaseOnto done before text := by
  induction text generalizing done before with
  | nil => rfl
  | cons c text ih =>
    simp only [List.map_cons, lowercaseOnto, toLower_eq_sigma_iff, lowerChar_toLower, lowerSigma,
      startsCased_map_toLower]
    split <;> exact ih _ (c :: before)

theorem lowercase_of_sameAscii {name other : String}
    (same : sameAscii name.toList other.toList = true) : lowercase name = lowercase other := by
  have plain (name : String) :
      lowercase name = String.ofList (lowercaseOnto [] [] (name.toList.map Char.toLower)) :=
    congrArg String.ofList (lowercaseOnto_map_toLower [] [] name.toList).symm
  rw [plain name, sameAscii_iff.mp same, plain other]

theorem length_lowercaseOnto (done before text : List Char) :
    (lowercaseOnto done before text).length = done.length + (text.flatMap lowerChar).length := by
  induction text generalizing done before with
  | nil => simp [lowercaseOnto]
  | cons c text ih =>
    unfold lowercaseOnto
    split
    next sigma =>
      subst sigma
      have one : (lowerChar 'Σ').length = 1 := rfl
      rw [ih, List.flatMap_cons, List.length_append, one, List.length_cons]
      omega
    next =>
      rw [ih, List.flatMap_cons, List.length_append, List.length_append, List.length_reverse]
      omega

/-- The capital letter that grows in lower case. -/
def growingRanges : List (Nat × Nat) := [(0x130, 0x130)]

theorem length_lowerChar (c : Char) :
    (lowerChar c).length = if inRanges growingRanges c then 2 else 1 := by
  have grows : inRanges growingRanges c = true ↔ c.toNat = 0x130 := by
    simp [inRanges_iff, growingRanges]
    omega
  unfold lowerChar
  by_cases here : c.toNat = 0x130
  · simp [grows, here]
  · by_cases low : c.toNat < 128 <;> simp [grows, here, low]

/-- Whether a letter grows in lower case does not depend on its case as the pattern sees it. -/
theorem length_lowerChar_fold (c : Char) : (lowerChar (fold c)).length = (lowerChar c).length := by
  rw [length_lowerChar, length_lowerChar,
    inRanges_fold (by decide) (by decide +kernel) (by decide +kernel)]

theorem length_flatMap_lowerChar (same : text.map fold = other.map fold) :
    (text.flatMap lowerChar).length = (other.flatMap lowerChar).length := by
  have folded (text : List Char) : (text.flatMap lowerChar).length =
      ((text.map fold).map fun c => (lowerChar c).length).sum := by
    simp [List.length_flatMap, Function.comp_def, length_lowerChar_fold]
  rw [folded, same, ← folded]

/-- A text that goes on has another lower-case form than any text that agrees with it up to there in
all but letter case. -/
theorem lowercase_append_ne (same : spelled.map fold = word.map fold) (filled : more ≠ []) :
    lowercase (String.ofList (spelled ++ more)) ≠ lowercase (String.ofList word) := by
  intro equal
  have lengths := congrArg (List.length ∘ String.toList) equal
  simp only [lowercase, Function.comp_apply, String.toList_ofList, length_lowercaseOnto,
    List.flatMap_append, List.length_append, List.length_nil,
    length_flatMap_lowerChar same] at lengths
  obtain ⟨c, rest, rfl⟩ := List.exists_cons_of_ne_nil filled
  have grown : 0 < (lowerChar c).length := by
    rw [length_lowerChar]
    split <;> omega
  rw [List.flatMap_cons, List.length_append] at lengths
  omega

/-! ### The first word -/

/-- The first word is what stands between white space, or the beginning, and white space again, or
the end. -/
theorem firstWord?_eq_some_iff :
    firstWord? text = some word ↔
      ∃ blanks rest, text = blanks ++ (word ++ rest) ∧ Within isBlank blanks ∧ word ≠ [] ∧
        Within (!isBlank ·) word ∧ OpensOutside (!isBlank ·) rest := by
  constructor
  · intro found
    have cut : (trimStart text).takeWhile (!isBlank ·) = word := by
      unfold firstWord? at found
      split at found
      · contradiction
      · exact Option.some.inj found
    refine ⟨text.takeWhile isBlank, (trimStart text).dropWhile (!isBlank ·), ?_,
      within_takeWhile _ _, (firstWord?_solid found).1, ?_, opensOutside_dropWhile _ _⟩
    · rw [← cut, List.takeWhile_append_dropWhile]
      exact List.takeWhile_append_dropWhile.symm
    · exact cut ▸ within_takeWhile _ _
  · rintro ⟨blanks, rest, rfl, white, filled, solid, ends⟩
    -- The word opens with a character that is no white space, so trimming stops there.
    have opens : OpensOutside isBlank (word ++ rest) := by
      obtain ⟨c, word, rfl⟩ := List.exists_cons_of_ne_nil filled
      simpa [OpensOutside] using solid c List.mem_cons_self
    unfold firstWord? trimStart
    rw [dropWhile_run white opens, takeWhile_run solid ends]
    split
    · contradiction
    · rfl

/-- What follows a text may go on with its last word, but leaves its first word in place. -/
theorem exists_firstWord?_append (found : firstWord? text = some word) (more : List Char) :
    ∃ extra, firstWord? (text ++ more) = some (word ++ extra) := by
  obtain ⟨blanks, rest, rfl, white, filled, solid, ends⟩ := firstWord?_eq_some_iff.mp found
  cases rest with
  | cons c rest =>
    refine ⟨[], firstWord?_eq_some_iff.mpr ⟨blanks, c :: rest ++ more, ?_, white, ?_, ?_, ends⟩⟩
    · simp
    · simpa using filled
    · simpa using solid
  | nil =>
    -- Nothing but the end of the text ends the word, so the word may go on.
    refine ⟨more.takeWhile (!isBlank ·), firstWord?_eq_some_iff.mpr
      ⟨blanks, more.dropWhile (!isBlank ·), ?_, white, ?_, ?_, opensOutside_dropWhile _ _⟩⟩
    · simp [List.takeWhile_append_dropWhile]
    · exact List.append_ne_nil_of_left_ne_nil filled _
    · exact List.forall_mem_append.mpr ⟨solid, within_takeWhile _ _⟩

/-- A text that agrees with another one up to letter case has its first word in the same place. -/
theorem exists_firstWord?_of_map_fold (same : text.map fold = other.map fold)
    (found : firstWord? other = some word) :
    ∃ spelled, firstWord? text = some spelled ∧ spelled.map fold = word.map fold := by
  obtain ⟨blanks, rest, rfl, white, filled, solid, ends⟩ := firstWord?_eq_some_iff.mp found
  rw [List.map_append, List.map_append] at same
  obtain ⟨blanks', tail, rfl, sameBlanks, same⟩ := List.map_eq_append_iff.mp same
  obtain ⟨spelled, rest', rfl, sameWord, sameRest⟩ := List.map_eq_append_iff.mp same
  refine ⟨spelled, firstWord?_eq_some_iff.mpr ⟨blanks', rest', rfl, ?_, ?_, ?_, ?_⟩, sameWord⟩
  · exact white.of_map_fold isBlank_fold sameBlanks
  · rintro rfl
    exact filled (List.map_eq_nil_iff.mp sameWord.symm)
  · exact solid.of_map_fold isSolid_fold sameWord
  · exact ends.of_map_fold isSolid_fold sameRest

end ChatCommand.Text
