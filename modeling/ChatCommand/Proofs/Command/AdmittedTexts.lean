import ChatCommand.Proofs.Command.Admission
import ChatCommand.Proofs.Text.Words

/-!
# Admitted texts

What a constraint makes of an input is final: the constraint admits the result as well and leaves it
as it is. Only yes and no are different, since they become truth values. A usable constraint admits
some text that is not empty, unless it is free text of no length or a choice among empty words. Of
words that differ in the case of ASCII letters only, a choice knows the first, and the others become
that one.

## Main definitions

- `Constraint.OnlyEmpty`: constraints that admit no text but the empty one.
- `Constraint.Shadowed`: listed words that become another one.

## Main results

- `Constraint.Admits.again`: what a constraint makes of an input is admitted and left as it is.
- `Constraint.exists_text_iff`: when there is a text to be given for an argument.
- `Constraint.firstListed_self_iff`: the words of a choice that are left as they are.
-/

namespace ChatCommand

theorem Check.isHexOf_lowerAscii (length : Nat) (text : String) :
    isHexOf length (Text.lowerAscii text).toList = isHexOf length text.toList := by
  unfold isHexOf Text.lowerAscii
  rw [String.toList_ofList, List.length_map, List.all_map]
  exact congrArg _ (congrArg (List.all text.toList) (funext Text.isHexDigit_toLower))

namespace Constraint

open Check (OnTexts Denotes)

variable {constraint : Constraint} {values : List String} {text word : String} {input value : Json}

/-! ### Admitted twice -/

theorem FirstListed.again (listed : FirstListed values text word) :
    FirstListed values word word := by
  obtain ⟨same, before, after, split, others⟩ := listed
  refine ⟨Text.sameAscii_refl _, before, after, split, fun other earlier => ?_⟩
  rw [Text.sameAscii_right same]
  exact others other earlier

theorem onTexts_again {becomes : String → String → Prop}
    (final : ∀ s t, becomes s t → becomes t t) (admits : OnTexts becomes input value) :
    OnTexts becomes value value := by
  obtain ⟨s, t, -, become, rfl⟩ := admits
  exact ⟨t, t, rfl, final s t become, rfl⟩

/-- What a constraint makes of an input is admitted, and left as it is. -/
theorem Admits.again (admits : constraint.Admits input value) (other : constraint ≠ .boolean) :
    constraint.Admits value value := by
  cases constraint with
  | string => exact onTexts_again (fun s t ⟨bounds, same⟩ => ⟨same ▸ bounds, rfl⟩) admits
  | snowflake | statusLink =>
    exact onTexts_again (fun s t ⟨form, same⟩ => ⟨same ▸ form, rfl⟩) admits
  | uint4 =>
    -- What was given as digits is a JSON number now, and denotes the same.
    obtain ⟨word, ⟨-, bounds⟩, rfl⟩ := admits
    exact ⟨word, ⟨Check.denotes_ofInt _, bounds⟩, rfl⟩
  | uint8 =>
    obtain ⟨word, -, rfl⟩ := admits
    exact ⟨word, Check.denotes_ofInt _, rfl⟩
  | boolean => contradiction
  | choice => exact onTexts_again (fun s t listed => listed.again) admits
  | hexDigest length =>
    -- Lower case changes neither the length nor what is a digit, so the form is kept.
    cases length with
    | none =>
      refine onTexts_again ?_ admits
      rintro s t ⟨⟨length, usual, form⟩, rfl⟩
      exact ⟨⟨length, usual, by rw [Check.isHexOf_lowerAscii, form]⟩, Text.lowerAscii_lowerAscii s⟩
    | some length =>
      refine onTexts_again ?_ admits
      rintro s t ⟨form, rfl⟩
      exact ⟨by rw [Check.isHexOf_lowerAscii, form], Text.lowerAscii_lowerAscii s⟩

/-- A check that is made for a constraint, other than for yes and no, leaves its own results as they
are. A choice becomes the first listed word that agrees with it up to the case of ASCII letters. -/
theorem settled_of_accepted {check : Check Json} (made : constraint.toCheck = .ok check)
    (other : constraint ≠ .boolean) (accepted : check.run (some input) = .ok value) :
    check.run (some value) = .ok value ∧
      ∀ values, constraint = .choice values → ∃ text word, input = .text text ∧
        FirstListed values text word ∧ value = .text word := by
  have admits := (run_toCheck_eq_ok_iff made).mp accepted
  refine ⟨(run_toCheck_eq_ok_iff made).mpr (admits.again other), ?_⟩
  rintro values rfl
  exact admits

/-- A choice in capital letters becomes the listed word, which is left as it is. -/
theorem settled_of_accepted_expert : ∃ check, (choice ["Novice", "Expert"]).toCheck = .ok check ∧
    choice ["Novice", "Expert"] ≠ .boolean ∧
    check.run (some (.text "EXPERT")) = .ok (.text "Expert") ∧
    check.run (some (.text "Expert")) = .ok (.text "Expert") ∧
    FirstListed ["Novice", "Expert"] "EXPERT" "Expert" := by
  have made : (choice ["Novice", "Expert"]).toCheck =
      .ok (choiceCheck ["Novice", "Expert"]).erase := rfl
  have accepted : (choiceCheck ["Novice", "Expert"]).erase.run (some (.text "EXPERT")) =
      .ok (.text "Expert") := rfl
  have other : choice ["Novice", "Expert"] ≠ .boolean := by decide
  obtain ⟨again, listed⟩ := settled_of_accepted made other accepted
  obtain ⟨text, word, given, first, same⟩ := listed _ rfl
  cases given
  cases same
  exact ⟨_, made, other, accepted, again, first⟩

/-! ### Texts that are not empty -/

/-- No text but the empty one meets the constraint. -/
def OnlyEmpty : Constraint → Prop
  | string _ max => max = some 0
  | choice values => ∀ word ∈ values, word = ""
  | snowflake | uint4 _ _ | uint8 | boolean | hexDigest _ | statusLink => False

theorem FirstListed.mem (listed : FirstListed values text word) : word ∈ values := by
  obtain ⟨-, before, after, rfl, -⟩ := listed
  simp

theorem eq_empty_of_onlyEmpty (only : constraint.OnlyEmpty)
    (admits : constraint.Admits (.text text) value) : text = "" := by
  cases constraint with
  | string min max =>
    obtain ⟨t, ⟨⟨-, high⟩, -⟩, -⟩ := Check.onTexts_text_iff.mp admits
    have short : text.length ≤ 0 := high 0 only
    simpa using short
  | choice values =>
    obtain ⟨word, listed, -⟩ := Check.onTexts_text_iff.mp admits
    have same := Text.sameAscii_iff.mp listed.same
    rw [only word listed.mem] at same
    simpa using same.symm
  | snowflake | uint4 | uint8 | boolean | hexDigest | statusLink => exact only.elim

theorem exists_firstListed (member : word ∈ values) : ∃ first, FirstListed values word first := by
  simp only [firstListed_iff, ← Option.isSome_iff_exists, List.find?_isSome]
  exact ⟨word, member, Text.sameAscii_refl _⟩

theorem denotes_toString (n : Nat) : Denotes (.text (toString n)) n := by
  have digits : (toString n).toList = Nat.toDigits 10 n := Nat.toList_repr
  show Text.IsDecimal (toString n).toList ∧ n = Text.decimalValue (toString n).toList
  rw [digits, ← Text.natOfDigits_eq_decimalValue, Text.natOfDigits_toDigits]
  exact ⟨⟨Nat.toDigits_ne_nil, fun c => Nat.isDigit_of_mem_toDigits (by decide) (by decide)⟩, rfl⟩

theorem toString_ne_empty (n : Nat) : toString n ≠ "" := by
  rintro empty
  have decimal : Text.IsDecimal (toString n).toList := (denotes_toString n).1
  exact decimal.filled (by rw [empty]; rfl)

theorem toNat_ne_zero {n : UInt64} (other : n ≠ 0) : n.toNat ≠ 0 :=
  fun zero => other (UInt64.toNat_inj.mp zero)

theorem isHexOf_replicate (n : Nat) :
    Check.isHexOf n (String.ofList (List.replicate n '0')).toList = true := by
  simp [Check.isHexOf, Text.isHexDigit]

theorem ofList_replicate_ne_empty {n : Nat} (positive : n ≠ 0) (c : Char) :
    String.ofList (List.replicate n c) ≠ "" := by
  simpa using positive

/-- Some positive length lies within bounds that are the right way round, unless the upper one is
zero. -/
theorem exists_length {min max : Option UInt64}
    (ordered : ∀ least ∈ min, ∀ greatest ∈ max, least ≤ greatest) (more : max ≠ some 0) :
    ∃ n, n ≠ 0 ∧ (∀ least ∈ min, least.toNat ≤ n) ∧ ∀ greatest ∈ max, n ≤ greatest.toNat := by
  have positive : ∀ greatest ∈ max, 1 ≤ greatest.toNat := by
    intro greatest given
    refine Nat.one_le_iff_ne_zero.mpr (toNat_ne_zero ?_)
    rintro rfl
    exact more given
  cases min with
  | none => exact ⟨1, one_ne_zero, nofun, positive⟩
  | some least =>
    -- What is required need not be positive.
    refine ⟨Nat.max 1 least.toNat, by grind, ?_, fun greatest given => ?_⟩
    · rintro _ ⟨⟩
      exact Nat.le_max_right _ _
    · have enough := UInt64.le_iff_toNat_le.mp (ordered least rfl greatest given)
      exact Nat.max_le.mpr ⟨positive greatest given, enough⟩

/-- A constraint that is not refused is met by a text that is not empty, unless it asks for the
empty text alone. -/
theorem exists_admitted (usable : constraint.Usable) (more : ¬ constraint.OnlyEmpty) :
    ∃ text, text ≠ "" ∧ ∃ value, constraint.Admits (.text text) value := by
  -- There is a text for each kind; bounds decide about its length or about its number.
  cases constraint with
  | string min max =>
    obtain ⟨n, positive, low, high⟩ := exists_length usable more
    exact ⟨_, ofList_replicate_ne_empty positive 'a', _, _, _, rfl,
      ⟨⟨by simpa using low, by simpa using high⟩, rfl⟩, rfl⟩
  | snowflake =>
    exact ⟨"00000000000000000", by decide, _, _, _, rfl, ⟨by decide, rfl⟩, rfl⟩
  | uint4 min max =>
    refine ⟨toString (min.getD 0).toNat, toString_ne_empty _, _, min.getD 0,
      ⟨denotes_toString _, ?_, ?_⟩, rfl⟩
    · rintro least ⟨⟩
      exact UInt32.le_refl _
    · intro greatest given
      cases min with
      | none => exact UInt32.zero_le
      | some least => exact usable least rfl greatest given
  | uint8 => exact ⟨"0", by decide, _, 0, denotes_toString 0, rfl⟩
  | boolean => exact ⟨"yes", by decide, _, true, ⟨_, rfl, rfl⟩, rfl⟩
  | choice values =>
    simp only [OnlyEmpty, not_forall] at more
    obtain ⟨word, member, filled⟩ := more
    obtain ⟨first, listed⟩ := exists_firstListed member
    exact ⟨word, filled, _, word, first, rfl, listed, rfl⟩
  | hexDigest length =>
    cases length with
    | none =>
      exact ⟨_, ofList_replicate_ne_empty (by decide) '0', _, _, _, rfl,
        ⟨⟨32, by decide, isHexOf_replicate 32⟩, rfl⟩, rfl⟩
    | some length =>
      have positive : length.toNat ≠ 0 := toNat_ne_zero fun zero => usable (congrArg some zero)
      exact ⟨_, ofList_replicate_ne_empty positive '0', _, _, _, rfl,
        ⟨isHexOf_replicate length.toNat, rfl⟩, rfl⟩
  | statusLink =>
    exact ⟨"https://x.com/a/status/1", by decide, _, _, _, rfl, ⟨by decide, rfl⟩, rfl⟩

/-- A constraint that is not refused can be met by a text that is not empty, unless it is one of
those that admit nothing else. -/
theorem exists_text_iff {check : Check Json} (made : constraint.toCheck = .ok check) :
    (∃ text, text ≠ "" ∧ ∃ value, check.run (some (.text text)) = .ok value) ↔
      ¬ constraint.OnlyEmpty := by
  simp only [run_toCheck_eq_ok_iff made]
  constructor
  · rintro ⟨text, filled, value, admits⟩ only
    exact filled (eq_empty_of_onlyEmpty only admits)
  · exact exists_admitted (exists_toCheck_iff.mp ⟨check, made⟩)

/-- Bounds that leave one length, which is not zero. -/
theorem exists_text_iff_long : ∃ check, (string (some 3) (some 3)).toCheck = .ok check ∧
    (∃ text, text ≠ "" ∧ ∃ value, check.run (some (.text text)) = .ok value) ∧
    ¬ (string (some 3) (some 3)).OnlyEmpty := by
  obtain ⟨check, made⟩ : ∃ check, (string (some 3) (some 3)).toCheck = .ok check :=
    exists_toCheck_iff.mpr (by simp [Usable])
  have more : ¬ (string (some 3) (some 3)).OnlyEmpty := by simp [OnlyEmpty]
  exact ⟨check, made, (exists_text_iff made).mpr more, more⟩

/-- Free text of no length is not refused, although no argument can be that short. -/
theorem not_forall_exists_text : ¬ ∀ (constraint : Constraint) (check : Check Json),
    constraint.toCheck = .ok check →
      ∃ text, text ≠ "" ∧ ∃ value, check.run (some (.text text)) = .ok value := by
  intro all
  obtain ⟨check, made⟩ : ∃ check, (string none (some 0)).toCheck = .ok check :=
    exists_toCheck_iff.mpr (by simp [Usable])
  obtain ⟨text, filled, value, accepted⟩ := all _ check made
  have only : (string none (some 0)).OnlyEmpty := rfl
  exact filled (eq_empty_of_onlyEmpty only ((run_toCheck_eq_ok_iff made).mp accepted))

/-! ### Listed words -/

/-- Before it is listed first, a word is listed that agrees with it up to the case of ASCII
letters. -/
def Shadowed (values : List String) (word : String) : Prop :=
  ∃ before after, values = before ++ word :: after ∧ word ∉ before ∧
    ∃ other ∈ before, Text.sameAscii other.toList word.toList = true

/-- The words that are left as they are. -/
theorem firstListed_self_iff (member : word ∈ values) :
    FirstListed values word word ↔ ¬ Shadowed values word := by
  constructor
  · rintro listed ⟨before, after, rfl, new, other, earlier, same⟩
    -- What is found is found before the word is listed.
    obtain ⟨found, first⟩ : ∃ found, before.find?
        (fun value => Text.sameAscii value.toList word.toList) = some found :=
      Option.isSome_iff_exists.mp (List.find?_isSome.mpr ⟨other, earlier, same⟩)
    rw [firstListed_iff, List.find?_append, first, Option.some_or] at listed
    exact new (Option.some.inj listed ▸ List.mem_of_find?_eq_some first)
  · intro clear
    obtain ⟨before, after, split, new⟩ := List.eq_append_cons_of_mem member
    refine ⟨Text.sameAscii_refl _, before, after, split, fun other earlier => ?_⟩
    by_contra same
    exact clear ⟨before, after, split, new, other, earlier, by simpa using same⟩

theorem run_choice_eq_ok_iff {check : Check Json} (made : (choice values).toCheck = .ok check) :
    check.run (some (.text text)) = .ok (.text word) ↔ FirstListed values text word := by
  rw [run_toCheck_eq_ok_iff made]
  simp [Admits, OnTexts]

/-- Every listed word is a choice, and becomes the first listed word that agrees with it up to the
case of ASCII letters. It is left as it is unless it is shadowed. -/
theorem choice_listed (filled : values ≠ []) :
    ∃ check, (choice values).toCheck = .ok check ∧ ∀ word ∈ values,
      (∃ chosen, FirstListed values word chosen ∧
        check.run (some (.text word)) = .ok (.text chosen)) ∧
      (check.run (some (.text word)) = .ok (.text word) ↔ ¬ Shadowed values word) := by
  obtain ⟨check, made⟩ : ∃ check, (choice values).toCheck = .ok check :=
    exists_toCheck_iff.mpr filled
  refine ⟨check, made, fun word member => ⟨?_, ?_⟩⟩
  · obtain ⟨chosen, listed⟩ := exists_firstListed member
    exact ⟨chosen, listed, (run_choice_eq_ok_iff made).mpr listed⟩
  · rw [run_choice_eq_ok_iff made]
    exact firstListed_self_iff member

theorem shadowed_novice (between : List String) (new : "novice" ∉ between) :
    Shadowed ("Novice" :: between ++ ["novice"]) "novice" :=
  ⟨"Novice" :: between, [], rfl, by simp [new], "Novice", by simp, by decide⟩

/-- One word is left as it is, and another one is not. -/
theorem choice_listed_levels : ["Novice", "Expert", "novice"] ≠ [] ∧
    ∃ check, (choice ["Novice", "Expert", "novice"]).toCheck = .ok check ∧
      check.run (some (.text "Expert")) = .ok (.text "Expert") ∧
      check.run (some (.text "novice")) ≠ .ok (.text "novice") := by
  have filled : ["Novice", "Expert", "novice"] ≠ [] := by decide
  obtain ⟨check, made, each⟩ := choice_listed filled
  have clear : ¬ Shadowed ["Novice", "Expert", "novice"] "Expert" :=
    (firstListed_self_iff (by decide)).mp (firstListed_iff.mpr rfl)
  refine ⟨filled, check, made, (each "Expert" (by decide)).2.mpr clear, fun kept => ?_⟩
  exact (each "novice" (by decide)).2.mp kept (shadowed_novice ["Expert"] (by decide))

/-- A word that is listed in other letters before becomes that one. -/
theorem not_forall_choice_kept : ¬ ∀ values : List String, values ≠ [] →
    ∃ check, (choice values).toCheck = .ok check ∧
      ∀ word ∈ values, check.run (some (.text word)) = .ok (.text word) := by
  intro all
  obtain ⟨check, made, kept⟩ := all ["Novice", "novice"] (by decide)
  have listed := (run_choice_eq_ok_iff made).mp (kept "novice" (by decide))
  exact (firstListed_self_iff (by decide)).mp listed (shadowed_novice [] (by decide))

end Constraint

end ChatCommand
