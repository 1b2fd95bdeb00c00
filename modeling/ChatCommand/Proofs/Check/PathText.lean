import ChatCommand.Check.Failure
import ChatCommand.Proofs.Text.Run
import ChatCommand.Text.DecimalDigit

/-!
# Texts of paths

The text of a path does not quote the names in it. As long as the names hold none of the characters
that mark where a step begins and ends, each step can be told from the text, and so can the whole
path. Only a key at the beginning has no mark: if it is empty, nothing is written for it, and the
text is the one of the steps behind it.

## Main definitions

- `PathStep.isPlain`: the name of a step holds no character that marks a step.
- `PathStep.trimmed`: a path without the empty keys that it begins with.

## Main results

- `PathStep.renderPath_trimmed`: empty keys at the beginning are not written.
- `PathStep.onward_inj`: steps behind others are told by their text.
- `PathStep.renderPath_ne`: paths that differ in more than such keys have different texts.
-/

namespace ChatCommand.PathStep

/-- The characters that mark the beginning or the end of a step. -/
def marks : List Char := ['.', '[', ']', '<', '>']

/-- Whether a step can be told in the text of a path. A key may hold no mark at all, as nothing
closes it; the name of a member is closed by a mark of its own. -/
def isPlain : PathStep → Bool
  | key name => name.toList.all (· ∉ marks)
  | index _ => true
  | member name => name.toList.all (· ∉ ['<', '>'])

/-- Whether a step is an empty key, for which nothing is written at the beginning of a path. -/
def isEmptyKey : PathStep → Bool
  | key name => name.isEmpty
  | _ => false

/-- A path without the empty keys that it begins with. -/
def trimmed (path : List PathStep) : List PathStep := path.dropWhile isEmptyKey

/-- The text of steps behind others. -/
def onward (path : List PathStep) : List Char :=
  path.flatMap fun step => (step.render false).toList

variable {step other : PathStep} {path more : List PathStep} {rest behind : List Char}
  {isFirst : Bool} {name written : String}

/-! ### Texts of steps -/

theorem toList_render_key (isFirst : Bool) (name : String) :
    ((key name).render isFirst).toList = (if isFirst then [] else ['.']) ++ name.toList := by
  cases isFirst <;> simp [render]

theorem toList_render_index (isFirst : Bool) (position : Nat) :
    ((index position).render isFirst).toList = '[' :: (Nat.toDigits 10 position ++ [']']) := by
  simp [render]

theorem toList_render_member (isFirst : Bool) (name : String) :
    ((member name).render isFirst).toList = '<' :: (name.toList ++ ['>']) := by
  simp [render]

/-- Steps behind others open with a mark. -/
theorem opensOutside_onward {inClass : Char → Bool}
    (marked : ∀ c ∈ ['.', '[', '<'], inClass c = false) (path : List PathStep) :
    Text.OpensOutside inClass (onward path) := by
  cases path with
  | nil => trivial
  | cons step path =>
    rw [onward, List.flatMap_cons]
    cases step with
    | key name =>
      rw [toList_render_key]
      exact marked '.' (by decide)
    | index position =>
      rw [toList_render_index]
      exact marked '[' (by decide)
    | member name =>
      rw [toList_render_member]
      exact marked '<' (by decide)

/-- What is written for a key opens with no bracket. -/
theorem render_key_ne {c : Char} (plain : (key name).isPlain = true)
    (shown : isFirst = true → (key name).isEmptyKey = false) (bracket : c ∈ ['[', '<']) :
    ((key name).render isFirst).toList ++ rest ≠ c :: behind := by
  rw [toList_render_key]
  cases isFirst with
  | false =>
    rintro same
    obtain rfl : '.' = c := (List.cons.inj same).1
    contradiction
  | true =>
    have named : name.toList ≠ [] := by simpa [isEmptyKey] using shown rfl
    obtain ⟨d, chars, filled⟩ := List.exists_cons_of_ne_nil named
    rw [filled]
    rintro same
    obtain rfl : d = c := (List.cons.inj same).1
    have outside : d ∉ marks := by simpa using List.all_eq_true.mp plain d (by simp [filled])
    exact outside (by simp only [marks, List.mem_cons, List.not_mem_nil] at bracket ⊢; grind)

/-- Steps at the same place are told by their text, whatever steps stand behind them. -/
theorem render_append_inj (isFirst : Bool) (first : step.isPlain = true)
    (second : other.isPlain = true) (shown : isFirst = true → step.isEmptyKey = false)
    (seen : isFirst = true → other.isEmptyKey = false)
    (same : (step.render isFirst).toList ++ onward path =
      (other.render isFirst).toList ++ onward more) :
    step = other ∧ onward path = onward more := by
  cases step with
  | key name =>
    cases other with
    | key another =>
      -- A key goes on up to the next mark.
      have ends (path : List PathStep) : Text.OpensOutside (· ∉ marks) (onward path) :=
        opensOutside_onward (by simp [marks]) path
      rw [toList_render_key, toList_render_key, List.append_assoc, List.append_assoc] at same
      obtain ⟨named, onward⟩ := Text.run_append_inj (List.all_eq_true.mp first)
        (List.all_eq_true.mp second) (ends path) (ends more) (List.append_cancel_left same)
      exact ⟨congrArg key (String.toList_injective named), onward⟩
    | index position =>
      rw [toList_render_index] at same
      exact absurd same (render_key_ne first shown (by decide))
    | member another =>
      rw [toList_render_member] at same
      exact absurd same (render_key_ne first shown (by decide))
  | index position =>
    rw [toList_render_index] at same
    cases other with
    | key another => exact absurd same.symm (render_key_ne second seen (by decide))
    | index place =>
      rw [toList_render_index, List.cons_append, List.cons_append, List.append_assoc,
        List.append_assoc] at same
      have ends (path : List PathStep) : Text.OpensOutside Char.isDigit ([']'] ++ onward path) := by
        show Char.isDigit ']' = false
        decide
      obtain ⟨digits, onward⟩ := Text.run_append_inj (Text.within_toDigits position)
        (Text.within_toDigits place) (ends path) (ends more) (List.cons.inj same).2
      exact ⟨congrArg index (Text.toDigits_inj digits), List.append_cancel_left onward⟩
    | member another =>
      rw [toList_render_member] at same
      exact absurd (List.cons.inj same).1 (by decide)
  | member name =>
    rw [toList_render_member] at same
    cases other with
    | key another => exact absurd same.symm (render_key_ne second seen (by decide))
    | index place =>
      rw [toList_render_index] at same
      exact absurd (List.cons.inj same).1 (by decide)
    | member another =>
      rw [toList_render_member, List.cons_append, List.cons_append, List.append_assoc,
        List.append_assoc] at same
      have ends (path : List PathStep) :
          Text.OpensOutside (· ∉ ['<', '>']) (['>'] ++ onward path) := by
        show decide ('>' ∉ ['<', '>']) = false
        decide
      obtain ⟨named, onward⟩ := Text.run_append_inj (List.all_eq_true.mp first)
        (List.all_eq_true.mp second) (ends path) (ends more) (List.cons.inj same).2
      exact ⟨congrArg member (String.toList_injective named), List.append_cancel_left onward⟩

/-! ### Texts of paths -/

theorem onward_cons_ne_nil (step : PathStep) (path : List PathStep) :
    onward (step :: path) ≠ [] := by
  rw [onward, List.flatMap_cons]
  cases step with
  | key name => simp [toList_render_key]
  | index position => simp [toList_render_index]
  | member name => simp [toList_render_member]

/-- Steps behind others are told by their text. -/
theorem onward_inj (first : ∀ step ∈ path, step.isPlain = true)
    (second : ∀ step ∈ more, step.isPlain = true) (same : onward path = onward more) :
    path = more := by
  induction path generalizing more with
  | nil =>
    cases more with
    | nil => rfl
    | cons other more => exact absurd same.symm (onward_cons_ne_nil other more)
  | cons step path ih =>
    cases more with
    | nil => exact absurd same (onward_cons_ne_nil step path)
    | cons other more =>
      obtain ⟨plain, plains⟩ := List.forall_mem_cons.mp first
      obtain ⟨clear, clears⟩ := List.forall_mem_cons.mp second
      obtain ⟨rfl, rest⟩ := render_append_inj false plain clear nofun nofun same
      rw [ih plains clears rest]

theorem toList_renderOnto (filled : written ≠ "") :
    (renderOnto written path).toList = written.toList ++ onward path := by
  induction path generalizing written with
  | nil => simp [renderOnto, onward]
  | cons step path ih =>
    have behind : written.isEmpty = false := by simpa using filled
    have more : written ++ step.render written.isEmpty ≠ "" := by simp [filled]
    rw [renderOnto, ih more, behind, String.toList_append, List.append_assoc]
    rfl

/-- The first step for which something is written stands at the beginning of the text. -/
theorem toList_renderPath_cons (shown : step.isEmptyKey = false) :
    (renderPath (step :: path)).toList = (step.render true).toList ++ onward path := by
  have filled : "" ++ step.render true ≠ "" := by
    cases step with
    | key name => simpa [render, isEmptyKey] using shown
    | index position => simp [render]
    | member name => simp [render]
  show (renderOnto ("" ++ step.render true) path).toList = _
  rw [toList_renderOnto filled, String.empty_append]

/-- Empty keys at the beginning are not written. -/
theorem renderPath_trimmed (path : List PathStep) :
    renderPath (trimmed path) = renderPath path := by
  induction path with
  | nil => rfl
  | cons step path ih =>
    rw [trimmed, List.dropWhile_cons]
    split
    next empty =>
      cases step with
      | key name =>
        obtain rfl : name = "" := by simpa [isEmptyKey] using empty
        exact ih
      | index position => contradiction
      | member name => contradiction
    next => rfl

theorem renderPath_cons_ne_empty (shown : step.isEmptyKey = false) :
    renderPath (step :: path) ≠ "" := by
  intro empty
  have written : (renderPath (step :: path)).toList = _ := toList_renderPath_cons shown
  rw [empty] at written
  cases step with
  | key name => simp_all [render, isEmptyKey]
  | index position => simp [render] at written
  | member name => simp [render] at written

theorem isEmptyKey_of_trimmed (begins : trimmed path = step :: more) :
    step.isEmptyKey = false := by
  have head := List.head?_dropWhile_not isEmptyKey path
  rwa [show path.dropWhile isEmptyKey = step :: more from begins] at head

theorem isPlain_of_mem_trimmed (plain : ∀ step ∈ path, step.isPlain = true) :
    ∀ step ∈ trimmed path, step.isPlain = true :=
  fun step member => plain step ((List.dropWhile_sublist isEmptyKey).mem member)

/-- Paths with different texts: those that differ even without the empty keys at their beginning,
if no name holds a character that marks a step. -/
theorem renderPath_ne (first : ∀ step ∈ path, step.isPlain = true)
    (second : ∀ step ∈ more, step.isPlain = true) (apart : trimmed path ≠ trimmed more) :
    renderPath path ≠ renderPath more := by
  rw [← renderPath_trimmed path, ← renderPath_trimmed more]
  replace first := isPlain_of_mem_trimmed first
  replace second := isPlain_of_mem_trimmed second
  intro same
  refine apart ?_
  cases begins : trimmed path with
  | nil =>
    cases starts : trimmed more with
    | nil => rfl
    | cons other more =>
      rw [begins, starts] at same
      exact absurd same.symm (renderPath_cons_ne_empty (isEmptyKey_of_trimmed starts))
  | cons step path =>
    have shown := isEmptyKey_of_trimmed begins
    cases starts : trimmed more with
    | nil =>
      rw [begins, starts] at same
      exact absurd same (renderPath_cons_ne_empty shown)
    | cons other more =>
      have seen := isEmptyKey_of_trimmed starts
      rw [begins] at first
      rw [starts] at second
      obtain ⟨plain, plains⟩ := List.forall_mem_cons.mp first
      obtain ⟨clear, clears⟩ := List.forall_mem_cons.mp second
      have texts := congrArg String.toList same
      rw [begins, starts, toList_renderPath_cons shown, toList_renderPath_cons seen] at texts
      obtain ⟨rfl, rest⟩ := render_append_inj true plain clear (fun _ => shown) (fun _ => seen)
        texts
      rw [onward_inj plains clears rest]

/-- A position is not taken for the name of a member, and a key that is empty is seen behind another
step. -/
theorem renderPath_ne_roles :
    (∀ step ∈ [key "", key "roles", index 2], step.isPlain = true) ∧
      (∀ step ∈ [key "roles", key "", member "[2]"], step.isPlain = true) ∧
      trimmed [key "", key "roles", index 2] ≠ trimmed [key "roles", key "", member "[2]"] ∧
      renderPath [key "", key "roles", index 2] ≠ renderPath [key "roles", key "", member "[2]"] :=
  have first : ∀ step ∈ [key "", key "roles", index 2], step.isPlain = true := by decide
  have second : ∀ step ∈ [key "roles", key "", member "[2]"], step.isPlain = true := by decide
  have apart : trimmed [key "", key "roles", index 2] ≠
      trimmed [key "roles", key "", member "[2]"] := by decide
  ⟨first, second, apart, renderPath_ne first second apart⟩

/-- Different paths can have the same text: the path to a value itself, and the one to the value
under its empty key. -/
theorem not_forall_renderPath_ne :
    ¬ ∀ path more : List PathStep, (∀ step ∈ path, step.isPlain = true) →
      (∀ step ∈ more, step.isPlain = true) → path ≠ more → renderPath path ≠ renderPath more :=
  fun all => all [] [key ""] (by decide) (by decide) (by decide) rfl

end ChatCommand.PathStep
