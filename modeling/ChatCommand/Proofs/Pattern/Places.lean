import ChatCommand.Pattern.Matching

/-!
# Places of a message

Working backwards through a pattern turns the places at which its rest can begin into the places at
which a longer part can. Each operation on places is described here by its members; a place of a
message of `n` characters is a number up to `n`.

## Main definitions

- `Pattern.Places.Has`: a place is among the given ones.
- `Pattern.Piece`: a text stands between two places of a message.
-/

namespace ChatCommand.Pattern

/-- A text stands in a message from one place to another. -/
structure Piece (message : List Char) (start finish : Nat) (text : List Char) : Prop where
  ahead : message.drop start = text ++ message.drop finish
  finish_eq : finish = start + text.length

namespace Piece

variable {message text other : List Char} {start middle finish : Nat}

theorem nil (message : List Char) (start : Nat) : Piece message start start [] := ⟨rfl, rfl⟩

theorem append (one : Piece message start middle text) (two : Piece message middle finish other) :
    Piece message start finish (text ++ other) where
  ahead := by rw [one.ahead, two.ahead, List.append_assoc]
  finish_eq := by rw [two.finish_eq, one.finish_eq, List.length_append, Nat.add_assoc]

/-- A piece made of two texts has a place between them. -/
theorem cut (whole : Piece message start finish (text ++ other)) :
    Piece message start (start + text.length) text ∧
      Piece message (start + text.length) finish other := by
  have ahead := whole.ahead
  rw [List.append_assoc] at ahead
  have later : message.drop (start + text.length) = other ++ message.drop finish := by
    rw [← List.drop_drop, ahead, List.drop_left]
  refine ⟨⟨?_, rfl⟩, ⟨later, ?_⟩⟩
  · rw [ahead, later]
  · rw [whole.finish_eq, List.length_append, Nat.add_assoc]

theorem take_eq (piece : Piece message start finish text) :
    (message.drop start).take text.length = text := by
  rw [piece.ahead, List.take_left]

/-- Two pieces of one length from one place are the same text. -/
theorem unique (one : Piece message start middle text) (two : Piece message start finish other)
    (same : text.length = other.length) : text = other := by
  rw [← one.take_eq, ← two.take_eq, same]

/-- What stands from a place on is a piece that ends later. -/
theorem of_le (order : start ≤ finish) (bound : finish ≤ message.length) :
    Piece message start finish ((message.drop start).take (finish - start)) := by
  refine ⟨?_, ?_⟩
  · have later : message.drop finish = (message.drop start).drop (finish - start) := by
      rw [List.drop_drop, Nat.add_sub_cancel' order]
    rw [later, List.take_append_drop]
  · rw [List.length_take, List.length_drop]
    omega

/-- Only the message itself stands between its first place and its last. -/
theorem whole_iff : Piece message 0 message.length text ↔ text = message := by
  constructor
  · intro piece
    have ahead := piece.ahead
    rw [List.drop_length, List.append_nil] at ahead
    exact ahead.symm
  · rintro rfl
    exact ⟨by simp, by simp⟩

end Piece

namespace Places

variable {places other : Places} {folded chars : List Char} {c : Char} {i : Nat}

/-- A place is among the given ones. -/
def Has (places : Places) (i : Nat) : Prop := places[i]? = some true

theorem Has.lt_length (h : places.Has i) : i < places.length :=
  (List.getElem?_eq_some_iff.mp h).1

theorem headD_iff : places.headD false = true ↔ places.Has 0 := by
  cases places <;> simp [Has]

theorem getD_iff : places[i]?.getD false = true ↔ places.Has i := by
  unfold Has
  cases places[i]? <;> simp

theorem has_last {message : List Char} : (last message).Has i ↔ i = message.length := by
  unfold Has last
  rw [List.getElem?_append, List.length_replicate]
  split
  next before => simp [before]; omega
  next => simp [List.getElem?_singleton]; omega

theorem length_last (message : List Char) : (last message).length = message.length + 1 := by
  simp [last]

theorem has_tail : Has places.tail i ↔ places.Has (i + 1) := by
  unfold Has
  rw [List.getElem?_tail]

/-- A list of places with no place after its end. -/
theorem has_concat_false : Has (places ++ [false]) i ↔ places.Has i := by
  unfold Has
  rw [List.getElem?_append]
  split
  next => rfl
  next beyond =>
    rw [List.getElem?_singleton, List.getElem?_eq_none (Nat.not_lt.mp beyond)]
    split <;> simp

theorem has_zipWith_or (same : places.length = other.length) :
    Has (List.zipWith (· || ·) places other) i ↔ places.Has i ∨ other.Has i := by
  unfold Has
  rw [List.getElem?_zipWith]
  by_cases bound : i < places.length
  · have otherBound : i < other.length := same ▸ bound
    simp [bound, otherBound]
  · have otherBound : ¬ i < other.length := same ▸ bound
    simp [bound, otherBound]

/-! ### Texts -/

theorem length_beforeChar (sized : places.length = folded.length + 1) :
    (beforeChar folded c places).length = places.length := by
  simp [beforeChar, sized]

theorem length_beforeText (sized : places.length = folded.length + 1) :
    (beforeText folded chars places).length = places.length := by
  induction chars with
  | nil => rfl
  | cons c chars ih =>
    show (beforeChar folded c (beforeText folded chars places)).length = places.length
    rw [length_beforeChar (ih.trans sized), ih]

theorem has_beforeChar :
    (beforeChar folded c places).Has i ↔
      folded[i]? = some (Text.fold c) ∧ places.Has (i + 1) := by
  unfold beforeChar
  rw [has_concat_false]
  unfold Has
  rw [List.getElem?_zipWith, List.getElem?_tail]
  cases folded[i]? with
  | none => simp
  | some letter =>
    cases places[i + 1]? with
    | none => simp
    | some next =>
      simp only [Option.some.injEq, Bool.and_eq_true, beq_iff_eq]
      exact and_congr_left fun _ => eq_comm

theorem has_beforeText :
    (beforeText folded chars places).Has i ↔
      chars.map Text.fold <+: folded.drop i ∧ places.Has (i + chars.length) := by
  induction chars generalizing i with
  | nil => simp [beforeText]
  | cons c chars ih =>
    show (beforeChar folded c (beforeText folded chars places)).Has i ↔ _
    rw [has_beforeChar, ih, List.map_cons, List.length_cons, Nat.add_right_comm, Nat.add_assoc,
      ← and_assoc]
    refine and_congr_left fun _ => ?_
    by_cases bound : i < folded.length
    · rw [List.drop_eq_getElem_cons bound, List.cons_prefix_cons, List.getElem?_eq_getElem bound]
      simp [eq_comm]
    · simp [bound, List.drop_eq_nil_of_le (Nat.not_lt.mp bound)]

/-! ### Captures -/

theorem length_orLater (places : Places) : places.orLater.length = places.length := by
  induction places with
  | nil => rfl
  | cons here rest ih => simpa [orLater] using ih

theorem has_orLater : places.orLater.Has i ↔ ∃ j, i ≤ j ∧ places.Has j := by
  -- On the places: the first one is marked when it or a later one was.
  induction places generalizing i with
  | nil => simp [orLater, Has]
  | cons here rest ih =>
    show Has ((here || (orLater rest).headD false) :: orLater rest) i ↔ _
    cases i with
    | zero =>
      have head : Has ((here || (orLater rest).headD false) :: orLater rest) 0 ↔
          here = true ∨ (orLater rest).Has 0 := by
        rw [← @headD_iff (orLater rest)]
        simp [Has]
      rw [head, ih]
      constructor
      · rintro (here | ⟨j, -, found⟩)
        · exact ⟨0, Nat.le_refl 0, by simpa [Has] using here⟩
        · exact ⟨j + 1, Nat.zero_le _, by simpa [Has] using found⟩
      · rintro ⟨j, -, found⟩
        cases j with
        | zero => exact .inl (by simpa [Has] using found)
        | succ j => exact .inr ⟨j, Nat.zero_le j, by simpa [Has] using found⟩
    | succ i =>
      have shift : Has ((here || (orLater rest).headD false) :: orLater rest) (i + 1) ↔
          (orLater rest).Has i := by
        simp [Has]
      rw [shift, ih]
      constructor
      · rintro ⟨j, order, found⟩
        exact ⟨j + 1, Nat.succ_le_succ order, by simpa [Has] using found⟩
      · rintro ⟨j, order, found⟩
        obtain ⟨j, rfl⟩ : ∃ k, j = k + 1 := ⟨j - 1, by omega⟩
        exact ⟨j, by omega, by simpa [Has] using found⟩

theorem length_beforeSome (filled : places ≠ []) :
    places.beforeSome.length = places.length := by
  have positive := List.length_pos_iff.mpr filled
  unfold beforeSome
  rw [List.length_append, length_orLater, List.length_tail, List.length_singleton]
  omega

theorem has_beforeSome : places.beforeSome.Has i ↔ ∃ j, i < j ∧ places.Has j := by
  unfold beforeSome
  rw [has_concat_false, has_orLater]
  constructor
  · rintro ⟨j, order, found⟩
    exact ⟨j + 1, Nat.lt_succ_of_le order, has_tail.mp found⟩
  · rintro ⟨j, order, found⟩
    obtain ⟨j, rfl⟩ : ∃ k, j = k + 1 := ⟨j - 1, by omega⟩
    exact ⟨j, Nat.le_of_lt_succ order, has_tail.mpr found⟩

/-- The first of the places after `i`, counted from `i + 1`. -/
theorem first_after (exist : places.beforeSome.Has i) :
    places.Has (i + 1 + (places.drop (i + 1)).idxOf true) ∧
      ∀ j, i < j → places.Has j → i + 1 + (places.drop (i + 1)).idxOf true ≤ j := by
  have below {k : Nat} (found : places.Has (i + 1 + k)) :
      (places.drop (i + 1))[k]? = some true := by
    rw [List.getElem?_drop]
    exact found
  constructor
  · obtain ⟨j, order, found⟩ := has_beforeSome.mp exist
    obtain ⟨k, rfl⟩ := Nat.exists_eq_add_of_le (Nat.succ_le_of_lt order)
    have member : true ∈ places.drop (i + 1) := List.mem_of_getElem? (below found)
    have bound := List.idxOf_lt_length_of_mem member
    have first : (places.drop (i + 1))[(places.drop (i + 1)).idxOf true]? = some true := by
      rw [List.getElem?_eq_getElem bound, List.getElem_idxOf bound]
    rwa [List.getElem?_drop] at first
  · intro j order found
    obtain ⟨k, rfl⟩ := Nat.exists_eq_add_of_le (Nat.succ_le_of_lt order)
    have at_k := below found
    obtain ⟨bound, value⟩ := List.getElem?_eq_some_iff.mp at_k
    -- An earlier place would have been found first.
    apply Nat.le_of_not_lt
    intro late
    have early : k < (places.drop (i + 1)).findIdx (· == true) := by
      show k < (places.drop (i + 1)).idxOf true
      omega
    have missing := List.not_of_lt_findIdx early
    simp [value] at missing

end Places

end ChatCommand.Pattern
