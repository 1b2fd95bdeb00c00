import ChatCommand.Proofs.Pattern.Numbering
import ChatCommand.Proofs.Pattern.Places
import ChatCommand.Proofs.Pattern.Split

/-!
# The matcher finds the first split

Working back from the end, `Pattern.reach` collects for each part of a pattern the places at which
a split of that part begins that can be completed. Following the plan, every choice is then taken
in the order of priority among those that can be completed, so the split found is the first one.

## Main results

- `has_reach_iff`: the places collected are those at which a split begins.
- `follow_first`: following the plan yields the captures of the first split.
- `isSome_captures?_iff`: a message matches when it can be split.
- `exists_first_of_captures?`: what the matcher captures is read from the first split.
-/

namespace ChatCommand.Template

open Pattern (Piece Places Plan)

variable {sigilText message : List Char} {places : Places}

/-! ### Reaching back -/

theorem length_reach (pattern : Pattern) {folded : List Char}
    (sized : places.length = folded.length + 1) :
    (pattern.reach folded places).2.length = places.length := by
  induction pattern generalizing places with
  | done => rfl
  | text chars rest ih =>
    show ((rest.reach folded places).2.beforeText folded chars).length = _
    rw [Places.length_beforeText ((ih sized).trans sized), ih sized]
  | capture n rest ih =>
    show ((rest.reach folded places).2.beforeSome).length = _
    have filled : (rest.reach folded places).2 ≠ [] := by
      rw [← List.length_pos_iff, ih sized, sized]
      exact Nat.succ_pos _
    rw [Places.length_beforeSome filled, ih sized]
  | block n k content rest ihContent ihRest =>
    show (List.zipWith (· || ·) (content.reach folded (rest.reach folded places).2).2
      (rest.reach folded places).2).length = _
    have after := ihRest sized
    rw [List.length_zipWith, ihContent (after.trans sized), after, Nat.min_self]

/-- A text leads from a place to another when it stands there up to letter case. -/
theorem has_beforeText_iff {chars : List Char} {start : Nat} :
    (places.beforeText (message.map Text.fold) chars).Has start ↔
      ∃ spelled, spelled.map Text.fold = chars.map Text.fold ∧
        Piece message start (start + chars.length) spelled ∧
          places.Has (start + chars.length) := by
  rw [Places.has_beforeText]
  constructor
  · rintro ⟨before, found⟩
    rw [← List.map_drop, List.prefix_iff_eq_take, ← List.map_take, List.length_map] at before
    have sized := congrArg List.length before
    rw [List.length_map, List.length_map] at sized
    refine ⟨(message.drop start).take chars.length, before.symm, ⟨?_, ?_⟩, found⟩
    · rw [← List.drop_drop, List.take_append_drop]
    · rw [← sized]
  · rintro ⟨spelled, same, piece, found⟩
    refine ⟨?_, found⟩
    rw [← same, ← List.map_drop, piece.ahead, List.map_append]
    exact List.prefix_append _ _

/-- A capture leads from a place to every later one. -/
theorem has_beforeSome_iff (sized : places.length = message.length + 1) {start : Nat} :
    places.beforeSome.Has start ↔
      ∃ text, text ≠ [] ∧ Piece message start (start + text.length) text ∧
        places.Has (start + text.length) := by
  rw [Places.has_beforeSome]
  constructor
  · rintro ⟨finish, order, found⟩
    have bound : finish ≤ message.length := by
      have := found.lt_length
      omega
    obtain ⟨text, piece⟩ : ∃ text, Piece message start finish text :=
      ⟨_, .of_le (Nat.le_of_lt order) bound⟩
    obtain rfl := piece.finish_eq
    refine ⟨text, ?_, piece, found⟩
    rintro rfl
    simp at order
  · rintro ⟨text, filled, -, found⟩
    have := List.length_pos_iff.mpr filled
    exact ⟨_, by omega, found⟩

/-- A text in front of a part whose places are known. -/
theorem has_beforeText_split_iff {after : Places} {rest : Template} {chars : List Char}
    {start : Nat} (reached : ∀ middle, after.Has middle ↔
      ∃ (split : Split sigilText rest) (finish : Nat),
        Piece message middle finish split.message ∧ places.Has finish) :
    (after.beforeText (message.map Text.fold) chars).Has start ↔
      ∃ (spelled : List Char) (split : Split sigilText rest) (finish : Nat),
        spelled.map Text.fold = chars.map Text.fold ∧
          Piece message start finish (spelled ++ split.message) ∧ places.Has finish := by
  rw [has_beforeText_iff]
  constructor
  · rintro ⟨spelled, same, piece, found⟩
    obtain ⟨split, finish, later, ends⟩ := (reached _).mp found
    exact ⟨spelled, split, finish, same, piece.append later, ends⟩
  · rintro ⟨spelled, split, finish, same, piece, ends⟩
    have sameLength : spelled.length = chars.length := by
      simpa using congrArg List.length same
    obtain ⟨here, later⟩ := piece.cut
    rw [sameLength] at here later
    exact ⟨spelled, same, here, (reached _).mpr ⟨split, finish, later, ends⟩⟩

/-- The places collected are those at which a split begins that ends in one of the given ones. -/
theorem has_reach_iff (template : Template) (earlier : List Nat)
    (sized : places.length = message.length + 1) {start : Nat} :
    ((template.numbered sigilText earlier).reach (message.map Text.fold) places).2.Has start ↔
      ∃ (split : Split sigilText template) (finish : Nat),
        Piece message start finish split.message ∧ places.Has finish := by
  have foldedSized : places.length = (message.map Text.fold).length + 1 := by
    rw [List.length_map, sized]
  induction template generalizing earlier places start with
  | nil =>
    constructor
    · intro found
      exact ⟨.nil, start, .nil message start, found⟩
    · rintro ⟨split, finish, piece, found⟩
      cases split
      obtain rfl : finish = start := piece.finish_eq
      exact found
  | sigil rest ih =>
    refine (has_beforeText_split_iff fun _ => ih earlier sized foldedSized).trans ?_
    constructor
    · rintro ⟨spelled, split, finish, same, piece, ends⟩
      exact ⟨.sigil spelled same split, finish, piece, ends⟩
    · rintro ⟨split, finish, piece, ends⟩
      cases split with
      | sigil spelled same after => exact ⟨spelled, after, finish, same, piece, ends⟩
  | literal text rest ih =>
    refine (has_beforeText_split_iff fun _ => ih earlier sized foldedSized).trans ?_
    constructor
    · rintro ⟨spelled, split, finish, same, piece, ends⟩
      exact ⟨.literal spelled same split, finish, piece, ends⟩
    · rintro ⟨split, finish, piece, ends⟩
      cases split with
      | literal spelled same after => exact ⟨spelled, after, finish, same, piece, ends⟩
  | argument n rest ih =>
    show (Places.beforeSome _).Has start ↔ _
    rw [has_beforeSome_iff ((length_reach _ foldedSized).trans sized)]
    constructor
    · rintro ⟨text, filled, piece, found⟩
      obtain ⟨split, finish, later, ends⟩ := (ih earlier sized foldedSized).mp found
      exact ⟨.argument text filled split, finish, piece.append later, ends⟩
    · rintro ⟨split, finish, piece, ends⟩
      cases split with
      | argument text filled after =>
        obtain ⟨here, later⟩ := Piece.cut piece
        exact ⟨text, filled, here,
          (ih earlier sized foldedSized).mpr ⟨after, finish, later, ends⟩⟩
  | keyOff n content rest ihContent ihRest =>
    -- The content has to lead to places at which a split of the rest begins.
    have after := length_reach (rest.numbered sigilText (earlier ++ n :: content.blockOwners))
      foldedSized
    have inside := length_reach (content.numbered sigilText (earlier ++ [n]))
      (after.trans foldedSized)
    refine (Places.has_zipWith_or inside).trans ?_
    refine (or_congr (ihContent _ (after.trans sized) (after.trans foldedSized))
      (ihRest _ sized foldedSized)).trans ?_
    constructor
    · rintro (⟨split, middle, piece, found⟩ | ⟨split, finish, piece, ends⟩)
      · obtain ⟨last, finish, later, ends⟩ := (ihRest _ sized foldedSized).mp found
        exact ⟨.present split last, finish, piece.append later, ends⟩
      · exact ⟨.absent split, finish, piece, ends⟩
    · rintro ⟨split, finish, piece, ends⟩
      cases split with
      | present split last =>
        obtain ⟨here, later⟩ := Piece.cut piece
        exact .inl ⟨split, _, here,
          (ihRest _ sized foldedSized).mpr ⟨last, finish, later, ends⟩⟩
      | absent last => exact .inr ⟨last, finish, piece, ends⟩

/-! ### The first split -/

/-- Of the splits that begin at a place and end in one of the given places, the first one. -/
structure IsFirst {template : Template} (message : List Char) (places : Places)
    (start finish : Nat) (split : Split sigilText template) : Prop where
  piece : Piece message start finish split.message
  ends : places.Has finish
  first : ∀ (other : Split sigilText template) (stop : Nat),
    Piece message start stop other.message → places.Has stop →
      other = split ∨ split.Precedes other

namespace IsFirst

variable {n start middle finish : Nat} {text : List Char} {content rest : Template}
  {inside : Split sigilText content} {after : Split sigilText rest}

theorem nil (found : places.Has start) :
    IsFirst message places start start (Split.nil : Split sigilText .nil) where
  piece := .nil message start
  ends := found
  first := by
    intro other stop _ _
    cases other
    exact .inl rfl

/-- A fixed text leaves no choice: every split with it goes on at the same place. -/
theorem behind {spelled spelled' : List Char} {after' : Split sigilText rest} {stop : Nat}
    (here : Piece message start middle spelled)
    (later : IsFirst message places middle finish after)
    (same : spelled'.map Text.fold = spelled.map Text.fold)
    (piece : Piece message start stop (spelled' ++ after'.message)) (found : places.Has stop) :
    spelled' = spelled ∧ (after' = after ∨ after.Precedes after') := by
  obtain ⟨there, behind⟩ := piece.cut
  have sameLength : spelled'.length = spelled.length := by
    simpa using congrArg List.length same
  obtain rfl := there.unique here sameLength
  obtain rfl := here.finish_eq
  exact ⟨rfl, later.first after' stop behind found⟩

theorem sigil {spelled : List Char} {same : spelled.map Text.fold = sigilText.map Text.fold}
    (here : Piece message start middle spelled)
    (later : IsFirst message places middle finish after) :
    IsFirst message places start finish (.sigil spelled same after) where
  piece := here.append later.piece
  ends := later.ends
  first := by
    intro other stop piece found
    cases other with
    | sigil spelled' same' after' =>
      obtain ⟨rfl, order⟩ := later.behind here (same'.trans same.symm) piece found
      exact order.imp_left fun equal => by rw [equal]

theorem literal {spelled : List Char} {same : spelled.map Text.fold = text.map Text.fold}
    (here : Piece message start middle spelled)
    (later : IsFirst message places middle finish after) :
    IsFirst message places start finish (.literal spelled same after) where
  piece := here.append later.piece
  ends := later.ends
  first := by
    intro other stop piece found
    cases other with
    | literal spelled' same' after' =>
      obtain ⟨rfl, order⟩ := later.behind here (same'.trans same.symm) piece found
      exact order.imp_left fun equal => by rw [equal]

/-- A capture ends at the nearest place from which the rest can be completed. -/
theorem argument {filled : text ≠ []} (here : Piece message start middle text)
    (later : IsFirst message places middle finish after)
    (nearest : ∀ (other : Split sigilText rest) (place stop : Nat), start < place →
      Piece message place stop other.message → places.Has stop → middle ≤ place) :
    IsFirst message places start finish
      (.argument text filled after : Split sigilText (.argument n rest)) where
  piece := here.append later.piece
  ends := later.ends
  first := by
    intro other stop piece found
    cases other with
    | argument text' filled' after' =>
      obtain ⟨there, behind⟩ := Piece.cut piece
      have positive := List.length_pos_iff.mpr filled'
      have order := nearest after' _ stop (by omega) behind found
      obtain rfl := here.finish_eq
      -- No other text can be shorter; one of the same length is the same text.
      rcases Nat.lt_or_eq_of_le (Nat.le_of_add_le_add_left order) with shorter | equal
      · exact .inr (.of_head shorter)
      · obtain rfl : text = text' := here.unique there equal
        refine (later.first after' stop behind found).imp (fun equal => by rw [equal]) ?_
        exact fun ahead => ahead.append_left [.text text.length]

/-- A block that can be completed is there, and its content is split first. -/
theorem present {reached : Places} (inner : IsFirst message reached start middle inside)
    (later : IsFirst message places middle finish after)
    (complete : ∀ (other : Split sigilText rest) (place stop : Nat),
      Piece message place stop other.message → places.Has stop → reached.Has place) :
    IsFirst message places start finish
      (.present inside after : Split sigilText (.keyOff n content rest)) where
  piece := inner.piece.append later.piece
  ends := later.ends
  first := by
    intro other stop piece found
    cases other with
    | present inside' after' =>
      obtain ⟨there, behind⟩ := Piece.cut piece
      rcases inner.first inside' _ there (complete after' _ stop behind found) with rfl | ahead
      · obtain rfl := inner.piece.finish_eq
        refine (later.first after' stop behind found).imp (fun equal => by rw [equal]) ?_
        exact fun ahead => ahead.append_left (.present :: inside'.choices)
      · exact .inr ((ahead.append_right _ _).append_left [.present])
    | absent after' => exact .inr (.of_head trivial)

/-- A block that cannot be completed is missing. -/
theorem absent (later : IsFirst message places start finish after)
    (hopeless : ∀ (inside : Split sigilText content) (other : Split sigilText rest)
      (stop : Nat), Piece message start stop (inside.message ++ other.message) →
        ¬ places.Has stop) :
    IsFirst message places start finish
      (.absent after : Split sigilText (.keyOff n content rest)) where
  piece := later.piece
  ends := later.ends
  first := by
    intro other stop piece found
    cases other with
    | present inside' after' => exact absurd found (hopeless inside' after' stop piece)
    | absent after' =>
      refine (later.first after' stop piece found).imp (fun equal => by rw [equal]) ?_
      exact fun ahead => ahead.append_left [.absent]

end IsFirst

/-! ### Following the plan -/

theorem advance_drop (message : List Char) (start count : Nat) :
    Pattern.Spot.advance ⟨start, message.drop start⟩ count =
      ⟨start + count, message.drop (start + count)⟩ := by
  rw [Pattern.Spot.advance, List.drop_drop]

theorem follow_capture {n : Nat} {ends : Places} {rest : Plan} {spot : Pattern.Spot}
    {index : Nat} (nearest : (ends.drop (spot.place + 1)).idxOf true = index) :
    (Plan.capture n ends rest).follow spot =
      (⟨.argument n, spot.place, spot.ahead.take (index + 1)⟩ ::
        (rest.follow (spot.advance (index + 1))).1,
        (rest.follow (spot.advance (index + 1))).2) := by
  rw [← nearest]
  rfl

theorem follow_block_present {n k : Nat} {starts : Places} {content rest : Plan}
    {spot : Pattern.Spot} (found : starts.Has spot.place) :
    (Plan.block n k starts content rest).follow spot =
      (⟨.keyOff n k, spot.place,
          spot.ahead.take ((content.follow spot).2.place - spot.place)⟩ ::
        ((content.follow spot).1 ++ (rest.follow (content.follow spot).2).1),
        (rest.follow (content.follow spot).2).2) :=
  if_pos (Places.getD_iff.mpr found)

theorem follow_block_absent {n k : Nat} {starts : Places} {content rest : Plan}
    {spot : Pattern.Spot} (missing : ¬ starts.Has spot.place) :
    (Plan.block n k starts content rest).follow spot = rest.follow spot :=
  if_neg fun found => missing (Places.getD_iff.mp found)

/-- Following the plan from a place that was collected yields the captures of the first split. -/
theorem follow_first (template : Template) (earlier : List Nat)
    (sized : places.length = message.length + 1) {start : Nat}
    (found : ((template.numbered sigilText earlier).reach
      (message.map Text.fold) places).2.Has start) :
    ∃ (split : Split sigilText template) (finish : Nat),
      IsFirst message places start finish split ∧
        ((template.numbered sigilText earlier).reach (message.map Text.fold) places).1.follow
            ⟨start, message.drop start⟩ =
          (split.captures earlier start, ⟨finish, message.drop finish⟩) := by
  have foldedSized : places.length = (message.map Text.fold).length + 1 := by
    rw [List.length_map, sized]
  induction template generalizing earlier places start with
  | nil => exact ⟨.nil, start, .nil found, rfl⟩
  | sigil rest ih =>
    obtain ⟨spelled, same, here, later⟩ := has_beforeText_iff.mp found
    obtain ⟨split, finish, first, followed⟩ := ih earlier sized later foldedSized
    refine ⟨.sigil spelled same split, finish, .sigil here first, ?_⟩
    show Plan.follow _ (Pattern.Spot.advance _ sigilText.length) = _
    rw [advance_drop, followed, here.finish_eq]
    rfl
  | literal text rest ih =>
    obtain ⟨spelled, same, here, later⟩ := has_beforeText_iff.mp found
    obtain ⟨split, finish, first, followed⟩ := ih earlier sized later foldedSized
    refine ⟨.literal spelled same split, finish, .literal here first, ?_⟩
    show Plan.follow _ (Pattern.Spot.advance _ text.length) = _
    rw [advance_drop, followed, here.finish_eq]
    rfl
  | argument n rest ih =>
    obtain ⟨later, nearest⟩ := Places.first_after found
    generalize counted : (List.drop (start + 1) ((rest.numbered sigilText earlier).reach
      (message.map Text.fold) places).2).idxOf true = index at later nearest
    obtain ⟨split, finish, first, followed⟩ := ih earlier sized later foldedSized
    have bound : start + 1 + index ≤ message.length := by
      have := later.lt_length
      rw [length_reach _ foldedSized, sized] at this
      omega
    have here : Piece message start (start + (index + 1))
        ((message.drop start).take (index + 1)) := by
      have order : start ≤ start + (index + 1) := Nat.le_add_right _ _
      have inRange : start + (index + 1) ≤ message.length := by omega
      simpa using Piece.of_le order inRange
    -- The search begins one character ahead, so the text is not empty.
    have filled : (message.drop start).take (index + 1) ≠ [] := by
      intro empty
      have := here.finish_eq
      rw [empty, List.length_nil] at this
      omega
    have middle : start + 1 + index = start + (index + 1) := by omega
    rw [middle] at first followed nearest
    refine ⟨.argument _ filled split, finish, .argument here first ?_, ?_⟩
    · intro other place stop order piece ends
      exact nearest place order
        ((has_reach_iff rest earlier sized).mpr ⟨other, stop, piece, ends⟩)
    · refine (follow_capture counted).trans ?_
      rw [advance_drop, followed]
      show _ = (_ :: split.captures earlier (start + _), _)
      rw [← here.finish_eq]
  | keyOff n content rest ihContent ihRest =>
    have after := length_reach (rest.numbered sigilText (earlier ++ n :: content.blockOwners))
      foldedSized
    have complete (other : Split sigilText rest) (place stop : Nat)
        (piece : Piece message place stop other.message) (ends : places.Has stop) :=
      (has_reach_iff rest (earlier ++ n :: content.blockOwners) sized).mpr
        ⟨other, stop, piece, ends⟩
    by_cases reached : ((content.numbered sigilText (earlier ++ [n])).reach
      (message.map Text.fold) ((rest.numbered sigilText
        (earlier ++ n :: content.blockOwners)).reach (message.map Text.fold) places).2).2.Has start
    · obtain ⟨inside, middle, inner, entered⟩ :=
        ihContent _ (after.trans sized) reached (after.trans foldedSized)
      obtain ⟨split, finish, first, followed⟩ := ihRest _ sized inner.ends foldedSized
      refine ⟨.present inside split, finish, .present inner first complete, ?_⟩
      refine (follow_block_present reached).trans ?_
      rw [entered]
      dsimp only
      rw [followed, inner.piece.finish_eq, Nat.add_sub_cancel_left, inner.piece.take_eq]
      rfl
    · -- The block cannot be there, so the place was collected for the rest alone.
      have inside := length_reach (content.numbered sigilText (earlier ++ [n]))
        (after.trans foldedSized)
      have later := ((Places.has_zipWith_or inside).mp found).resolve_left reached
      obtain ⟨split, finish, first, followed⟩ := ihRest _ sized later foldedSized
      refine ⟨.absent split, finish, .absent first ?_, ?_⟩
      · intro other last stop piece ends
        obtain ⟨here, behind⟩ := piece.cut
        exact reached ((has_reach_iff content _ (after.trans sized)).mpr
          ⟨other, _, here, complete last _ stop behind ends⟩)
      · exact (follow_block_absent reached).trans followed

/-! ### The matcher -/

theorem captures?_eq (pattern : Pattern) (message : List Char) :
    pattern.captures? message =
      if (pattern.reach (message.map Text.fold) (Places.last message)).2.headD false then
        some ((pattern.reach (message.map Text.fold) (Places.last message)).1.follow
          ⟨0, message⟩).1
      else none := rfl

/-- A message matches when it can be split. -/
theorem isSome_captures?_iff {template : Template} {sigil : String} :
    ((template.toPattern sigil).captures? message).isSome = true ↔
      ∃ split : Split sigil.toList template, split.message = message := by
  have reached := @has_reach_iff sigil.toList message _ template []
    (Places.length_last message) 0
  rw [toPattern_eq, captures?_eq]
  constructor
  · intro matched
    split at matched
    next found =>
      obtain ⟨split, finish, piece, ends⟩ := reached.mp (Places.headD_iff.mp found)
      obtain rfl := Places.has_last.mp ends
      exact ⟨split, Piece.whole_iff.mp piece⟩
    next => contradiction
  · rintro ⟨split, whole⟩
    have found := reached.mpr ⟨split, _, Piece.whole_iff.mpr whole, Places.has_last.mpr rfl⟩
    rw [if_pos (Places.headD_iff.mpr found)]
    rfl

/-- The groups captured are those of the first split. -/
theorem exists_first_of_captures? {template : Template} {sigil : String}
    {captures : List Pattern.Capture}
    (matched : (template.toPattern sigil).captures? message = some captures) :
    ∃ split : Split sigil.toList template, split.message = message ∧
      split.captures [] 0 = captures ∧
        ∀ other : Split sigil.toList template, other.message = message →
          other = split ∨ split.Precedes other := by
  rw [toPattern_eq, captures?_eq] at matched
  split at matched
  next found =>
    obtain ⟨split, finish, first, followed⟩ :=
      follow_first template [] (Places.length_last message) (Places.headD_iff.mp found)
    obtain rfl := Places.has_last.mp first.ends
    refine ⟨split, Piece.whole_iff.mp first.piece, ?_, ?_⟩
    · rw [List.drop_zero] at followed
      rw [← Option.some.inj matched, followed]
    · intro other whole
      exact first.first other _ (Piece.whole_iff.mpr whole) (Places.has_last.mpr rfl)
  next => contradiction

end ChatCommand.Template
