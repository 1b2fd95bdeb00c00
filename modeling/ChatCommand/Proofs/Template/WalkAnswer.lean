import ChatCommand.Proofs.Template.Progress
import ChatCommand.Proofs.Template.Walk

/-!
# Answers of walks

What stands ahead decides how a token goes on: a walker does with it, move by move, what reading
does at once. The table tells about each argument what the draft says, and the walker looks there
only for arguments that exist. So the walk over any syntax string comes to its end, without a fault,
in the answer that reading gives.

## Main definitions

- `Tallies`: a table tells which arguments have been used.
- `Walker.Settles`: a walk comes to its end in an answer.
- `StaysInside`: how the walk over a syntax string goes.

## Main results

- `Walker.settles_header`: the head of a block.
- `Walker.settles_token`: one token.
- `staysInside`: the walk over any syntax string.
-/

namespace ChatCommand.Template

variable {arguments : List Argument} {found : Argument} {table : List Bool} {claimed : List Nat}
  {source text : List Char} {cursor sign brace n : Nat} {draft : Draft} {walker next : Walker}
  {stage : Stage} {error : ParseError}

/-- A token from which nothing is missing takes the bytes in front of what follows it. -/
theorem Token.split_of_complete {c : Char} {rest : List Char}
    (complete : (cut c rest).token.Complete) :
    ∃ front, c :: rest = front ++ (cut c rest).rest ∧ (cut c rest).width = bytes front := by
  obtain ⟨front, split_at, written⟩ := exists_written complete
  obtain ⟨d, tail, rfl, taken⟩ := cut_of_written written
  rw [List.cons_append] at split_at
  obtain ⟨rfl, same⟩ := List.cons.inj split_at
  rw [← same] at taken
  exact ⟨c :: tail, split_at, congrArg Cut.width taken⟩

/-! ### Tables -/

/-- The table tells of each argument whether it is among those used. -/
def Tallies (arguments : List Argument) (table : List Bool) (claimed : List Nat) : Prop :=
  ∀ n, flag? table n = (Argument.withOrdinal? arguments n).map fun _ => decide (n ∈ claimed)

theorem tallies_nil : Tallies arguments (List.replicate arguments.length false) [] := by
  intro n
  unfold flag? Argument.withOrdinal?
  split
  next => rfl
  next =>
    rw [List.getElem?_replicate]
    split
    next inside => simp [inside]
    next outside => simp [outside]

theorem Tallies.set (tallies : Tallies arguments table claimed)
    (declared : Argument.withOrdinal? arguments n = some found) :
    Tallies arguments (table.set (n - 1) true) (n :: claimed) := by
  intro m
  have before := tallies m
  have entry := tallies n
  have positive := (bounds_of_withOrdinal? declared).1
  rw [declared, flag?, if_neg (by omega)] at entry
  -- No argument has the ordinal zero, although the entry of the first one would be found there.
  by_cases zero : m = 0
  · subst zero
    rfl
  rw [flag?, if_neg zero] at before ⊢
  by_cases same : m = n
  · subst same
    obtain ⟨inside, -⟩ := List.getElem?_eq_some_iff.mp entry
    rw [List.getElem?_set_self inside, declared]
    simp
  · rw [List.getElem?_set_ne (by omega), before]
    simp [same]

theorem not_bounds_of_withOrdinal? (missing : Argument.withOrdinal? arguments n = none) :
    ¬(1 ≤ n ∧ n ≤ arguments.length) := by
  rintro ⟨positive, inside⟩
  rw [Argument.withOrdinal?, if_neg (by omega), List.getElem?_eq_none_iff] at missing
  omega

namespace Walker

/-! ### What the parts of a token come to -/

/-- The outcome of a part of reading as the outcome of a move. -/
def judged (outcome : Except ParseError Walker) : Except Halt Walker :=
  outcome.mapError fun error => .answer (.error error)

theorem readWord_eq (stands : Stands source walker.cursor text) (word : List Char) :
    walker.readWord source word stage error =
      match Text.after? word text with
      | some _ => .ok (walker.move stage (bytes word))
      | none => refuse error := by
  unfold readWord
  rw [stands.between?_eq, after?_eq]
  cases cut : splitAt? text (bytes word) with
  | none => rfl
  | some parts =>
    obtain ⟨spelled, rest⟩ := parts
    dsimp only [Option.map_some]
    split <;> rfl

/-- The digits of an argument are read as the argument that they name. -/
theorem readDigits_eq (role : Role) (text : List Char) :
    walker.readDigits arguments sign role text =
      judged ((ordinalOf arguments (text.takeWhile Char.isDigit) sign).map fun found =>
        walker.move (role.behind sign found.1) (text.takeWhile Char.isDigit).length) := by
  have cut : splitAt? text (text.takeWhile Char.isDigit).length =
      some (text.takeWhile Char.isDigit, text.dropWhile Char.isDigit) :=
    splitAt?_eq_some_iff.mpr ⟨List.takeWhile_append_dropWhile.symm,
      bytes_digits (Text.within_takeWhile _ _)⟩
  unfold readDigits ordinalOf
  simp only [digitWidth_eq, cut]
  split
  next => rfl
  next =>
    cases declared : Argument.withOrdinal? arguments
        (Text.natOfDigits (text.takeWhile Char.isDigit)) with
    | none =>
      rw [if_neg (not_bounds_of_withOrdinal? declared)]
      rfl
    | some found =>
      rw [if_pos (bounds_of_withOrdinal? declared)]
      rfl

/-- An argument that exists is used as by reading. -/
theorem useArgument_eq {digits : List Char}
    (tallies : Tallies arguments walker.table walker.draft.claimed)
    (named : ordinalOf arguments digits sign = .ok (n, found)) :
    walker.useArgument arguments sign n =
      judged ((Template.claim arguments walker.draft digits sign).map fun draft =>
        { walker with stage := .token, draft, table := walker.table.set (n - 1) true }) := by
  have declared := (ordinalOf_eq_ok_iff.mp named).2.2
  have entry := tallies n
  rw [declared] at entry
  rw [claim_of_ordinal named]
  unfold useArgument
  split
  next => rfl
  rw [entry, declared]
  -- The entry of the table says whether the argument is claimed and whether it is optional.
  by_cases repeated : n ∈ walker.draft.claimed
  · simp only [repeated]
    rfl
  simp only [repeated]
  cases found.optional with
  | true =>
    by_cases inside : n ∈ walker.draft.frames.map Frame.owner
    · simp only [decide_false, Option.map_some, inside, not_true_eq_false, Bool.and_false,
        Bool.false_eq_true, ↓reduceIte, Bool.not_true, Bool.false_and]
      rfl
    · simp only [decide_false, Option.map_some, inside, not_false_eq_true, decide_true,
        Bool.and_self, ↓reduceIte]
      rfl
  | false =>
    cases walker.draft.frames with
    | nil => rfl
    | cons frame frames => rfl

/-! ### Settling -/

/-- The walk comes to its end, in an answer. -/
def Settles (arguments : List Argument) (source : List Char) (walker : Walker)
    (outcome : Except ParseError Template) : Prop :=
  ∃ visited, Walk arguments source walker visited (.answer outcome)

theorem Settles.of_move {outcome : Except ParseError Template}
    (moves : walker.step arguments source = .ok next)
    (settles : Settles arguments source next outcome) :
    Settles arguments source walker outcome := by
  obtain ⟨visited, walk⟩ := settles
  exact ⟨walker :: visited, .goes moves walk⟩

theorem settles_of_refuse (stops : walker.step arguments source = refuse error) :
    Settles arguments source walker (.error error) :=
  ⟨[walker], .ends stops⟩

/-- A move that does what a part of reading does leaves what the rest of reading does. -/
theorem settles_bind {β : Type} {outcome : Except ParseError β} {behind : β → Walker}
    {rest : β → Except ParseError Template}
    (moves : walker.step arguments source = judged (outcome.map behind))
    (onward : ∀ found, outcome = .ok found →
      Settles arguments source (behind found) (rest found)) :
    Settles arguments source walker (outcome.bind rest) := by
  cases outcome with
  | error error => exact settles_of_refuse moves
  | ok found => exact .of_move moves (onward found rfl)

variable {rest : Draft → Except ParseError Template}

theorem settles_claim {digits : List Char} (tallies : Tallies arguments table draft.claimed)
    (named : ordinalOf arguments digits sign = .ok (n, found))
    (onward : ∀ next table, Template.claim arguments draft digits sign = .ok next →
      Tallies arguments table next.claimed →
      Settles arguments source ⟨.token, cursor, next, table⟩ (rest next)) :
    Settles arguments source ⟨.claim sign n, cursor, draft, table⟩
      ((Template.claim arguments draft digits sign).bind rest) := by
  refine settles_bind (useArgument_eq tallies named) fun next taken => ?_
  obtain ⟨m, other, again, -, -, -, -, rfl⟩ := claim_eq_ok_iff.mp taken
  obtain ⟨rfl, rfl⟩ := Prod.mk.inj (Except.ok.inj (named.symm.trans again))
  exact onward _ _ taken (tallies.set (ordinalOf_eq_ok_iff.mp named).2.2)

theorem ahead_mk (stands : Stands source cursor text) :
    ahead source ⟨stage, cursor, draft, table⟩ = .ok text := ahead_of_stands stands

theorem step_digits (stands : Stands source cursor text) (role : Role) :
    step arguments source ⟨.digits sign role, cursor, draft, table⟩ =
      judged ((ordinalOf arguments (text.takeWhile Char.isDigit) sign).map fun found =>
        ⟨role.behind sign found.1, cursor + (text.takeWhile Char.isDigit).length, draft,
          table⟩) := by
  simp only [step, ahead_mk stands]
  exact readDigits_eq role text

/-- Behind its sign, an argument is used as by reading. -/
theorem settles_digits (stands : Stands source cursor text)
    (tallies : Tallies arguments table draft.claimed)
    (onward : ∀ next table,
      Template.claim arguments draft (text.takeWhile Char.isDigit) sign = .ok next →
      Tallies arguments table next.claimed →
      Settles arguments source
        ⟨.token, cursor + (text.takeWhile Char.isDigit).length, next, table⟩ (rest next)) :
    Settles arguments source ⟨.digits sign .used, cursor, draft, table⟩
      ((Template.claim arguments draft (text.takeWhile Char.isDigit) sign).bind rest) := by
  -- Reading claims the argument at once. A walker comes to its ordinal first, in a move of its own.
  have parts : (Template.claim arguments draft (text.takeWhile Char.isDigit) sign).bind rest =
      (ordinalOf arguments (text.takeWhile Char.isDigit) sign).bind fun _ =>
        (Template.claim arguments draft (text.takeWhile Char.isDigit) sign).bind rest := by
    cases named : ordinalOf arguments (text.takeWhile Char.isDigit) sign with
    | error error =>
      rw [claim_of_no_ordinal named]
      rfl
    | ok found => rfl
  rw [parts]
  exact settles_bind (step_digits stands .used) fun found named =>
    settles_claim tallies named onward

/-! ### Heads of blocks -/

section

variable {behind : List Char} {offset : Nat} {outcome : Except ParseError Template}

theorem step_blanks (stands : Stands source cursor text) (needed : Bool) :
    step arguments source ⟨.blanks brace needed stage, cursor, draft, table⟩ =
      if needed = true ∧ text.takeWhile Text.isBlank = [] then refuse ⟨.malformedKeyOff, brace⟩
      else .ok ⟨stage, cursor + bytes (text.takeWhile Text.isBlank), draft, table⟩ := by
  simp only [step, ahead_mk stands, Bind.bind, Except.bind, readBlanks, blankWidth_eq,
    Bool.and_eq_true, decide_eq_true_eq, bytes_eq_zero_iff]
  rfl

theorem step_blanks_optional (stands : Stands source cursor text) :
    step arguments source ⟨.blanks brace false stage, cursor, draft, table⟩ =
      .ok ⟨stage, cursor + bytes (text.takeWhile Text.isBlank), draft, table⟩ :=
  (step_blanks stands false).trans (if_neg (by simp))

theorem step_word (stands : Stands source cursor text) :
    step arguments source ⟨.word brace, cursor, draft, table⟩ =
      match Text.after? ['o', 'p', 't'] text with
      | some _ => .ok ⟨.blanks brace true (.argument brace), cursor + 3, draft, table⟩
      | none => refuse ⟨.malformedKeyOff, brace⟩ :=
  readWord_eq stands ['o', 'p', 't']

theorem step_argument (stands : Stands source cursor text) :
    step arguments source ⟨.argument brace, cursor, draft, table⟩ =
      if text.head? = some '$' then
        .ok ⟨.digits cursor (.owner brace), cursor + '$'.utf8Size, draft, table⟩
      else refuse ⟨.malformedKeyOff, brace⟩ := by
  simp only [step, ahead_mk stands]
  rfl

theorem step_sign (stands : Stands source cursor text) (c : Char) :
    step arguments source ⟨.sign brace c stage, cursor, draft, table⟩ =
      if text.head? = some c then .ok ⟨stage, cursor + c.utf8Size, draft, table⟩
      else refuse ⟨.malformedKeyOff, brace⟩ := by
  simp only [step, ahead_mk stands]
  rfl

/-- The rest of a head is there. -/
theorem settles_behind_of_closed (stands : Stands source cursor text)
    (closed : text.dropWhile Text.isBlank = '\x7d' :: '[' :: behind)
    (settles : Settles arguments source
      ⟨.inside brace n, cursor + bytes (text.takeWhile Text.isBlank) + 2, draft, table⟩ outcome) :
    Settles arguments source ⟨Role.behind sign n (.owner brace), cursor, draft, table⟩ outcome := by
  have atBrace := stands.afterBlanks
  rw [closed] at atBrace
  refine .of_move (step_blanks_optional stands) ?_
  refine .of_move ((step_sign atBrace '\x7d').trans (if_pos rfl)) ?_
  exact .of_move ((step_sign atBrace.next '[').trans (if_pos rfl)) settles

/-- The rest of a head is missing. -/
theorem settles_behind_of_open (stands : Stands source cursor text)
    (opened : ∀ behind, text.dropWhile Text.isBlank ≠ '\x7d' :: '[' :: behind) :
    Settles arguments source ⟨Role.behind sign n (.owner brace), cursor, draft, table⟩
      (.error ⟨.malformedKeyOff, brace⟩) := by
  have atBrace := stands.afterBlanks
  refine .of_move (step_blanks_optional stands) ?_
  by_cases begins : (text.dropWhile Text.isBlank).head? = some '\x7d'
  · obtain ⟨rest, split_at⟩ := List.head?_eq_some_iff.mp begins
    rw [split_at] at atBrace
    refine .of_move ((step_sign atBrace '\x7d').trans (if_pos rfl)) ?_
    have other : rest.head? ≠ some '[' := by
      intro bracket
      obtain ⟨behind, rfl⟩ := List.head?_eq_some_iff.mp bracket
      exact opened behind split_at
    exact settles_of_refuse ((step_sign atBrace.next '[').trans (if_neg other))
  · exact settles_of_refuse ((step_sign atBrace '\x7d').trans (if_neg begins))

theorem settles_inside (declared : Argument.withOrdinal? arguments n = some found)
    (onward : found.optional = true →
      Settles arguments source ⟨.token, cursor, draft.openBlock n brace, table⟩ outcome)
    (required : ¬found.optional = true → outcome = .error ⟨.keyOffOnRequired, brace⟩) :
    Settles arguments source ⟨.inside brace n, cursor, draft, table⟩ outcome := by
  by_cases owns : found.optional = true
  · refine .of_move ?_ (onward owns)
    simp only [step, Walker.openBlock, declared, owns]
    rfl
  · rw [required owns]
    refine settles_of_refuse ?_
    simp only [step, Walker.openBlock, declared, owns]
    rfl

theorem behindSign_of_closed {after : List Char}
    (closed : (after.dropWhile Char.isDigit).dropWhile Text.isBlank = '\x7d' :: '[' :: behind) :
    Token.behindSign offset after = (.keyed offset (after.takeWhile Char.isDigit) true,
      offset + (after.takeWhile Char.isDigit).length +
        bytes ((after.dropWhile Char.isDigit).takeWhile Text.isBlank) + 2, behind) := by
  unfold Token.behindSign
  simp only [closed]

theorem behindSign_of_open {after : List Char}
    (opened : ∀ behind,
      (after.dropWhile Char.isDigit).dropWhile Text.isBlank ≠ '\x7d' :: '[' :: behind) :
    (Token.behindSign offset after).1 = .keyed offset (after.takeWhile Char.isDigit) false := by
  unfold Token.behindSign
  dsimp only
  split
  next behind closed => exact absurd closed (opened behind)
  next => rfl

theorem enter_bind_eq {digits : List Char} {closed : Bool} :
    (enter arguments draft (.keyed offset digits closed) brace).bind rest =
      (ordinalOf arguments digits (brace + offset)).bind fun _ =>
        (enter arguments draft (.keyed offset digits closed) brace).bind rest := by
  cases named : ordinalOf arguments digits (brace + offset) with
  | error error => simp only [enter_of_no_ordinal named, Except.bind]
  | ok found => rfl

/-- From the digits of its owner on, a block is opened as by reading. -/
theorem settles_owner {after : List Char} (stands : Stands source (brace + offset + 1) after)
    (onward : ∀ next, enter arguments draft (Token.behindSign offset after).1 brace = .ok next →
      Settles arguments source
        ⟨.token, brace + 1 + (Token.behindSign offset after).2.1, next, table⟩ (rest next)) :
    Settles arguments source
      ⟨.digits (brace + offset) (.owner brace), brace + offset + 1, draft, table⟩
      ((enter arguments draft (Token.behindSign offset after).1 brace).bind rest) := by
  have atTail : Stands source (brace + offset + 1 + (after.takeWhile Char.isDigit).length)
      (after.dropWhile Char.isDigit) := by
    rw [← bytes_digits (Text.within_takeWhile _ _)]
    exact Stands.onward (by rwa [List.takeWhile_append_dropWhile])
  -- Whether the head is closed has no say before the ordinal has been read, in either case.
  by_cases closed : ∃ behind,
      (after.dropWhile Char.isDigit).dropWhile Text.isBlank = '\x7d' :: '[' :: behind
  · obtain ⟨behind, closed⟩ := closed
    rw [behindSign_of_closed closed] at onward ⊢
    rw [enter_bind_eq]
    refine settles_bind (step_digits stands (.owner brace)) fun found named => ?_
    obtain ⟨n, found⟩ := found
    have entered : enter arguments draft (.keyed offset _ true) brace = _ :=
      (enter_of_ordinal named).trans (if_pos rfl)
    refine settles_behind_of_closed atTail closed ?_
    refine settles_inside (ordinalOf_eq_ok_iff.mp named).2.2 (fun owns => ?_) fun required => ?_
    · rw [entered, if_pos owns]
      have opened := onward _ (entered.trans (if_pos owns))
      have place : brace + 1 + (offset + (after.takeWhile Char.isDigit).length +
          bytes ((after.dropWhile Char.isDigit).takeWhile Text.isBlank) + 2) =
        brace + offset + 1 + (after.takeWhile Char.isDigit).length +
          bytes ((after.dropWhile Char.isDigit).takeWhile Text.isBlank) + 2 := by omega
      rwa [place] at opened
    · rw [entered, if_neg required]
      rfl
  · rw [behindSign_of_open fun behind same => closed ⟨behind, same⟩, enter_bind_eq]
    refine settles_bind (step_digits stands (.owner brace)) fun found named => ?_
    rw [enter_of_ordinal named]
    exact settles_behind_of_open atTail fun behind same => closed ⟨behind, same⟩

/-- A walker goes over the beginning of a head up to the digits of its owner. -/
theorem settles_header_of_keyword {keyword : Keyword} {after : List Char}
    (stands : Stands source (brace + 1) (keyword.inner ++ '$' :: after))
    (settles : Settles arguments source ⟨.digits (brace + bytes keyword.text) (.owner brace),
      brace + bytes keyword.text + 1, draft, table⟩ outcome) :
    Settles arguments source ⟨.blanks brace false (.word brace), brace + 1, draft, table⟩
      outcome := by
  rw [Keyword.inner, List.append_assoc, List.append_assoc] at stands
  have outside : Text.OpensOutside Text.isBlank
      (keyword.word ++ (keyword.space ++ '$' :: after)) := Token.opensOutside_word keyword.same
  have word : Text.after? ['o', 'p', 't'] (keyword.word ++ (keyword.space ++ '$' :: after)) =
      some (keyword.space ++ '$' :: after) :=
    Text.after?_eq_some_iff.mpr ⟨_, rfl, keyword.same⟩
  -- The cursor comes to the word, to the white space behind it and to the sign.
  have atWord := stands.onward
  have atSpace := atWord.onward
  rw [bytes_eq_of_sameAscii keyword.same] at atSpace
  have atSign := atSpace.onward
  refine .of_move (step_blanks_optional stands) ?_
  rw [Text.takeWhile_run keyword.gap_blank outside]
  refine .of_move ((step_word atWord).trans (by rw [word])) ?_
  have spaced := Text.takeWhile_run keyword.space_blank (Token.opensOutside_sign after)
  refine .of_move ((step_blanks atSpace true).trans (if_neg fun none =>
    keyword.apart (spaced.symm.trans none.2))) ?_
  rw [spaced]
  refine .of_move ((step_argument atSign).trans (if_pos rfl)) ?_
  have place : brace + 1 + bytes keyword.gap + 3 + bytes keyword.space =
      brace + bytes keyword.text := by
    rw [keyword.bytes_text]
    omega
  rw [← place] at settles
  exact settles

/-- A head that does not begin as it must is refused. -/
theorem settles_header_of_malformed (stands : Stands source (brace + 1) text)
    (none : ∀ (keyword : Keyword) (after : List Char), text ≠ keyword.inner ++ '$' :: after) :
    Settles arguments source ⟨.blanks brace false (.word brace), brace + 1, draft, table⟩
      (.error ⟨.malformedKeyOff, brace⟩) := by
  have atWord := stands.afterBlanks
  refine .of_move (step_blanks_optional stands) ?_
  cases found : Text.after? ['o', 'p', 't'] (text.dropWhile Text.isBlank) with
  | none => exact settles_of_refuse ((step_word atWord).trans (by rw [found]))
  | some afterWord =>
    obtain ⟨word, split_at, same⟩ := Text.after?_eq_some_iff.mp found
    rw [split_at] at atWord
    have atSpace := atWord.onward
    rw [bytes_eq_of_sameAscii same] at atSpace
    rw [← split_at] at atWord
    refine .of_move ((step_word atWord).trans (by rw [found])) ?_
    by_cases apart : afterWord.takeWhile Text.isBlank = []
    · exact settles_of_refuse ((step_blanks atSpace true).trans (if_pos ⟨rfl, apart⟩))
    refine .of_move ((step_blanks atSpace true).trans (if_neg fun none => apart none.2)) ?_
    have atSign := atSpace.afterBlanks
    refine settles_of_refuse ((step_argument atSign).trans (if_neg fun signed => ?_))
    obtain ⟨after, signed⟩ := List.head?_eq_some_iff.mp signed
    -- With the sign of an argument behind it, this would be the beginning of a head after all.
    refine none ⟨text.takeWhile Text.isBlank, word, afterWord.takeWhile Text.isBlank,
      Text.within_takeWhile _ _, same, apart, Text.within_takeWhile _ _⟩ after ?_
    rw [Keyword.inner, List.append_assoc, List.append_assoc, ← signed,
      List.takeWhile_append_dropWhile, ← split_at, List.takeWhile_append_dropWhile]

/-- Behind its brace, a block is opened as by reading. -/
theorem settles_header (stands : Stands source (brace + 1) text)
    (onward : ∀ next, enter arguments draft (Token.header text).1 brace = .ok next →
      Settles arguments source
        ⟨.token, brace + 1 + (Token.header text).2.1, next, table⟩ (rest next)) :
    Settles arguments source ⟨.blanks brace false (.word brace), brace + 1, draft, table⟩
      ((enter arguments draft (Token.header text).1 brace).bind rest) := by
  rcases Token.header_cases text with ⟨malformed, none⟩ | ⟨keyword, after, rfl, found⟩
  · rw [malformed]
    exact settles_header_of_malformed stands none
  · rw [found] at onward ⊢
    refine settles_header_of_keyword stands (settles_owner ?_ onward)
    have place : brace + bytes keyword.text + 1 = brace + 1 + bytes (keyword.inner ++ ['$']) := by
      have brace_sign : '\x7b'.utf8Size = 1 ∧ '$'.utf8Size = 1 := by decide
      simp only [Keyword.text, bytes, bytes_append, brace_sign]
      omega
    rw [place]
    exact Stands.onward (by rwa [List.append_assoc])

end

/-! ### Tokens -/

theorem step_token_nil (stands : Stands source cursor []) :
    step arguments source ⟨.token, cursor, draft, table⟩ =
      .error (.answer ((finish draft).map sigil)) := by
  simp only [step, ahead_mk stands]
  rfl

theorem step_token_cons {c : Char} (stands : Stands source cursor (c :: text)) :
    step arguments source ⟨.token, cursor, draft, table⟩ =
      enterToken ⟨.token, cursor, draft, table⟩ c := by
  simp only [step, ahead_mk stands]
  rfl

theorem step_escaped_nil (stands : Stands source cursor []) :
    step arguments source ⟨.escaped, cursor, draft, table⟩ =
      .ok ⟨.token, cursor, draft.pushChar '\\', table⟩ := by
  simp only [step, ahead_mk stands]
  rfl

theorem step_escaped_cons {c : Char} (stands : Stands source cursor (c :: text)) :
    step arguments source ⟨.escaped, cursor, draft, table⟩ =
      .ok ⟨.token, cursor + c.utf8Size, draft.pushChar c, table⟩ := by
  simp only [step, ahead_mk stands]
  rfl

theorem enterToken_of_plain {c : Char} (plain : c ∉ signs) :
    walker.enterToken c =
      .ok { walker.move .token c.utf8Size with draft := walker.draft.pushChar c } := by
  unfold enterToken
  split
  case h_5 => rfl
  all_goals exact absurd (by decide) plain

/-- A walker does with a token what reading does with it. -/
theorem settles_token {c : Char} (stands : Stands source cursor (c :: text))
    (tallies : Tallies arguments table draft.claimed)
    (onward : ∀ next table, Template.step arguments draft ⟨(Token.cut c text).token, cursor⟩ =
      .ok next → Tallies arguments table next.claimed →
      Settles arguments source ⟨.token, cursor + (Token.cut c text).width, next, table⟩
        (rest next)) :
    Settles arguments source ⟨.token, cursor, draft, table⟩
      ((Template.step arguments draft ⟨(Token.cut c text).token, cursor⟩).bind rest) := by
  by_cases plain : c ∉ signs
  · rw [Token.cut_of_plain plain] at onward ⊢
    exact .of_move ((step_token_cons stands).trans (enterToken_of_plain plain))
      (onward _ _ rfl tallies)
  have sign : c ∈ signs := not_not.mp plain
  simp only [signs, List.mem_cons, List.not_mem_nil, or_false] at sign
  -- An escape, an argument, the head of a block and the end of one each begin with one move.
  rcases sign with rfl | rfl | rfl | rfl
  · refine .of_move (step_token_cons stands) ?_
    cases text with
    | nil => exact .of_move (step_escaped_nil stands.next) (onward _ _ rfl tallies)
    | cons d text =>
      have settled : Settles arguments source
          ⟨.token, cursor + (1 + d.utf8Size), draft.pushChar d, table⟩ _ :=
        onward _ table rfl tallies
      rw [← Nat.add_assoc] at settled
      exact .of_move (step_escaped_cons stands.next) settled
  · refine .of_move (step_token_cons stands) (settles_digits stands.next tallies ?_)
    intro next table taken counts
    rw [Nat.add_assoc]
    exact onward next table taken counts
  · refine .of_move (step_token_cons stands) (settles_header stands.next ?_)
    intro next taken
    rw [Nat.add_assoc]
    obtain ⟨offset, digits, n, found, -, -, -, rfl⟩ := enter_eq_ok_iff.mp taken
    exact onward _ table taken tallies
  · -- The end of a block is no more than this move, if there is an open block to end.
    have closes : (Token.cut ']' text).token = .close := rfl
    rw [closes] at onward ⊢
    cases opened : draft.frames with
    | nil =>
      have stops : step arguments source ⟨.token, cursor, draft, table⟩ =
          refuse ⟨.unexpectedClose, cursor⟩ := by
        rw [step_token_cons stands]
        simp only [enterToken, opened]
      have stuck : Template.step arguments draft ⟨.close, cursor⟩ =
          .error ⟨.unexpectedClose, cursor⟩ := by simp only [Template.step, opened]
      rw [stuck]
      exact settles_of_refuse stops
    | cons frame frames =>
      have closing : step arguments source ⟨.token, cursor, draft, table⟩ =
          .ok ⟨.token, cursor + ']'.utf8Size, draft.closeBlock frame frames, table⟩ := by
        rw [step_token_cons stands]
        simp only [enterToken, opened]
        rfl
      have taken : Template.step arguments draft ⟨.close, cursor⟩ =
          .ok (draft.closeBlock frame frames) := by simp only [Template.step, opened]
      have settled := onward _ table taken tallies
      rw [taken]
      exact .of_move closing settled

/-- A walker reads all that is still to come. -/
theorem settles_read (stands : Stands source cursor text)
    (tallies : Tallies arguments table draft.claimed) :
    Settles arguments source ⟨.token, cursor, draft, table⟩
      ((draft.read arguments cursor text).bind fun final => (finish final).map sigil) := by
  -- A token takes several characters, so the induction is on the length of what is still to come.
  induction size : text.length using Nat.strong_induction_on
    generalizing text cursor draft table with
  | _ size ih =>
    cases text with
    | nil =>
      rw [Draft.read_nil]
      exact ⟨_, .ends (step_token_nil stands)⟩
    | cons c text =>
      have split_read : ((draft.read arguments cursor (c :: text)).bind fun final =>
            (finish final).map sigil) =
          (Template.step arguments draft ⟨(Token.cut c text).token, cursor⟩).bind fun next =>
            (next.read arguments (cursor + (Token.cut c text).width) (Token.cut c text).rest).bind
              fun final => (finish final).map sigil := by
        rw [Draft.read, Token.scan_cons, List.foldlM_cons]
        cases Template.step arguments draft ⟨(Token.cut c text).token, cursor⟩ <;> rfl
      rw [split_read]
      refine settles_token stands tallies fun next table taken counts => ih _ ?_ ?_ counts rfl
      · have shorter := Token.length_cut_le c text
        rw [← size, List.length_cons]
        omega
      · -- A token that is taken is complete, so its width is that of the characters it takes.
        obtain ⟨front, split_at, width⟩ := Token.split_of_complete (complete_of_step taken)
        rw [split_at] at stands
        rw [width]
        exact stands.onward

end Walker

/-! ### Syntax strings -/

/-- How the walk over a syntax string goes. -/
structure StaysInside (arguments : List Argument) (source : String) : Prop where
  /-- It comes to its end, without a fault, in the answer that reading gives. -/
  ends : ∃ visited, Walk arguments source.toList (.start arguments) visited
    (.answer (parse arguments source))
  /-- No walk ends otherwise. -/
  answers : ∀ visited halt, Walk arguments source.toList (.start arguments) visited halt →
    halt = .answer (parse arguments source)
  /-- At every place, the cursor is between characters of the source, or at one of its ends. -/
  within : ∀ visited halt, Walk arguments source.toList (.start arguments) visited halt →
    ∀ walker ∈ visited, String.Pos.Raw.IsValid source ⟨walker.cursor⟩
  /-- The cursor never moves back, and it moves on with each token. -/
  forward : ∀ visited halt, Walk arguments source.toList (.start arguments) visited halt →
    visited.Pairwise fun earlier later => earlier.cursor ≤ later.cursor ∧
      (earlier.stage = .token → earlier.cursor < later.cursor)

theorem stands_start (source : List Char) : Stands source 0 source := ⟨[], rfl, rfl⟩

theorem settles_start (arguments : List Argument) (source : String) :
    Walker.Settles arguments source.toList (.start arguments) (parse arguments source) := by
  have stands := stands_start source.toList
  have moves : (Walker.start arguments).step arguments source.toList =
      match Text.after? tag source.toList with
      | some _ => .ok ((Walker.start arguments).move .token (bytes tag))
      | none => Walker.refuse ⟨.malformedTag, 0⟩ := Walker.readWord_eq stands tag
  unfold parse
  cases tagged : Text.after? tag source.toList with
  | none => exact Walker.settles_of_refuse (moves.trans (by rw [tagged]))
  | some body =>
    obtain ⟨opening, split_at, same⟩ := Text.after?_eq_some_iff.mp tagged
    rw [split_at] at stands
    have atBody := stands.onward
    rw [← split_at, bytes_eq_of_sameAscii same] at atBody
    refine .of_move (moves.trans (by rw [tagged])) ?_
    exact Walker.settles_read atBody tallies_nil

/-- The walk over any syntax string stays inside it and comes to the answer that reading gives,
whichever arguments are declared. -/
theorem staysInside (arguments : List Argument) (source : String) :
    StaysInside arguments source where
  ends := settles_start arguments source
  answers visited halt walk := by
    obtain ⟨others, settled⟩ := settles_start arguments source
    exact (walk.unique settled).2
  within visited halt walk walker member :=
    (walk.stands_of_mem (stands_start source.toList) member).2.elim fun _ stands => stands.isValid
  forward visited halt walk := walk.forward (stands_start source.toList)

end ChatCommand.Template
