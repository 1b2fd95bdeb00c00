import ChatCommand.Template.Parser

/-!
# What one token does to a draft

Reading takes the tokens of a syntax string into a draft one after another. This file says when
each kind of token is accepted and what the draft is afterwards; what every step keeps then holds
of the draft in which reading ends.

## Main results

- `ordinalOf_eq_ok_iff`, `claim_eq_ok_iff`, `enter_eq_ok_iff`: when a token is accepted.
- `step_cases`: what a step can do.
- `run_induction`: what each step keeps, a run keeps.
- `parse_eq_ok_iff`: when a syntax string is read as a template.
- `parse_unique`: which arguments are declared decides only whether a template is read.
-/

namespace ChatCommand.Template

variable {arguments : List Argument} {found : Argument} {draft next final : Draft}
  {spot : Token.Spot} {digits : List Char} {header : Header} {position n : Nat}

/-! ### Ordinals -/

theorem bounds_of_withOrdinal? (declared : Argument.withOrdinal? arguments n = some found) :
    1 ≤ n ∧ n ≤ arguments.length := by
  unfold Argument.withOrdinal? at declared
  split at declared
  next => contradiction
  next positive =>
    obtain ⟨bound, -⟩ := List.getElem?_eq_some_iff.mp declared
    omega

theorem ordinalOf_eq_ok_iff :
    ordinalOf arguments digits position = .ok (n, found) ↔
      digits ≠ [] ∧ Text.natOfDigits digits = n ∧
        Argument.withOrdinal? arguments n = some found := by
  unfold ordinalOf
  split
  next empty => simp [List.isEmpty_iff.mp empty]
  next filled =>
    have given : digits ≠ [] := fun empty => filled (List.isEmpty_iff.mpr empty)
    split
    next other found =>
      simp only [Except.ok.injEq, Prod.mk.injEq, given, ne_eq, not_false_eq_true, true_and]
      constructor
      · rintro ⟨rfl, rfl⟩
        exact ⟨rfl, found⟩
      · rintro ⟨rfl, same⟩
        exact ⟨rfl, Option.some.inj (found.symm.trans same)⟩
    next missing =>
      simp only [reduceCtorEq, false_iff, not_and]
      rintro - rfl
      simp [missing]

/-! ### Steps -/

private theorem error_unless_iff {c : Prop} [Decidable c] {error : ParseError}
    {outcome : Except ParseError Draft} :
    (if c then .error error else outcome) = .ok next ↔ ¬c ∧ outcome = .ok next := by
  split <;> simp [*]

private theorem ok_when_iff {c : Prop} [Decidable c] {error : ParseError}
    {outcome : Except ParseError Draft} :
    (if c then outcome else .error error) = .ok next ↔ c ∧ outcome = .ok next := by
  split <;> simp [*]

theorem claim_of_no_ordinal {error : ParseError}
    (unnamed : ordinalOf arguments digits position = .error error) :
    claim arguments draft digits position = .error error := by
  unfold claim
  rw [unnamed]
  rfl

theorem enter_of_no_ordinal {offset : Nat} {closed : Bool} {error : ParseError}
    (unnamed : ordinalOf arguments digits (position + offset) = .error error) :
    enter arguments draft (.keyed offset digits closed) position = .error error := by
  unfold enter
  simp only [unnamed]
  rfl

/-- What using an argument comes to, once it is known which argument the digits name. -/
theorem claim_of_ordinal (named : ordinalOf arguments digits position = .ok (n, found)) :
    claim arguments draft digits position =
      if draft.afterArgument = true then .error ⟨.adjacentArguments, position⟩
      else if n ∈ draft.claimed then .error ⟨.repeatedArgument, position⟩
      else if found.optional = true then
        if n ∈ draft.frames.map Frame.owner then .ok (draft.pushArgument n)
        else .error ⟨.optionalOutsideKeyOff, position⟩
      else if draft.frames = [] then .ok (draft.pushArgument n)
      else .error ⟨.requiredInKeyOff, position⟩ := by
  unfold claim
  rw [named]
  show (if draft.afterArgument = true then _ else _) = _
  by_cases adjacent : draft.afterArgument = true
  · simp only [if_pos adjacent]
    rfl
  by_cases repeated : n ∈ draft.claimed
  · simp only [if_neg adjacent, if_pos repeated]
    rfl
  simp only [if_neg adjacent, if_neg repeated]
  cases found.optional with
  | true =>
    by_cases inside : n ∈ draft.frames.map Frame.owner
    · simp [inside]
      rfl
    · simp [inside]
      rfl
  | false =>
    cases draft.frames with
    | nil => rfl
    | cons frame frames => rfl

/-- What opening a block comes to, once it is known which argument the digits name. -/
theorem enter_of_ordinal {offset : Nat} {closed : Bool}
    (named : ordinalOf arguments digits (position + offset) = .ok (n, found)) :
    enter arguments draft (.keyed offset digits closed) position =
      if closed = true then
        if found.optional = true then .ok (draft.openBlock n position)
        else .error ⟨.keyOffOnRequired, position⟩
      else .error ⟨.malformedKeyOff, position⟩ := by
  unfold enter
  simp only [named, Bind.bind, Except.bind]
  cases closed <;> cases found.optional <;> rfl

theorem claim_eq_ok_iff :
    claim arguments draft digits position = .ok next ↔
      ∃ n found, ordinalOf arguments digits position = .ok (n, found) ∧
        draft.afterArgument = false ∧ n ∉ draft.claimed ∧
        (found.optional = true → n ∈ draft.frames.map Frame.owner) ∧
        (found.optional = false → draft.frames = []) ∧ next = draft.pushArgument n := by
  cases named : ordinalOf arguments digits position with
  | error problem => simp [claim_of_no_ordinal named]
  | ok outcome =>
    obtain ⟨n, found⟩ := outcome
    -- The tests are made in this order, and each has its own error.
    rw [claim_of_ordinal named, error_unless_iff, error_unless_iff]
    simp only [Except.ok.injEq, Prod.mk.injEq]
    constructor
    · rintro ⟨apart, fresh, accepted⟩
      refine ⟨n, found, ⟨rfl, rfl⟩, Bool.eq_false_iff.mpr apart, fresh, ?_⟩
      cases kind : found.optional with
      | true =>
        rw [if_pos kind] at accepted
        obtain ⟨inside, made⟩ := ok_when_iff.mp accepted
        exact ⟨fun _ => inside, nofun, (Except.ok.inj made).symm⟩
      | false =>
        rw [if_neg (by simp [kind])] at accepted
        obtain ⟨outside, made⟩ := ok_when_iff.mp accepted
        exact ⟨nofun, fun _ => outside, (Except.ok.inj made).symm⟩
    · rintro ⟨_, _, ⟨rfl, rfl⟩, apart, fresh, inside, outside, rfl⟩
      refine ⟨Bool.eq_false_iff.mp apart, fresh, ?_⟩
      cases kind : found.optional with
      | true =>
        rw [if_pos rfl]
        exact ok_when_iff.mpr ⟨inside kind, rfl⟩
      | false =>
        rw [if_neg Bool.false_ne_true]
        exact ok_when_iff.mpr ⟨outside kind, rfl⟩

theorem enter_eq_ok_iff :
    enter arguments draft header position = .ok next ↔
      ∃ offset digits n found, header = .keyed offset digits true ∧
        ordinalOf arguments digits (position + offset) = .ok (n, found) ∧
        found.optional = true ∧ next = draft.openBlock n position := by
  cases header with
  | malformed => simp [enter]
  | keyed offset digits closed =>
    simp only [Header.keyed.injEq]
    cases named : ordinalOf arguments digits (position + offset) with
    | error problem =>
      simp only [enter_of_no_ordinal named, reduceCtorEq, false_iff]
      rintro ⟨_, _, n, found, ⟨rfl, rfl, rfl⟩, other, -⟩
      simp [named] at other
    | ok outcome =>
      obtain ⟨n, found⟩ := outcome
      rw [enter_of_ordinal named]
      constructor
      · intro accepted
        obtain ⟨sealed, accepted⟩ := ok_when_iff.mp accepted
        obtain ⟨owns, made⟩ := ok_when_iff.mp accepted
        exact ⟨offset, digits, n, found, ⟨rfl, rfl, sealed⟩, named, owns,
          (Except.ok.inj made).symm⟩
      · rintro ⟨_, _, _, _, ⟨rfl, rfl, rfl⟩, again, owns, rfl⟩
        obtain ⟨rfl, rfl⟩ := Prod.mk.inj (Except.ok.inj (named.symm.trans again))
        rw [if_pos rfl, if_pos owns]

/-- The four things that a step can do: collect a character, use an argument, open a block, close
a block. -/
theorem step_cases (h : step arguments draft spot = .ok next) :
    (∃ c, spot.token = .char c ∧ next = draft.pushChar c) ∨
    (∃ digits n found, spot.token = .argument digits ∧
      Argument.withOrdinal? arguments n = some found ∧
      draft.afterArgument = false ∧ n ∉ draft.claimed ∧
      (found.optional = true → n ∈ draft.frames.map Frame.owner) ∧
      (found.optional = false → draft.frames = []) ∧ next = draft.pushArgument n) ∨
    (∃ header n found, spot.token = .keyOff header ∧
      Argument.withOrdinal? arguments n = some found ∧ found.optional = true ∧
      next = draft.openBlock n spot.position) ∨
    (∃ frame frames, spot.token = .close ∧ draft.frames = frame :: frames ∧
      next = draft.closeBlock frame frames) := by
  unfold step at h
  split at h
  next c token => exact .inl ⟨c, token, (Except.ok.inj h).symm⟩
  next digits token =>
    obtain ⟨n, found, named, apart, fresh, inside, outside, made⟩ := claim_eq_ok_iff.mp h
    exact .inr (.inl ⟨digits, n, found, token, (ordinalOf_eq_ok_iff.mp named).2.2, apart, fresh,
      inside, outside, made⟩)
  next header token =>
    obtain ⟨offset, digits, n, found, -, named, owns, made⟩ := enter_eq_ok_iff.mp h
    exact .inr (.inr (.inl ⟨header, n, found, token, (ordinalOf_eq_ok_iff.mp named).2.2, owns,
      made⟩))
  next token =>
    split at h
    next => contradiction
    next frame frames opened =>
      exact .inr (.inr (.inr ⟨frame, frames, token, opened, (Except.ok.inj h).symm⟩))

/-! ### The segments of a draft, in their order -/

namespace Draft

theorem reverse_flushed (draft : Draft) :
    draft.flushed.reverse = draft.built.reverse ++
      if draft.pending.isEmpty then nil else literal draft.pending.reverse nil := by
  unfold flushed
  split
  next => exact (append_nil _).symm
  next => exact reverseOnto_eq draft.built (literal draft.pending.reverse nil)

theorem reverse_flushed_pushArgument (draft : Draft) (n : Nat) :
    (draft.pushArgument n).flushed.reverse = draft.flushed.reverse ++ argument n nil :=
  reverseOnto_eq draft.flushed (argument n nil)

theorem reverse_flushed_closeBlock (draft : Draft) (frame : Frame) (frames : List Frame) :
    (draft.closeBlock frame frames).flushed.reverse =
      frame.before.reverse ++ keyOff frame.owner draft.flushed.reverse nil :=
  reverseOnto_eq frame.before (keyOff frame.owner draft.flushed.reverse nil)

end Draft

/-! ### Runs -/

/-- What each step keeps, a run over any tokens keeps. -/
theorem run_induction {Holds : Draft → Prop} {spots : List Token.Spot} (start : Holds draft)
    (kept : ∀ {draft spot next}, Holds draft →
      step arguments draft spot = .ok next → Holds next)
    (run : spots.foldlM (step arguments) draft = .ok final) : Holds final := by
  induction spots generalizing draft with
  | nil =>
    obtain rfl : draft = final := Except.ok.inj run
    exact start
  | cons spot spots ih =>
    rw [List.foldlM_cons] at run
    cases stepped : step arguments draft spot with
    | error problem => simp [stepped, Bind.bind, Except.bind] at run
    | ok next =>
      rw [stepped] at run
      exact ih (kept start stepped) run

theorem finish_eq_ok_iff {template : Template} :
    finish draft = .ok template ↔ draft.frames = [] ∧ template = draft.flushed.reverse := by
  unfold finish
  split
  next none => simp [none, eq_comm]
  next some => simp [some]

theorem parse_eq_ok_iff {source : String} {template : Template} :
    parse arguments source = .ok template ↔
      ∃ body draft, Text.after? tag source.toList = some body ∧
        (Token.scan tag.length body).foldlM (step arguments) Draft.empty = .ok draft ∧
        draft.frames = [] ∧ template = sigil draft.flushed.reverse := by
  unfold parse
  cases Text.after? tag source.toList with
  | none => simp
  | some body =>
    cases ran : (Token.scan tag.length body).foldlM (step arguments) Draft.empty with
    | error problem => simp [ran, Bind.bind, Except.bind]
    | ok draft =>
      cases ended : finish draft with
      | error problem =>
        have opened : draft.frames ≠ [] := by
          intro none
          simp [finish, none] at ended
        simp [ran, ended, Bind.bind, Except.bind, opened]
      | ok inner =>
        obtain ⟨closed, rfl⟩ := finish_eq_ok_iff.mp ended
        simp [ran, ended, Bind.bind, Except.bind, pure, Except.pure, closed, eq_comm]

/-! ### Other arguments -/

/-- Which arguments are declared decides only whether a token is accepted. -/
theorem step_unique {others : List Argument} (here : step arguments draft spot = .ok next)
    (there : step others draft spot = .ok final) : next = final := by
  unfold step at here there
  cases kind : spot.token with
  | char c =>
    rw [kind] at here there
    exact Except.ok.inj (here.symm.trans there)
  | argument digits =>
    rw [kind] at here there
    obtain ⟨n, found, named, -, -, -, -, rfl⟩ := claim_eq_ok_iff.mp here
    obtain ⟨m, other, again, -, -, -, -, rfl⟩ := claim_eq_ok_iff.mp there
    rw [← (ordinalOf_eq_ok_iff.mp named).2.1, ← (ordinalOf_eq_ok_iff.mp again).2.1]
  | keyOff header =>
    rw [kind] at here there
    obtain ⟨offset, digits, n, found, head, named, -, rfl⟩ := enter_eq_ok_iff.mp here
    obtain ⟨offset', digits', m, other, head', again, -, rfl⟩ := enter_eq_ok_iff.mp there
    obtain ⟨-, rfl, -⟩ := Header.keyed.inj (head.symm.trans head')
    rw [← (ordinalOf_eq_ok_iff.mp named).2.1, ← (ordinalOf_eq_ok_iff.mp again).2.1]
  | close =>
    rw [kind] at here there
    exact Except.ok.inj (here.symm.trans there)

theorem run_unique {others : List Argument} {spots : List Token.Spot}
    (here : spots.foldlM (step arguments) draft = .ok next)
    (there : spots.foldlM (step others) draft = .ok final) : next = final := by
  induction spots generalizing draft with
  | nil => exact Except.ok.inj (here.symm.trans there)
  | cons spot spots ih =>
    rw [List.foldlM_cons] at here there
    cases stepped : step arguments draft spot with
    | error problem => simp [stepped, Bind.bind, Except.bind] at here
    | ok between =>
      cases again : step others draft spot with
      | error problem => simp [again, Bind.bind, Except.bind] at there
      | ok other =>
        obtain rfl := step_unique stepped again
        rw [stepped] at here
        rw [again] at there
        exact ih here there

/-- Which arguments are declared decides only whether a syntax string is read, not as what. -/
theorem parse_unique {others : List Argument} {source : String} {template other : Template}
    (here : parse arguments source = .ok template) (there : parse others source = .ok other) :
    template = other := by
  obtain ⟨body, draft, tagged, ran, -, rfl⟩ := parse_eq_ok_iff.mp here
  obtain ⟨body', draft', tagged', ran', -, rfl⟩ := parse_eq_ok_iff.mp there
  obtain rfl := Option.some.inj (tagged.symm.trans tagged')
  rw [run_unique ran ran']

end ChatCommand.Template
