import ChatCommand.Proofs.Template.Walker

/-!
# Walks over syntax strings

A move of a walker passes over whole characters, so the cursor never comes to stand inside one or
beyond the end, and the move that begins a token passes over one at least. What one move does, a
whole walk does by induction.

## Main definitions

- `Walker.Passes`: the cursor moves over characters of the text ahead.
- `Walk`: the walkers of a whole walk, and how it ends.

## Main results

- `Walker.step_passes`: a move passes over whole characters.
- `Walk.unique`: there is one walk from each walker.
- `Walk.stands_of_mem`, `Walk.forward`: where the cursor stands on a walk, and which way it goes.
-/

namespace ChatCommand.Template

variable {source text : List Char} {arguments : List Argument} {walker next : Walker} {c : Char}
  {sign n : Nat} {role : Role}

namespace Walker

/-! ### Moves -/

/-- The cursor moves over characters of the text ahead. -/
def Passes (text : List Char) (walker next : Walker) : Prop :=
  ∃ passed rest, text = passed ++ rest ∧ next.cursor = walker.cursor + bytes passed ∧
    (walker.stage = .token → passed ≠ [])

theorem passes_of_enterToken (moves : walker.enterToken c = .ok next) :
    Passes (c :: text) walker next := by
  refine ⟨[c], text, rfl, ?_, fun _ => List.cons_ne_nil c []⟩
  unfold enterToken at moves
  split at moves
  case h_4 =>
    split at moves
    next => contradiction
    next =>
      obtain rfl := Except.ok.inj moves
      rfl
  all_goals
    obtain rfl := Except.ok.inj moves
    rfl

theorem passes_of_readDigits (moves : walker.readDigits arguments sign role text = .ok next)
    (inside : walker.stage ≠ .token) : Passes text walker next := by
  unfold readDigits at moves
  dsimp only at moves
  split at moves
  next => contradiction
  next digits rest cut =>
    obtain ⟨whole, size⟩ := splitAt?_eq_some_iff.mp cut
    refine ⟨digits, rest, whole, ?_, fun token => absurd token inside⟩
    rw [size]
    split at moves
    next => contradiction
    next =>
      split at moves
      next =>
        obtain rfl := Except.ok.inj moves
        rfl
      next => contradiction

theorem passes_move {stage : Stage} {width : Nat} {passed rest : List Char}
    (whole : text = passed ++ rest) (size : bytes passed = width)
    (inside : walker.stage ≠ .token) : Passes text walker (walker.move stage width) :=
  ⟨passed, rest, whole, size ▸ rfl, fun token => absurd token inside⟩

theorem passes_of_readBlanks {needed : Bool} {stage : Stage} {error : ParseError}
    (moves : walker.readBlanks needed stage error text = .ok next)
    (inside : walker.stage ≠ .token) : Passes text walker next := by
  unfold readBlanks at moves
  dsimp only at moves
  split at moves
  next => contradiction
  next =>
    obtain rfl := Except.ok.inj moves
    exact passes_move List.takeWhile_append_dropWhile.symm (blankWidth_eq text).symm inside

theorem passes_of_useArgument (moves : walker.useArgument arguments sign n = .ok next)
    (inside : walker.stage ≠ .token) : Passes text walker next := by
  refine ⟨[], text, rfl, ?_, fun token => absurd token inside⟩
  unfold useArgument at moves
  split at moves
  next => contradiction
  split at moves
  next => contradiction
  next => contradiction
  split at moves
  next => contradiction
  split at moves
  next => contradiction
  split at moves
  next => contradiction
  obtain rfl := Except.ok.inj moves
  rfl

theorem passes_of_openBlock {brace : Nat} (moves : walker.openBlock arguments brace n = .ok next)
    (inside : walker.stage ≠ .token) : Passes text walker next := by
  refine ⟨[], text, rfl, ?_, fun token => absurd token inside⟩
  unfold openBlock at moves
  split at moves
  next => contradiction
  split at moves
  next => contradiction
  next =>
    obtain rfl := Except.ok.inj moves
    rfl

theorem passes_of_readWord {word : List Char} {stage : Stage} {error : ParseError}
    (stands : Stands source walker.cursor text)
    (moves : walker.readWord source word stage error = .ok next)
    (inside : walker.stage ≠ .token) : Passes text walker next := by
  unfold readWord at moves
  rw [stands.between?_eq] at moves
  split at moves
  next => contradiction
  next spelled found =>
    obtain ⟨⟨_, rest⟩, cut, rfl⟩ := Option.map_eq_some_iff.mp found
    obtain ⟨whole, size⟩ := splitAt?_eq_some_iff.mp cut
    split at moves
    next =>
      obtain rfl := Except.ok.inj moves
      exact passes_move whole size inside
    next => contradiction

theorem passes_of_readSign {stage : Stage} {error : ParseError}
    (moves : walker.readSign c stage error text = .ok next) (inside : walker.stage ≠ .token) :
    Passes text walker next := by
  unfold readSign at moves
  split at moves
  next begins =>
    obtain ⟨rest, rfl⟩ := List.head?_eq_some_iff.mp begins
    obtain rfl := Except.ok.inj moves
    exact passes_move (List.singleton_append).symm rfl inside
  next => contradiction

/-- A move passes over whole characters, and the one that begins a token over one at least. -/
theorem step_passes (stands : Stands source walker.cursor text)
    (moves : walker.step arguments source = .ok next) : Passes text walker next := by
  have look := ahead_of_stands stands
  unfold step at moves
  -- A move of each stage is one reading, and passes over what it reads.
  cases stage : walker.stage with
  | tag =>
    simp only [stage] at moves
    exact passes_of_readWord stands moves (by simp [stage])
  | token =>
    simp only [stage, look, Bind.bind, Except.bind] at moves
    split at moves
    next => contradiction
    next c rest => exact passes_of_enterToken moves
  | escaped =>
    simp only [stage, look, Bind.bind, Except.bind] at moves
    have inside : walker.stage ≠ .token := by simp [stage]
    split at moves
    next =>
      obtain rfl := Except.ok.inj moves
      exact ⟨[], [], rfl, rfl, fun token => absurd token inside⟩
    next c rest =>
      obtain rfl := Except.ok.inj moves
      exact ⟨[c], rest, rfl, rfl, fun token => absurd token inside⟩
  | digits sign role =>
    simp only [stage, look, Bind.bind, Except.bind] at moves
    exact passes_of_readDigits moves (by simp [stage])
  | claim sign n =>
    simp only [stage] at moves
    exact passes_of_useArgument moves (by simp [stage])
  | blanks brace needed stage' =>
    simp only [stage, look, Bind.bind, Except.bind] at moves
    exact passes_of_readBlanks moves (by simp [stage])
  | word brace =>
    simp only [stage] at moves
    exact passes_of_readWord stands moves (by simp [stage])
  | argument brace =>
    simp only [stage, look, Bind.bind, Except.bind] at moves
    exact passes_of_readSign moves (by simp [stage])
  | sign brace c stage' =>
    simp only [stage, look, Bind.bind, Except.bind] at moves
    exact passes_of_readSign moves (by simp [stage])
  | inside brace n =>
    simp only [stage] at moves
    exact passes_of_openBlock moves (by simp [stage])

end Walker

/-! ### Walks -/

/-- A walk from a walker to its end: the walkers at all its places, in their order, and how it
ends. -/
inductive Walk (arguments : List Argument) (source : List Char) : Walker → List Walker → Halt → Prop
  | ends {walker : Walker} {halt : Halt} (stops : walker.step arguments source = .error halt) :
      Walk arguments source walker [walker] halt
  | goes {walker next : Walker} {later : List Walker} {halt : Halt}
      (moves : walker.step arguments source = .ok next)
      (onward : Walk arguments source next later halt) :
      Walk arguments source walker (walker :: later) halt

namespace Walk

variable {visited others : List Walker} {halt other : Halt}

/-- There is one walk from each walker. -/
theorem unique (walk : Walk arguments source walker visited halt)
    (again : Walk arguments source walker others other) : visited = others ∧ halt = other := by
  induction walk generalizing others with
  | ends stops =>
    cases again with
    | ends halts => exact ⟨rfl, Except.error.inj (stops.symm.trans halts)⟩
    | goes moves _ => exact absurd (stops.symm.trans moves) nofun
  | goes moves _ ih =>
    cases again with
    | ends halts => exact absurd (moves.symm.trans halts) nofun
    | goes steps onward =>
      obtain rfl := Except.ok.inj (moves.symm.trans steps)
      obtain ⟨rfl, rfl⟩ := ih onward
      exact ⟨rfl, rfl⟩

/-- The cursor stays between characters, and never comes to stand in front of where the walk
began. -/
theorem stands_of_mem (walk : Walk arguments source walker visited halt)
    (stands : Stands source walker.cursor text) {reached : Walker} (member : reached ∈ visited) :
    walker.cursor ≤ reached.cursor ∧ ∃ rest, Stands source reached.cursor rest := by
  induction walk generalizing text with
  | ends =>
    obtain rfl := List.mem_singleton.mp member
    exact ⟨Nat.le_refl _, text, stands⟩
  | goes moves _ ih =>
    rcases List.mem_cons.mp member with rfl | member
    · exact ⟨Nat.le_refl _, text, stands⟩
    · obtain ⟨passed, rest, rfl, moved, -⟩ := Walker.step_passes stands moves
      obtain ⟨behind, standing⟩ := ih (moved ▸ stands.onward) member
      exact ⟨by omega, standing⟩

/-- The cursor never moves back, and moves on with each token. -/
theorem forward (walk : Walk arguments source walker visited halt)
    (stands : Stands source walker.cursor text) :
    visited.Pairwise fun earlier later => earlier.cursor ≤ later.cursor ∧
      (earlier.stage = .token → earlier.cursor < later.cursor) := by
  induction walk generalizing text with
  | ends => exact List.pairwise_singleton _ _
  | goes moves onward ih =>
    obtain ⟨passed, rest, rfl, moved, filled⟩ := Walker.step_passes stands moves
    have standing : Stands source _ rest := moved ▸ stands.onward
    -- All later places are behind the next one, and a token leads past its first character.
    refine List.pairwise_cons.mpr ⟨fun later member => ?_, ih standing⟩
    obtain ⟨behind, -⟩ := onward.stands_of_mem standing member
    refine ⟨by omega, fun token => ?_⟩
    have positive := Nat.pos_of_ne_zero (mt bytes_eq_zero_iff.mp (filled token))
    omega

end Walk

end ChatCommand.Template
