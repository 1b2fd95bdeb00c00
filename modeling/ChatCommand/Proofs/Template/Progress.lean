import ChatCommand.Proofs.Template.TokenSpelling

/-!
# How far reading has come

At any moment reading has taken some of the text behind the tag into a draft, and the rest is still
to come. The text taken is a row of tokens that have been written, each in front of all that stands
behind it. So the same draft is reached when what is still to come is replaced by another text, as
long as the last token taken does not go on into it.

## Main definitions

- `Reached`: reading has come to a draft.
- `Draft.read`: reads on from a draft.

## Main results

- `Reached.congr`: what is still to come may be replaced.
- `Reached.read_cases`: reading takes all that is still to come, or gets stuck at a token.
- `parse_eq_ok_iff_reached`, `parse_cases_of_error`: what reading a syntax string comes to.
-/

namespace ChatCommand.Template

variable {arguments : List Argument} {draft final : Draft} {done ahead text : List Char}
  {error : ParseError} {token : Token} {position : Nat}

/-- Reading has taken the text `done` behind the tag into a draft, and `ahead` is still to come. -/
inductive Reached (arguments : List Argument) : Draft → List Char → List Char → Prop
  | start {ahead : List Char} : Reached arguments .empty [] ahead
  | token {draft next : Draft} {token : Token} {done text ahead : List Char}
      (reached : Reached arguments draft done (text ++ ahead)) (written : token.Written text ahead)
      (taken : step arguments draft ⟨token, tag.length + bytes done⟩ = .ok next) :
      Reached arguments next (done ++ text) ahead

/-- The same draft is reached in front of another text, if this opens with a digit or is empty only
when the first one does or is. -/
theorem Reached.congr {other : List Char} (reached : Reached arguments draft done ahead)
    (ends : Text.OpensOutside Char.isDigit ahead → Text.OpensOutside Char.isDigit other)
    (last : ahead = [] → other = []) : Reached arguments draft done other := by
  induction reached generalizing other with
  | start => exact .start
  | token _ written taken ih =>
    refine .token (ih ?_ ?_) (written.congr ends last) taken
    · obtain ⟨c, rest, rfl, -⟩ := Token.cut_of_written written
      exact id
    · intro empty
      obtain ⟨c, rest, rfl, -⟩ := Token.cut_of_written written
      contradiction

/-- The same draft is reached when the text is cut off behind it. -/
theorem Reached.cut_off (reached : Reached arguments draft done ahead) :
    Reached arguments draft done [] :=
  reached.congr (fun _ => trivial) (fun _ => rfl)

/-! ### Reading on -/

/-- Reads on from a draft. -/
def Draft.read (arguments : List Argument) (draft : Draft) (position : Nat) (text : List Char) :
    Except ParseError Draft :=
  (Token.scan position text).foldlM (step arguments) draft

theorem Draft.read_nil : draft.read arguments position [] = .ok draft := by
  rw [Draft.read, Token.scan_nil]
  rfl

theorem Draft.read_of_written (written : token.Written text ahead) :
    draft.read arguments position (text ++ ahead) =
      (step arguments draft ⟨token, position⟩).bind fun next =>
        next.read arguments (position + bytes text) ahead := by
  rw [Draft.read, Token.scan_of_written written]
  rfl

/-- Reading gets on from the beginning as from the draft reached. -/
theorem Reached.read_eq (reached : Reached arguments draft done ahead) :
    Draft.empty.read arguments tag.length (done ++ ahead) =
      draft.read arguments (tag.length + bytes done) ahead := by
  induction reached with
  | start => rfl
  | token _ written taken ih =>
    rw [List.append_assoc, ih, Draft.read_of_written written, taken, bytes_append, Nat.add_assoc]
    rfl

/-- A token that is accepted is complete. -/
theorem complete_of_step {spot : Token.Spot} {next : Draft}
    (taken : step arguments draft spot = .ok next) : spot.token.Complete := by
  unfold step at taken
  split at taken
  next c token =>
    rw [token]
    trivial
  next digits token =>
    obtain ⟨n, found, named, -⟩ := claim_eq_ok_iff.mp taken
    rw [token]
    exact (ordinalOf_eq_ok_iff.mp named).1
  next header token =>
    obtain ⟨offset, digits, n, found, rfl, named, -⟩ := enter_eq_ok_iff.mp taken
    rw [token]
    exact ⟨(ordinalOf_eq_ok_iff.mp named).1, rfl⟩
  next token =>
    rw [token]
    trivial

/-- Reading takes all that is still to come, or it gets stuck at a token. -/
theorem Reached.read_cases (reached : Reached arguments draft done ahead) :
    (∃ final, draft.read arguments (tag.length + bytes done) ahead = .ok final ∧
      Reached arguments final (done ++ ahead) []) ∨
    ∃ stuck before c rest error, done ++ ahead = before ++ c :: rest ∧
      Reached arguments stuck before (c :: rest) ∧
      step arguments stuck ⟨(Token.cut c rest).token, tag.length + bytes before⟩ = .error error ∧
      draft.read arguments (tag.length + bytes done) ahead = .error error := by
  induction size : ahead.length using Nat.strong_induction_on generalizing draft done ahead with
  | _ size ih =>
    cases ahead with
    | nil => exact .inl ⟨draft, Draft.read_nil, by rwa [List.append_nil]⟩
    | cons c rest =>
      cases taken : step arguments draft ⟨(Token.cut c rest).token, tag.length + bytes done⟩ with
      | error error =>
        refine .inr ⟨draft, done, c, rest, error, rfl, reached, taken, ?_⟩
        rw [Draft.read, Token.scan_cons, List.foldlM_cons, taken]
        rfl
      | ok next =>
        -- The token has been written, so that what is read on from is a draft reached.
        obtain ⟨text, split_at, written⟩ := Token.exists_written (complete_of_step taken)
        have shorter := Token.length_cut_le c rest
        rw [split_at] at reached ⊢
        have onward := Reached.token reached written taken
        have read : draft.read arguments (tag.length + bytes done)
            (text ++ (Token.cut c rest).rest) =
            next.read arguments (tag.length + bytes (done ++ text)) (Token.cut c rest).rest := by
          rw [Draft.read_of_written written, taken, bytes_append, Nat.add_assoc]
          rfl
        rw [read, ← List.append_assoc]
        refine ih _ ?_ onward rfl
        rw [← size, List.length_cons]
        omega

/-! ### Syntax strings -/

theorem after?_tag_eq_some_iff {source text : List Char} :
    Text.after? tag source = some text ↔
      ∃ opening, source = opening ++ text ∧ Text.sameAscii tag opening = true :=
  Text.after?_eq_some_iff

theorem parse_of_reached {opening : List Char} (same : Text.sameAscii tag opening = true)
    (reached : Reached arguments draft text []) :
    parse arguments (String.ofList (opening ++ text)) = (finish draft).map sigil := by
  have tagged : Text.after? tag (String.ofList (opening ++ text)).toList = some text :=
    after?_tag_eq_some_iff.mpr ⟨opening, String.toList_ofList, same⟩
  have ran := reached.read_eq
  rw [List.append_nil, Draft.read_nil] at ran
  unfold parse
  rw [tagged]
  show (Draft.empty.read arguments tag.length text >>= _) = _
  rw [ran]
  show (finish draft >>= _) = _
  cases finish draft <;> rfl

/-- A syntax string is read as a template when all the text behind the tag is taken into a draft
without open blocks. -/
theorem parse_eq_ok_iff_reached {source : String} {template : Template} :
    parse arguments source = .ok template ↔
      ∃ opening text draft, source.toList = opening ++ text ∧
        Text.sameAscii tag opening = true ∧ Reached arguments draft text [] ∧ draft.frames = [] ∧
        template = sigil draft.flushed.reverse := by
  constructor
  · intro read
    obtain ⟨text, draft, tagged, ran, closed, made⟩ := parse_eq_ok_iff.mp read
    obtain ⟨opening, split_at, same⟩ := after?_tag_eq_some_iff.mp tagged
    rcases (Reached.start : Reached arguments .empty [] text).read_cases with
      ⟨final, reads, reached⟩ | ⟨-, -, -, -, error, -, -, -, fails⟩
    · obtain rfl : draft = final := Except.ok.inj (ran.symm.trans reads)
      exact ⟨opening, text, draft, split_at, same, reached, closed, made⟩
    · exact absurd (ran.symm.trans fails) nofun
  · rintro ⟨opening, text, draft, split_at, same, reached, closed, rfl⟩
    rw [← String.ofList_toList (s := source), split_at, parse_of_reached same reached,
      finish_eq_ok_iff.mpr ⟨closed, rfl⟩]
    rfl

/-- A syntax string that is not read does not open with the tag, or reading gets stuck at a token
behind the tag, or a block is left open at the end. -/
theorem parse_cases_of_error {source : String} (failed : parse arguments source = .error error) :
    (error = ⟨.malformedTag, 0⟩ ∧ Text.after? tag source.toList = none) ∨
    ∃ opening text, source.toList = opening ++ text ∧ Text.sameAscii tag opening = true ∧
      ((∃ stuck done c rest, text = done ++ c :: rest ∧ Reached arguments stuck done (c :: rest) ∧
        step arguments stuck ⟨(Token.cut c rest).token, tag.length + bytes done⟩ = .error error) ∨
      ∃ draft, Reached arguments draft text [] ∧ finish draft = .error error) := by
  unfold parse at failed
  cases tagged : Text.after? tag source.toList with
  | none =>
    rw [tagged] at failed
    exact .inl ⟨(Except.error.inj failed).symm, rfl⟩
  | some text =>
    obtain ⟨opening, split_at, same⟩ := after?_tag_eq_some_iff.mp tagged
    refine .inr ⟨opening, text, split_at, same, ?_⟩
    rw [tagged] at failed
    replace failed : (Draft.empty.read arguments tag.length text >>= fun draft =>
      finish draft >>= fun template => .ok (sigil template)) = .error error := failed
    -- Reading comes to the end of the text or to a token that it cannot take.
    rcases (Reached.start : Reached arguments .empty [] text).read_cases with
      ⟨final, reads, reached⟩ | ⟨stuck, done, c, rest, other, whole, reached, stops, fails⟩
    · refine .inr ⟨final, reached, ?_⟩
      rw [show Draft.empty.read arguments tag.length text = .ok final from reads] at failed
      replace failed : (finish final >>= fun template => .ok (sigil template)) = .error error :=
        failed
      cases ended : finish final with
      | error problem =>
        rw [ended] at failed
        exact failed
      | ok template =>
        rw [ended] at failed
        contradiction
    · rw [show Draft.empty.read arguments tag.length text = .error other from fails] at failed
      obtain rfl : other = error := Except.error.inj failed
      exact .inl ⟨stuck, done, c, rest, whole, reached, stops⟩

end ChatCommand.Template
