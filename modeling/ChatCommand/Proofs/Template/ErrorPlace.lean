import ChatCommand.Proofs.Template.Progress
import Mathlib

/-!
# Where a syntax string goes wrong

An error names the first byte of the token that breaks a rule, of the brace of a block that is left
open, or of the argument in the head of a block. What stands before that place has been taken
without complaint, so by itself it can at most lack closing brackets; in front of the argument in a
head, it lacks the rest of the head.

## Main definitions

- `ParseProblem.sign?`: the character at which a problem is reported.
- `Offends`: the place of an error in a syntax string.

## Main results

- `step_cases_of_error`: the errors that a token can raise.
- `Reached.exists_opening`: every open block was opened at a place reached before.
- `exists_offends_of_stuck`, `exists_offends_of_unfinished`: a token that is refused, a block left
  open.
- `parse_error_cases`: where the errors of reading are.
-/

namespace ChatCommand.Template

/-- The character at which a problem is reported; the tag has none. -/
def ParseProblem.sign? : ParseProblem → Option Char
  | malformedTag => none
  | malformedArgument | nonexistentArgument | repeatedArgument | optionalOutsideKeyOff
  | requiredInKeyOff | adjacentArguments => some '$'
  | malformedKeyOff | keyOffOnRequired | unterminatedKeyOff => some '\x7b'
  | unexpectedClose => some ']'

variable {arguments : List Argument} {draft : Draft} {done ahead text : List Char}
  {error : ParseError} {digits : List Char} {position : Nat} {header : Header}
  {spot : Token.Spot}

/-! ### Errors of tokens -/

/-- There is no argument that the digits name. -/
def ParseProblem.NoArgument (problem : ParseProblem) : Prop :=
  problem = .malformedArgument ∨ problem = .nonexistentArgument

theorem ParseProblem.NoArgument.sign?_eq {problem : ParseProblem} (none : problem.NoArgument) :
    problem.sign? = some '$' := by
  rcases none with rfl | rfl <;> rfl

theorem ordinalOf_cases_of_error (failed : ordinalOf arguments digits position = .error error) :
    error.position = position ∧ error.problem.NoArgument := by
  unfold ordinalOf at failed
  split at failed
  next =>
    obtain rfl := Except.error.inj failed
    exact ⟨rfl, .inl rfl⟩
  next =>
    split at failed
    next => contradiction
    next =>
      obtain rfl := Except.error.inj failed
      exact ⟨rfl, .inr rfl⟩

/-- An argument is refused at its sign, and as adjacent only behind another one. -/
theorem claim_cases_of_error (failed : claim arguments draft digits position = .error error) :
    error.position = position ∧ error.problem.sign? = some '$' ∧
      (error.problem = .adjacentArguments → draft.afterArgument = true) := by
  cases named : ordinalOf arguments digits position with
  | error problem =>
    obtain rfl : problem = error :=
      Except.error.inj ((claim_of_no_ordinal named).symm.trans failed)
    obtain ⟨place, none⟩ := ordinalOf_cases_of_error named
    refine ⟨place, none.sign?_eq, fun adjacent => ?_⟩
    rcases none with other | other <;> rw [adjacent] at other <;> contradiction
  | ok outcome =>
    obtain ⟨n, found⟩ := outcome
    rw [claim_of_ordinal named] at failed
    split at failed
    next adjacent =>
      obtain rfl := Except.error.inj failed
      exact ⟨rfl, rfl, fun _ => adjacent⟩
    next => grind [ParseProblem.sign?]

/-- The head of a block is refused at its brace, or where it names no argument. -/
theorem enter_cases_of_error (failed : enter arguments draft header position = .error error) :
    (error.position = position ∧
      (error.problem = .malformedKeyOff ∨ error.problem = .keyOffOnRequired)) ∨
    ∃ offset digits closed, header = .keyed offset digits closed ∧
      error.position = position + offset ∧ error.problem.NoArgument := by
  cases header with
  | malformed =>
    obtain rfl := Except.error.inj failed
    exact .inl ⟨rfl, .inl rfl⟩
  | keyed offset digits closed =>
    cases named : ordinalOf arguments digits (position + offset) with
    | error problem =>
      obtain rfl : problem = error :=
        Except.error.inj ((enter_of_no_ordinal named).symm.trans failed)
      exact .inr ⟨offset, digits, closed, rfl, ordinalOf_cases_of_error named⟩
    | ok outcome =>
      obtain ⟨n, found⟩ := outcome
      rw [enter_of_ordinal named] at failed
      left
      split at failed
      next =>
        split at failed
        next => contradiction
        next =>
          obtain rfl := Except.error.inj failed
          exact ⟨rfl, .inr rfl⟩
      next =>
        obtain rfl := Except.error.inj failed
        exact ⟨rfl, .inl rfl⟩

/-- The errors that a token can raise: an argument is refused at its sign, a block at its brace or
at its argument, a closing bracket only when no block is open. -/
theorem step_cases_of_error (failed : step arguments draft spot = .error error) :
    (∃ digits, spot.token = .argument digits ∧ error.position = spot.position ∧
      error.problem.sign? = some '$' ∧
      (error.problem = .adjacentArguments → draft.afterArgument = true)) ∨
    (∃ header, spot.token = .keyOff header ∧ error.position = spot.position ∧
      (error.problem = .malformedKeyOff ∨ error.problem = .keyOffOnRequired)) ∨
    (∃ offset digits closed, spot.token = .keyOff (.keyed offset digits closed) ∧
      error.position = spot.position + offset ∧ error.problem.NoArgument) ∨
    (spot.token = .close ∧ error = ⟨.unexpectedClose, spot.position⟩) := by
  unfold step at failed
  split at failed
  next => contradiction
  next digits token => exact .inl ⟨digits, token, claim_cases_of_error failed⟩
  next header token =>
    rcases enter_cases_of_error failed with here | ⟨offset, digits, closed, rfl, inside⟩
    · exact .inr (.inl ⟨header, token, here⟩)
    · exact .inr (.inr (.inl ⟨offset, digits, closed, token, inside⟩))
  next token =>
    split at failed
    next => exact .inr (.inr (.inr ⟨token, (Except.error.inj failed).symm⟩))
    next => contradiction

theorem finish_eq_error_iff :
    finish draft = .error error ↔
      ∃ frame frames, draft.frames = frame :: frames ∧
        error = ⟨.unterminatedKeyOff, frame.openedAt⟩ := by
  unfold finish
  split
  next closed => simp [closed]
  next frame frames opened => simp [opened, eq_comm]

/-! ### Places -/

/-- A token is cut off at its own sign. -/
theorem Token.sign_of_cut {token : Token} {c : Char} {rest : List Char}
    (taken : (cut c rest).token = token) :
    match token with
    | .char _ => True
    | .argument _ => c = '$'
    | .keyOff header => c = '\x7b' ∧ (Token.header rest).1 = header
    | .close => c = ']' := by
  unfold cut at taken
  split at taken
  · split at taken <;> subst taken <;> trivial
  all_goals subst taken
  · rfl
  · exact ⟨rfl, rfl⟩
  · rfl
  · trivial

/-- Every open block was opened by a brace at a place that reading had reached. -/
theorem Reached.exists_opening (reached : Reached arguments draft done ahead) {frame : Frame}
    (opened : frame ∈ draft.frames) :
    ∃ outer before rest, done ++ ahead = before ++ '\x7b' :: rest ∧
      frame.openedAt = tag.length + bytes before ∧
      Reached arguments outer before ('\x7b' :: rest) := by
  induction reached with
  | start => contradiction
  | @token draft next token done text ahead reached written taken ih =>
    rw [List.append_assoc]
    rcases step_cases taken with ⟨c, -, rfl⟩ | ⟨digits, n, found, -, -, -, -, -, -, rfl⟩ |
      ⟨header, n, found, isBlock, -, -, rfl⟩ | ⟨frame', frames, -, stack, rfl⟩
    · exact ih opened
    · exact ih opened
    · rcases List.mem_cons.mp opened with rfl | opened
      · obtain rfl : token = .keyOff header := isBlock
        cases written with
        | keyOff head => exact ⟨draft, done, head.body ++ ahead, rfl, rfl, reached⟩
      · exact ih opened
    · exact ih (stack ▸ List.mem_cons_of_mem frame' opened)

/-- The text before a place that reading has reached lacks closing brackets at most. -/
theorem parse_front {opening : List Char} (same : Text.sameAscii tag opening = true)
    (reached : Reached arguments draft done ahead) :
    (∃ template, parse arguments (String.ofList (opening ++ done)) = .ok template) ∨
      ∃ position, parse arguments (String.ofList (opening ++ done)) =
        .error ⟨.unterminatedKeyOff, position⟩ := by
  rw [parse_of_reached same reached.cut_off]
  cases ended : finish draft with
  | ok template => exact .inl ⟨_, rfl⟩
  | error error =>
    obtain ⟨frame, frames, -, rfl⟩ := finish_eq_error_iff.mp ended
    exact .inr ⟨_, rfl⟩

/-- Reading a text fails at the token at which reading gets stuck. -/
theorem parse_of_stuck {opening rest : List Char} {c : Char}
    (same : Text.sameAscii tag opening = true) (reached : Reached arguments draft done (c :: rest))
    (stuck : step arguments draft ⟨(Token.cut c rest).token, tag.length + bytes done⟩ =
      .error error) :
    parse arguments (String.ofList (opening ++ (done ++ c :: rest))) = .error error := by
  have tagged : Text.after? tag (String.ofList (opening ++ (done ++ c :: rest))).toList =
      some (done ++ c :: rest) :=
    after?_tag_eq_some_iff.mpr ⟨opening, String.toList_ofList, same⟩
  have fails : Draft.empty.read arguments tag.length (done ++ c :: rest) = .error error := by
    rw [reached.read_eq, Draft.read, Token.scan_cons, List.foldlM_cons, stuck]
    rfl
  unfold parse
  rw [tagged]
  show (Draft.empty.read arguments tag.length (done ++ c :: rest) >>= _) = _
  rw [fails]
  rfl

/-- A text that breaks off in the head of a block, before the argument, has a malformed block
there. -/
theorem parse_front_keyword {opening : List Char} (same : Text.sameAscii tag opening = true)
    {keyword : Keyword} (reached : Reached arguments draft done (keyword.text ++ ahead)) :
    parse arguments (String.ofList (opening ++ (done ++ keyword.text))) =
      .error ⟨.malformedKeyOff, bytes (opening ++ done)⟩ := by
  -- What follows the brace is not part of a token yet, so it may be cut short.
  have short : Reached arguments draft done keyword.text := reached.congr id nofun
  refine parse_of_stuck same short ?_
  have token : (Token.cut '\x7b' keyword.inner).token = .keyOff .malformed :=
    congrArg Token.keyOff (Token.header_inner keyword)
  rw [token, bytes_append, bytes_eq_of_sameAscii same]
  rfl

/-- The place of an error: the text in front of it, the character there, and what follows. -/
structure Offends (arguments : List Argument) (source : String) (error : ParseError)
    (front : List Char) (c : Char) (back : List Char) : Prop where
  split_at : source.toList = front ++ c :: back
  position : bytes front = error.position
  bounds : 8 ≤ error.position ∧ error.position < source.utf8ByteSize
  tagged : ∃ opening text, front = opening ++ text ∧ Text.sameAscii tag opening = true
  sign : error.problem.sign? = some c
  /-- By itself the text in front at most lacks closing brackets, or else the rest of the head of a
  block that the argument belongs to. -/
  before : (∃ template, parse arguments (String.ofList front) = .ok template) ∨
    (∃ position, parse arguments (String.ofList front) =
      .error ⟨.unterminatedKeyOff, position⟩) ∨
    ∃ (outside : List Char) (keyword : Keyword), front = outside ++ keyword.text ∧
      error.problem.NoArgument ∧
      parse arguments (String.ofList front) = .error ⟨.malformedKeyOff, bytes outside⟩

section

variable {source : String} {opening front back : List Char} {c : Char}

/-- A character behind the tag stands inside the source, at the width of the tag or later. -/
theorem bounds_of_split (split_at : source.toList = opening ++ front ++ c :: back)
    (same : Text.sameAscii tag opening = true) :
    8 ≤ bytes (opening ++ front) ∧ bytes (opening ++ front) < source.utf8ByteSize := by
  have eight : bytes opening = 8 := bytes_eq_of_sameAscii same
  have positive := Char.utf8Size_pos c
  rw [← String.ofList_toList (s := source), utf8ByteSize_ofList, split_at]
  simp only [bytes_append, bytes, eight]
  omega

/-- The text in front of an error at a token has been reached. -/
theorem Offends.of_reached (split_at : source.toList = opening ++ done ++ c :: back)
    (same : Text.sameAscii tag opening = true)
    (reached : Reached arguments draft done (c :: back))
    (position : error.position = tag.length + bytes done) (sign : error.problem.sign? = some c) :
    Offends arguments source error (opening ++ done) c back where
  split_at := split_at
  position := by rw [position, bytes_append, bytes_eq_of_sameAscii same]; rfl
  bounds := by
    have bounds := bounds_of_split split_at same
    rwa [bytes_append, bytes_eq_of_sameAscii same, show bytes tag = tag.length from rfl,
      ← position] at bounds
  tagged := ⟨opening, done, rfl, same⟩
  sign := sign
  before := (parse_front same reached).imp_right .inl

/-- In front of an argument in the head of a block, the head breaks off. -/
theorem Offends.of_keyword {keyword : Keyword}
    (split_at : source.toList = opening ++ (done ++ keyword.text) ++ '$' :: back)
    (same : Text.sameAscii tag opening = true)
    (reached : Reached arguments draft done (keyword.text ++ '$' :: back))
    (position : error.position = tag.length + bytes done + bytes keyword.text)
    (none : error.problem.NoArgument) :
    Offends arguments source error (opening ++ (done ++ keyword.text)) '$' back where
  split_at := split_at
  position := by
    rw [position, bytes_append, bytes_append, bytes_eq_of_sameAscii same, Nat.add_assoc]
    rfl
  bounds := by
    have bounds := bounds_of_split split_at same
    rwa [bytes_append, bytes_append, bytes_eq_of_sameAscii same,
      show bytes tag = tag.length from rfl, ← Nat.add_assoc, ← position] at bounds
  tagged := ⟨opening, done ++ keyword.text, rfl, same⟩
  sign := none.sign?_eq
  before := .inr (.inr ⟨opening ++ done, keyword, (List.append_assoc ..).symm, none,
    parse_front_keyword same reached⟩)

/-- A token that is refused is where the source goes wrong, or its argument is when it is the head
of a block. -/
theorem exists_offends_of_stuck {rest : List Char}
    (whole : source.toList = opening ++ (done ++ c :: rest))
    (same : Text.sameAscii tag opening = true) (reached : Reached arguments draft done (c :: rest))
    (fails : step arguments draft ⟨(Token.cut c rest).token, tag.length + bytes done⟩ =
      .error error) :
    ∃ front c back, Offends arguments source error front c back := by
  rw [← List.append_assoc] at whole
  rcases step_cases_of_error fails with ⟨digits, token, position, sign, -⟩ |
    ⟨header, token, position, problem⟩ | ⟨offset, digits, closed, token, position, none⟩ |
    ⟨token, rfl⟩
  · have isSign : c = '$' := Token.sign_of_cut token
    exact ⟨_, _, _, .of_reached whole same reached position (isSign ▸ sign)⟩
  · have isBrace : c = '\x7b' := (Token.sign_of_cut token).1
    refine ⟨_, _, _, .of_reached whole same reached position ?_⟩
    rcases problem with problem | problem <;> rw [problem, isBrace] <;> rfl
  · -- The head goes as far as its argument, which stands behind the keyword.
    obtain ⟨isBrace, head⟩ := Token.sign_of_cut token
    subst isBrace
    rcases Token.header_cases rest with ⟨malformed, -⟩ | ⟨keyword, after, rfl, found⟩
    · rw [malformed] at head
      contradiction
    · obtain ⟨_, _, atSign⟩ := Token.behindSign_fst (bytes keyword.text) after
      rw [found, atSign] at head
      obtain ⟨rfl, -, -⟩ := Header.keyed.inj head
      refine ⟨_, _, _, .of_keyword ?_ same reached position none⟩
      simpa [Keyword.text] using whole
  · have isClose : c = ']' := Token.sign_of_cut token
    exact ⟨_, _, _, .of_reached whole same reached rfl (isClose ▸ rfl)⟩

/-- When a block is left open, the source goes wrong where the block was opened. -/
theorem exists_offends_of_unfinished (whole : source.toList = opening ++ text)
    (same : Text.sameAscii tag opening = true) (reached : Reached arguments draft text [])
    (ended : finish draft = .error error) :
    ∃ front c back, Offends arguments source error front c back := by
  obtain ⟨frame, frames, opened, rfl⟩ := finish_eq_error_iff.mp ended
  obtain ⟨outer, before, rest, split_at, openedAt, reachedOuter⟩ :=
    reached.exists_opening (opened ▸ List.mem_cons_self)
  rw [List.append_nil] at split_at
  rw [split_at, ← List.append_assoc] at whole
  exact ⟨_, _, _, .of_reached whole same reachedOuter openedAt rfl⟩

end

/-- A syntax string that is not read does not open with the tag; or else it goes wrong at the first
place that cannot be mended by what follows. -/
theorem parse_error_cases {arguments : List Argument} {source : String} {error : ParseError}
    (failed : parse arguments source = .error error) :
    (error = ⟨.malformedTag, 0⟩ ∧ ∀ opening text, source.toList = opening ++ text →
      Text.sameAscii tag opening = false) ∨
    ∃ front c back, Offends arguments source error front c back := by
  rcases parse_cases_of_error failed with ⟨rfl, untagged⟩ | ⟨opening, text, whole, same, place⟩
  · refine .inl ⟨rfl, fun opening text split_at => Bool.eq_false_iff.mpr fun same => ?_⟩
    rw [after?_tag_eq_some_iff.mpr ⟨opening, split_at, same⟩] at untagged
    contradiction
  right
  rcases place with ⟨stuck, done, c, rest, rfl, reached, fails⟩ | ⟨draft, reached, ended⟩
  · exact exists_offends_of_stuck whole same reached fails
  · exact exists_offends_of_unfinished whole same reached ended

/-- An argument that does not exist is found in the head of a block, behind the word `opt`. -/
theorem parse_error_cases_head :
    parse [.ofOptional "x" "x"] "<prefix>a {opt $9}[b]" = .error ⟨.nonexistentArgument, 15⟩ ∧
      ∃ front c back, Offends [.ofOptional "x" "x"] "<prefix>a {opt $9}[b]"
        ⟨.nonexistentArgument, 15⟩ front c back := by
  have failed : parse [.ofOptional "x" "x"] "<prefix>a {opt $9}[b]" =
      .error ⟨.nonexistentArgument, 15⟩ := by cbv
  exact ⟨failed, (parse_error_cases failed).resolve_left (by simp)⟩

end ChatCommand.Template
