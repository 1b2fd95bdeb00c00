import ChatCommand.Proofs.Pattern.Captures
import ChatCommand.Proofs.Pattern.Filling
import ChatCommand.Proofs.Pattern.FirstSplit
import ChatCommand.Proofs.Template.Flattening

/-!
# Texts that end where they should

A text is captured up to the first place at which the rest of the message can be split. In a
template without blocks this is the end of the text that was written, unless the literal behind the
argument turns up before: inside the text, or partly inside it and partly in itself. Behind the last
argument nothing is left open, so there the length of the message decides.

## Main definitions

- `Delimited`: no literal turns up before its place.

## Main results

- `Split.length_message_eq`: without arguments all splits are of one length.
- `Split.Agrees.eq_or_precedes`: the split into delimited texts is the first one of its message.
- `captures?_of_delimited`: what was written with delimited texts gives them back.
-/

namespace ChatCommand.Template

open Pattern (textOf? textOf?_cons)

variable {sigilText : List Char} {template rest : Template} {texts : Nat → List Char}
  {there : Nat → Nat → Bool} {earlier : List Nat} {n : Nat}

/-- Behind each argument with another one after it stands a literal that is not found before its
place, up to letter case: not in the text of the argument followed by the literal, at a place inside
the text. -/
def Delimited (texts : Nat → List Char) (template : Template) : Prop :=
  ∀ front n text rest, template = front ++ argument n (literal text rest) → rest.referenced ≠ [] →
    ∀ place, 0 < place → place < (texts n).length →
      ¬ text.map Text.fold <+: ((texts n ++ text).map Text.fold).drop place

theorem delimited_nil : Delimited texts nil := by
  intro front n text after shape
  cases front <;> cases shape

theorem delimited_sigil_iff : Delimited texts (sigil rest) ↔ Delimited texts rest := by
  constructor
  · intro delimited front n text after shape
    exact delimited (sigil front) n text after (congrArg sigil shape)
  · intro delimited front n text after shape
    cases front with
    | sigil front => exact delimited front n text after (sigil.inj shape)
    | _ => cases shape

theorem delimited_literal_iff {chars : List Char} :
    Delimited texts (literal chars rest) ↔ Delimited texts rest := by
  constructor
  · intro delimited front n text after shape
    exact delimited (literal chars front) n text after (congrArg (literal chars) shape)
  · intro delimited front n text after shape
    cases front with
    | literal other front => exact delimited front n text after (literal.inj shape).2
    | _ => cases shape

theorem delimited_argument_iff :
    Delimited texts (argument n rest) ↔
      (∀ text after, rest = literal text after → after.referenced ≠ [] →
        ∀ place, 0 < place → place < (texts n).length →
          ¬ text.map Text.fold <+: ((texts n ++ text).map Text.fold).drop place) ∧
      Delimited texts rest := by
  constructor
  · intro delimited
    refine ⟨fun text after shape => ?_, fun front m text after shape => ?_⟩
    · exact delimited nil n text after (congrArg (argument n) shape)
    · exact delimited (argument n front) m text after (congrArg (argument n) shape)
  · intro delimited front m text after shape
    cases front with
    | nil =>
      obtain ⟨rfl, here⟩ := argument.inj shape
      exact delimited.1 text after here
    | argument other front => exact delimited.2 front m text after (argument.inj shape).2
    | _ => cases shape

/-- A separator that stands in two places of a message begins, at the earlier one, in what comes
before the later one. -/
theorem prefix_drop_of_append_eq {text other separator after behind : List Char}
    (same : other ++ (separator ++ behind) = text ++ (separator ++ after))
    (shorter : other.length ≤ text.length) :
    separator <+: (text ++ separator).drop other.length := by
  have here : separator <+: (text ++ separator ++ after).drop other.length := by
    rw [List.append_assoc, ← same, List.drop_left]
    exact List.prefix_append separator behind
  have there : (text ++ separator).drop other.length <+:
      (text ++ separator ++ after).drop other.length := by
    have inside : other.length ≤ (text ++ separator).length := by
      rw [List.length_append]
      omega
    rw [List.drop_append_of_le_length inside]
    exact List.prefix_append _ after
  apply List.prefix_of_prefix_length_le here there
  rw [List.length_drop, List.length_append]
  omega

/-- What stands behind an argument, when another one follows without blocks, is a literal. -/
theorem exists_literal_of_keepsApart (plain : rest.sigilCount = 0) (solid : rest.blockOwners = [])
    (apart : rest.KeepsApart true) (more : rest.referenced ≠ []) :
    ∃ text after, rest = literal text after := by
  cases rest with
  | nil => contradiction
  | sigil after => contradiction
  | literal text after => exact ⟨text, after, rfl⟩
  | argument n after => exact absurd apart.1 (by decide)
  | keyOff n content after => contradiction

namespace Split

/-- Texts that agree up to letter case have one length. -/
theorem length_eq_of_map_fold {text spelled spelled' : List Char}
    (same : spelled.map Text.fold = text.map Text.fold)
    (same' : spelled'.map Text.fold = text.map Text.fold) :
    spelled.length = spelled'.length := by
  simpa using congrArg List.length (same.trans same'.symm)

/-- Where no argument and no block is left, only letter case is open. -/
theorem length_message_eq (one other : Split sigilText template)
    (closed : template.referenced = []) (solid : template.blockOwners = []) :
    one.message.length = other.message.length := by
  induction one with
  | nil =>
    cases other
    rfl
  | sigil spelled same after ih =>
    cases other with
    | sigil spelled' same' after' =>
      simp only [message, List.length_append, ih after' closed solid,
        length_eq_of_map_fold same same']
  | literal spelled same after ih =>
    cases other with
    | literal spelled' same' after' =>
      simp only [message, List.length_append, ih after' closed solid,
        length_eq_of_map_fold same same']
  | argument => contradiction
  | present => contradiction
  | absent => contradiction

/-- No split of a message gives an argument a text shorter than the delimited one. -/
theorem length_le_of_delimited {text : List Char} {after after' : Split sigilText rest}
    (delimited : Delimited texts (.argument n rest)) (plain : rest.sigilCount = 0)
    (solid : rest.blockOwners = []) (apart : rest.KeepsApart true) (filled : text ≠ [])
    (same : text ++ after'.message = texts n ++ after.message) :
    (texts n).length ≤ text.length := by
  by_contra longer
  have shorter : text.length < (texts n).length := by omega
  by_cases last : rest.referenced = []
  · -- Nothing is left open behind the argument, so the rest is of one length.
    have sized := length_message_eq after after' last solid
    have whole := congrArg List.length same
    simp only [List.length_append] at whole
    omega
  · obtain ⟨chars, behind, rfl⟩ := exists_literal_of_keepsApart plain solid apart last
    cases after with
    | literal spelled fold more =>
      cases after' with
      | literal spelled' fold' more' =>
        -- The literal would turn up behind the shorter text already.
        have folded := congrArg (List.map Text.fold) same
        simp only [message, List.map_append, fold, fold'] at folded
        have found := prefix_drop_of_append_eq folded (by simp; omega)
        rw [List.length_map, ← List.map_append] at found
        have positive : 0 < text.length := List.length_pos_iff.mpr filled
        exact (delimited_argument_iff.mp delimited).1 chars behind rfl last text.length positive
          shorter found

/-- Of the splits of a message, the one into delimited texts is the first. -/
theorem Agrees.eq_or_precedes {before : Bool} {one other : Split sigilText template}
    (agrees : one.Agrees (fun n => some (texts n)) there earlier)
    (delimited : Delimited texts template) (plain : template.sigilCount = 0)
    (solid : template.blockOwners = []) (apart : template.KeepsApart before)
    (same : other.message = one.message) : other = one ∨ one.Precedes other := by
  induction one generalizing before earlier with
  | nil =>
    cases other
    exact .inl rfl
  | sigil => contradiction
  | @literal text rest spelled fold after ih =>
    cases other with
    | literal spelled' fold' after' =>
      obtain ⟨rfl, behind⟩ := List.append_inj same (length_eq_of_map_fold fold' fold)
      have order := ih agrees (delimited_literal_iff.mp delimited) plain solid apart behind
      exact order.imp_left fun equal => by rw [equal]
  | @argument n rest text filled after ih =>
    cases other with
    | argument text' filled' after' =>
      obtain ⟨given, agrees⟩ := agrees
      obtain rfl := Option.some.inj given
      -- No other split ends the text of the argument earlier than its delimiter does.
      have least := length_le_of_delimited delimited plain solid apart.2 filled' same
      rcases Nat.lt_or_eq_of_le least with longer | equal
      · exact .inr (.of_head longer)
      · obtain ⟨rfl, behind⟩ := List.append_inj same equal.symm
        have order := ih agrees (delimited_argument_iff.mp delimited).2 plain solid apart.2 behind
        refine order.imp (fun equal => by rw [equal]) ?_
        exact fun ahead => ahead.append_left [.text (texts n).length]
  | present => contradiction
  | absent => contradiction

/-- Without blocks, what is captured of an argument is its text. -/
theorem Agrees.textOf?_eq {split : Split sigilText template}
    (agrees : split.Agrees (fun n => some (texts n)) there earlier)
    (solid : template.blockOwners = []) (used : n ∈ template.referenced) (place : Nat) :
    textOf? (split.captures earlier place) (.argument n) = some (texts n) := by
  induction split generalizing earlier place with
  | nil => contradiction
  | sigil spelled same after ih => exact ih agrees solid used _
  | literal spelled same after ih => exact ih agrees solid used _
  | @argument m rest text filled after ih =>
    obtain ⟨given, agrees⟩ := agrees
    simp only [captures, textOf?_cons, Group.argument.injEq]
    by_cases here : m = n
    · subst here
      simpa using given.symm
    · rw [if_neg here]
      apply ih agrees solid
      exact (List.mem_cons.mp used).resolve_left (Ne.symm here)
  | present => contradiction
  | absent => contradiction

end Split

/-- What is written with delimited texts matches, and the texts are captured as they were written.
-/
theorem captures?_of_delimited {sigil : String} {body : Template}
    (filled : ∀ n ∈ body.referenced, texts n ≠ []) (delimited : Delimited texts body)
    (plain : body.sigilCount = 0) (solid : body.blockOwners = []) (apart : body.KeepsApart false)
    (there : Nat → Nat → Bool) :
    ∃ written captures,
      (Template.sigil body).fill sigil.toList (fun n => some (texts n)) there [] = some written ∧
        ((Template.sigil body).toPattern sigil).captures? (written.map Mark.char) = some captures ∧
        ∀ n ∈ body.referenced, textOf? captures (.argument n) = some (texts n) := by
  obtain ⟨written, split, wrote, whole, agrees⟩ :=
    @exists_agrees_of_fill sigil.toList (.sigil body) texts there [] filled
  have matched : (((Template.sigil body).toPattern sigil).captures?
      (written.map Mark.char)).isSome = true := isSome_captures?_iff.mpr ⟨split, whole⟩
  obtain ⟨captures, captured⟩ := Option.isSome_iff_exists.mp matched
  obtain ⟨first, again, rfl, foremost⟩ := exists_first_of_captures? captured
  have order : first = split ∨ split.Precedes first := by
    cases split with
    | sigil spelled fold after =>
      cases first with
      | sigil spelled' fold' after' =>
        obtain ⟨rfl, behind⟩ :=
          List.append_inj (again.trans whole.symm) (Split.length_eq_of_map_fold fold' fold)
        have inner : after.Agrees (fun n => some (texts n)) there [] := agrees
        have order := inner.eq_or_precedes delimited plain solid apart behind
        exact order.imp_left fun equal => by rw [equal]
  -- Of the two splits each is the first one, so they are the same.
  have same : first = split := by
    rcases order with equal | ahead
    · exact equal
    · rcases foremost split whole with equal | behind
      · exact equal.symm
      · exact absurd behind ahead.asymm
  subst same
  exact ⟨written, _, wrote, captured, fun n used => agrees.textOf?_eq solid used 0⟩

end ChatCommand.Template
