import ChatCommand.Proofs.Template.Adjacency

/-!
# Reading and spelling

A syntax string is read as a template just when it spells the template and the template keeps the
rules. For one direction, what has been read so far spells the draft: the heads of the open blocks,
what stands before each of them, and the innermost sequence with the literal that is being
collected. For the other direction, a sequence that the draft can take is read segment by segment
wherever it is spelled.

## Main definitions

- `Draft.Spelled`: a text spells a draft.
- `Draft.Awaits`, `Draft.Grown`: a sequence can be taken into a draft, and has been.

## Main results

- `Reached.isSpelled`: what has been read spells the draft.
- `Reached.exists_grown`: a spelling is read, whatever stands around it.
- `parse_eq_ok_iff_isSpelling`: the texts that are read, and what they are read as.
-/

namespace ChatCommand.Template

variable {arguments : List Argument} {draft next : Draft} {position : Nat}
  {done text behind ahead chars : List Char} {template : Template}

/-! ### Tokens that were written -/

theorem step_argument_eq_ok_iff {numeral : Numeral} :
    step arguments draft ⟨.argument numeral.digits, position⟩ = .ok next ↔
      ∃ found, Argument.withOrdinal? arguments numeral.value = some found ∧
        draft.afterArgument = false ∧ numeral.value ∉ draft.claimed ∧
        (found.optional = true → numeral.value ∈ draft.frames.map Frame.owner) ∧
        (found.optional = false → draft.frames = []) ∧
        next = draft.pushArgument numeral.value := by
  refine claim_eq_ok_iff.trans ?_
  simp only [ordinalOf_eq_ok_iff]
  constructor
  · rintro ⟨n, found, ⟨-, rfl, declared⟩, accepted⟩
    exact ⟨found, declared, accepted⟩
  · rintro ⟨found, declared, accepted⟩
    exact ⟨numeral.value, found, ⟨numeral.filled, rfl, declared⟩, accepted⟩

theorem step_keyOff_eq_ok_iff {head : BlockHead} {offset : Nat} :
    step arguments draft ⟨.keyOff (.keyed offset head.numeral.digits true), position⟩ = .ok next ↔
      IsOptional arguments head.owner ∧
        next = draft.openBlock head.owner position := by
  show enter arguments draft (.keyed offset head.numeral.digits true) position = .ok next ↔ _
  rw [enter_eq_ok_iff]
  simp only [ordinalOf_eq_ok_iff]
  constructor
  · rintro ⟨_, _, n, found, same, ⟨-, rfl, declared⟩, owns, made⟩
    obtain ⟨-, rfl, -⟩ := Header.keyed.inj same
    exact ⟨⟨found, declared, owns⟩, made⟩
  · rintro ⟨⟨found, declared, owns⟩, made⟩
    exact ⟨offset, _, head.owner, found, rfl, ⟨head.numeral.filled, rfl, declared⟩, owns, made⟩

theorem step_close_eq_ok_iff :
    step arguments draft ⟨.close, position⟩ = .ok next ↔
      ∃ frame frames, draft.frames = frame :: frames ∧
        next = draft.closeBlock frame frames := by
  unfold step
  cases draft.frames with
  | nil => simp
  | cons frame frames =>
    refine ⟨fun taken => ⟨frame, frames, rfl, (Except.ok.inj taken).symm⟩, ?_⟩
    rintro ⟨_, _, same, rfl⟩
    obtain ⟨rfl, rfl⟩ := List.cons.inj same
    rfl

/-! ### What has been read is a spelling -/

/-- A text spells the open blocks in front of another one: for each of them what stands before it,
and its head. -/
inductive SpelledFrames : List Frame → List Char → List Char → Prop
  | nil {behind : List Char} : SpelledFrames [] [] behind
  | cons {frame : Frame} {frames : List Frame} {outer text behind : List Char} (head : BlockHead)
      (owner : head.owner = frame.owner)
      (before : Spells frame.before.reverse text (head.written ++ behind))
      (others : SpelledFrames frames outer (text ++ head.written ++ behind)) :
      SpelledFrames (frame :: frames) (outer ++ text ++ head.written) behind

namespace Draft

/-- A text spells a draft in front of another one: the open blocks, the finished segments, and the
pending literal. -/
inductive Spelled (draft : Draft) : List Char → List Char → Prop
  | intro {outer text tail ahead : List Char}
      (blocks : SpelledFrames draft.frames outer (text ++ tail ++ ahead))
      (built : Spells draft.built.reverse text (tail ++ ahead))
      (pending : SpellsText draft.pending.reverse tail ahead) :
      Spelled draft (outer ++ text ++ tail) ahead

/-- The pending literal can be taken as the last of the segments. -/
theorem Spelled.flushed (spelled : draft.Spelled done ahead) :
    ∃ outer text, done = outer ++ text ∧ SpelledFrames draft.frames outer (text ++ ahead) ∧
      Spells draft.flushed.reverse text ahead := by
  obtain @⟨outer, text, tail, _, blocks, built, pending⟩ := spelled
  refine ⟨outer, text ++ tail, List.append_assoc .., blocks, ?_⟩
  rw [reverse_flushed]
  refine built.append ?_
  split
  next empty =>
    rw [List.isEmpty_iff.mp empty] at pending
    cases pending
    exact .nil
  next =>
    have last : Spells (literal draft.pending.reverse nil) (tail ++ []) ahead :=
      .literal pending .nil
    rwa [List.append_nil] at last

/-- Without a pending literal, the finished segments are all there are. -/
theorem Spelled.of_built {outer text : List Char} (none : draft.pending = [])
    (blocks : SpelledFrames draft.frames outer (text ++ ahead))
    (built : Spells draft.built.reverse text ahead) : draft.Spelled (outer ++ text) ahead := by
  have pending : SpellsText draft.pending.reverse [] ahead := by
    rw [none]
    exact .nil
  rw [← List.append_nil (outer ++ text)]
  refine .intro ?_ built pending
  rwa [List.append_nil]

theorem Spelled.empty : Draft.empty.Spelled [] ahead := by
  have nothing : Draft.empty.Spelled ([] ++ []) ahead := .of_built rfl .nil .nil
  exact nothing

theorem Spelled.pushChar {c : Char} (spelled : draft.Spelled done (text ++ ahead))
    (written : SpellsChar c text ahead) : (draft.pushChar c).Spelled (done ++ text) ahead := by
  obtain @⟨outer, front, tail, _, blocks, built, pending⟩ := spelled
  rw [List.append_assoc (outer ++ front)]
  refine .intro ?_ ?_ ?_
  · show SpelledFrames draft.frames outer _
    simpa using blocks
  · show Spells draft.built.reverse front _
    simpa using built
  · show SpellsText (c :: draft.pending).reverse _ _
    rw [List.reverse_cons]
    refine pending.append ?_
    rw [← List.append_nil text]
    exact .cons written .nil

theorem Spelled.pushArgument {numeral : Numeral}
    (spelled : draft.Spelled done ('$' :: numeral.digits ++ ahead))
    (ends : Text.OpensOutside Char.isDigit ahead) :
    (draft.pushArgument numeral.value).Spelled (done ++ '$' :: numeral.digits) ahead := by
  obtain ⟨outer, text, rfl, blocks, flushed⟩ := spelled.flushed
  have added : Spells (argument numeral.value nil) ('$' :: numeral.digits) ahead := by
    have added : Spells (argument numeral.value nil) ('$' :: (numeral.digits ++ [])) ahead :=
      .argument numeral ends .nil
    rwa [List.append_nil] at added
  rw [List.append_assoc]
  refine .of_built rfl ?_ ?_
  · show SpelledFrames draft.frames outer _
    simpa using blocks
  · exact (reverse_flushed_pushArgument draft numeral.value) ▸ flushed.append added

theorem Spelled.openBlock {head : BlockHead} (spelled : draft.Spelled done (head.written ++ ahead))
    (position : Nat) :
    (draft.openBlock head.owner position).Spelled (done ++ head.written) ahead := by
  obtain ⟨outer, text, rfl, blocks, flushed⟩ := spelled.flushed
  rw [← List.append_nil (outer ++ text ++ head.written)]
  refine .of_built rfl (.cons head rfl flushed ?_) .nil
  simpa using blocks

theorem Spelled.closeBlock {frame : Frame} {frames : List Frame}
    (spelled : draft.Spelled done (']' :: ahead)) (opened : draft.frames = frame :: frames) :
    (draft.closeBlock frame frames).Spelled (done ++ [']']) ahead := by
  obtain ⟨outer, inside, rfl, blocks, flushed⟩ := spelled.flushed
  rw [opened] at blocks
  -- The head of the block was spelled when the block was opened, the content since.
  obtain - | @⟨_, _, outer, text, _, head, owner, before, others⟩ := blocks
  have block : Spells (keyOff frame.owner draft.flushed.reverse nil)
      (head.written ++ inside ++ [']']) ahead := owner ▸ .keyOff head flushed .nil
  have whole := Spells.append (by simpa using before) block
  rw [← reverse_flushed_closeBlock draft frame frames] at whole
  replace others : SpelledFrames frames outer
      (text ++ (head.written ++ inside ++ [']']) ++ ahead) := by simpa using others
  have made : (draft.closeBlock frame frames).Spelled _ _ := .of_built rfl others whole
  simpa using made

end Draft

/-- What has been read spells the draft. -/
theorem Reached.isSpelled (reached : Reached arguments draft done ahead) :
    draft.Spelled done ahead := by
  induction reached with
  | start => exact .empty
  | token _ written taken ih =>
    cases written with
    | char written =>
      obtain rfl := Except.ok.inj taken
      exact ih.pushChar written
    | argument numeral ends =>
      obtain ⟨found, -, -, -, -, -, rfl⟩ := step_argument_eq_ok_iff.mp taken
      exact ih.pushArgument ends
    | keyOff head =>
      obtain ⟨-, rfl⟩ := step_keyOff_eq_ok_iff.mp taken
      exact ih.openBlock _
    | close =>
      obtain ⟨frame, frames, opened, rfl⟩ := step_close_eq_ok_iff.mp taken
      exact ih.closeBlock opened

theorem isSpelling_of_parse {source : String} (read : parse arguments source = .ok template) :
    IsSpelling source.toList template := by
  obtain ⟨opening, text, draft, whole, same, reached, closed, rfl⟩ :=
    parse_eq_ok_iff_reached.mp read
  obtain ⟨outer, text, rfl, blocks, flushed⟩ := reached.isSpelled.flushed
  rw [closed] at blocks
  cases blocks
  exact ⟨opening, text, _, whole, same, rfl, flushed⟩

/-! ### A spelling is read -/

namespace Draft

/-- A sequence can be taken into a draft without breaking a rule. -/
structure Awaits (arguments : List Argument) (draft : Draft) (template : Template) : Prop where
  lawful : template.Lawful arguments (scopeOf draft.frames)
  once : template.referenced.Nodup
  fresh : ∀ n ∈ template.referenced, n ∉ draft.claimed
  apart : template.KeepsApart draft.afterArgument
  /-- A literal is not continued. -/
  pending : template.startsWithLiteral = true → draft.pending = []

/-- A draft is another one with a sequence taken into it. -/
structure Grown (draft : Draft) (template : Template) (next : Draft) : Prop where
  frames : next.frames = draft.frames
  flushed : next.flushed = template.reverseOnto draft.flushed
  flag : next.afterArgument = template.endsInArgument draft.afterArgument
  claimed : ∀ n, n ∈ next.claimed ↔ n ∈ template.referenced ∨ n ∈ draft.claimed

/-- A draft with the characters of a literal. -/
def pushText (draft : Draft) (chars : List Char) : Draft :=
  { draft with pending := chars.reverse ++ draft.pending, afterArgument := false }

section

variable {content rest : Template} {last : Draft} {n : Nat}

theorem Awaits.of_literal (awaits : draft.Awaits arguments (literal chars rest)) :
    (draft.pushText chars).Awaits arguments rest where
  lawful := awaits.lawful.of_literal
  once := awaits.once
  fresh := awaits.fresh
  apart := awaits.apart
  pending := fun starts => absurd (awaits.lawful.literals.2.1.symm.trans starts) nofun

theorem Grown.literal (filled : chars ≠ []) (none : draft.pending = [])
    (grown : (draft.pushText chars).Grown rest next) : draft.Grown (literal chars rest) next := by
  have taken : (draft.pushText chars).flushed = .literal chars draft.flushed := by
    simp [Draft.flushed, pushText, none, filled]
  exact ⟨grown.frames, grown.flushed.trans (congrArg rest.reverseOnto taken), grown.flag,
    grown.claimed⟩

theorem Awaits.of_argument (awaits : draft.Awaits arguments (argument n rest)) :
    (draft.pushArgument n).Awaits arguments rest where
  lawful := awaits.lawful.of_argument.2
  once := (List.nodup_cons.mp awaits.once).2
  fresh := fun m used => by
    obtain ⟨notAgain, -⟩ := List.nodup_cons.mp awaits.once
    have fresh := awaits.fresh m (List.mem_cons_of_mem n used)
    exact List.not_mem_cons_of_ne_of_not_mem (fun same => notAgain (same ▸ used)) fresh
  apart := awaits.apart.2
  pending := fun _ => rfl

theorem Grown.argument (grown : (draft.pushArgument n).Grown rest next) :
    draft.Grown (argument n rest) next where
  frames := grown.frames
  flushed := grown.flushed
  flag := grown.flag
  claimed := fun m => by
    rw [grown.claimed]
    simp only [pushArgument, referenced, List.mem_cons]
    exact or_left_comm.trans or_assoc.symm

/-- The content of a block is taken as if nothing stood before it. -/
theorem Awaits.inside (awaits : draft.Awaits arguments (keyOff n content rest)) (position : Nat) :
    (draft.openBlock n position).Awaits arguments content where
  lawful := awaits.lawful.of_keyOff.2.1
  once := (List.nodup_append.mp awaits.once).1
  fresh := fun m used => awaits.fresh m (List.mem_append_left _ used)
  apart := awaits.apart.1
  pending := fun _ => rfl

/-- Behind a block that was taken, an argument may stand as the block says, there or not. -/
theorem Grown.flag_closeBlock (inside : (draft.openBlock n position).Grown content last) :
    (last.closeBlock ⟨n, position, draft.flushed, draft.afterArgument⟩
      draft.frames).afterArgument =
        (draft.afterArgument || content.endsInArgument draft.afterArgument) :=
  congrArg (draft.afterArgument || ·) inside.flag

theorem Awaits.after (awaits : draft.Awaits arguments (keyOff n content rest))
    (inside : (draft.openBlock n position).Grown content last) :
    (last.closeBlock ⟨n, position, draft.flushed, draft.afterArgument⟩ draft.frames).Awaits
      arguments rest where
  lawful := awaits.lawful.of_keyOff.2.2
  once := (List.nodup_append.mp awaits.once).2.1
  fresh := fun m used => by
    obtain ⟨-, -, disjoint⟩ := List.nodup_append.mp awaits.once
    refine mt (inside.claimed m).mp (not_or.mpr ⟨fun within => ?_, ?_⟩)
    · exact disjoint m within m used rfl
    · exact awaits.fresh m (List.mem_append_right _ used)
  apart := inside.flag_closeBlock ▸ awaits.apart.2
  pending := fun _ => rfl

/-- A block that was taken is one more segment. -/
theorem Grown.keyOff (inside : (draft.openBlock n position).Grown content last)
    (after : (last.closeBlock ⟨n, position, draft.flushed, draft.afterArgument⟩
      draft.frames).Grown rest next) : draft.Grown (keyOff n content rest) next where
  frames := after.frames
  flushed := by
    rw [after.flushed]
    show rest.reverseOnto (.keyOff n last.flushed.reverse draft.flushed) = _
    rw [inside.flushed]
    exact congrArg (fun inner => rest.reverseOnto (.keyOff n inner draft.flushed))
      (reverse_reverse content)
  flag := after.flag.trans (congrArg rest.endsInArgument inside.flag_closeBlock)
  claimed := fun m => by
    rw [after.claimed]
    show m ∈ rest.referenced ∨ m ∈ last.claimed ↔ _
    rw [inside.claimed, referenced, List.mem_append, or_assoc]
    exact or_left_comm

end

end Draft

/-- The characters of a literal are read one by one. -/
theorem Reached.pushText {c : Char} (spelled : SpellsText (c :: chars) text behind)
    (reached : Reached arguments draft done (text ++ behind)) :
    Reached arguments (draft.pushText (c :: chars)) (done ++ text) behind := by
  induction chars generalizing c text draft done with
  | nil =>
    obtain - | @⟨_, _, front, _, _, first, others⟩ := spelled
    cases others
    rw [List.append_nil] at reached ⊢
    exact .token reached (.char first) rfl
  | cons d chars ih =>
    obtain - | @⟨_, _, front, text, _, first, others⟩ := spelled
    rw [List.append_assoc] at reached
    have onward := ih others (.token reached (.char first) rfl)
    rw [List.append_assoc] at onward
    have same : (draft.pushChar c).pushText (d :: chars) = draft.pushText (c :: d :: chars) := by
      simp [Draft.pushText, Draft.pushChar]
    exact same ▸ onward

/-- A spelling is read, whatever stands around it, when the draft can take what it spells. -/
theorem Reached.exists_grown (spelled : Spells template text behind)
    (reached : Reached arguments draft done (text ++ behind))
    (awaits : draft.Awaits arguments template) :
    ∃ next, Reached arguments next (done ++ text) behind ∧ draft.Grown template next := by
  -- On the spelling: each token is a step, and a block lies between the steps of its two ends.
  induction spelled generalizing draft done with
  | nil =>
    rw [List.append_nil]
    exact ⟨draft, reached, rfl, rfl, rfl, fun n => by simp [referenced]⟩
  | literal spelled _ ih =>
    have filled := awaits.lawful.literals.1
    obtain ⟨c, chars, rfl⟩ := List.exists_cons_of_ne_nil filled
    rw [List.append_assoc] at reached
    obtain ⟨next, onward, grown⟩ := ih (reached.pushText spelled) awaits.of_literal
    rw [List.append_assoc] at onward
    exact ⟨next, onward, grown.literal filled (awaits.pending rfl)⟩
  | @argument text behind rest numeral ends _ ih =>
    obtain ⟨allowed, -⟩ := awaits.lawful.of_argument
    obtain ⟨found, declared⟩ := allowed.declared
    have fresh := awaits.fresh _ List.mem_cons_self
    have taken : step arguments draft ⟨.argument numeral.digits, tag.length + bytes done⟩ =
        .ok (draft.pushArgument numeral.value) := by
      refine step_argument_eq_ok_iff.mpr ⟨found, declared, awaits.apart.1, fresh, ?_, ?_, rfl⟩
      · exact allowed.inside found declared
      · exact fun required => List.map_eq_nil_iff.mp (allowed.outside found declared required)
    have onward : Reached arguments (draft.pushArgument numeral.value)
        (done ++ '$' :: numeral.digits) (text ++ behind) :=
      .token (by simpa using reached) (.argument numeral ends) taken
    obtain ⟨next, onward, grown⟩ := ih onward awaits.of_argument
    exact ⟨next, by simpa using onward, grown.argument⟩
  | @keyOff inside text behind content rest head _ _ ihWithin ihAfter =>
    obtain ⟨owner, -⟩ := awaits.lawful.of_keyOff
    have entered : Reached arguments (draft.openBlock head.owner (tag.length + bytes done))
        (done ++ head.written) (inside ++ (']' :: text ++ behind)) :=
      .token (by simpa using reached) (.keyOff head) (step_keyOff_eq_ok_iff.mpr ⟨owner, rfl⟩)
    obtain ⟨last, within, grownInside⟩ := ihWithin entered (awaits.inside _)
    have left : Reached arguments (last.closeBlock _ draft.frames)
        (done ++ head.written ++ inside ++ [']']) (text ++ behind) :=
      .token within .close (step_close_eq_ok_iff.mpr ⟨_, _, grownInside.frames, rfl⟩)
    obtain ⟨next, onward, grown⟩ := ihAfter left (awaits.after grownInside)
    exact ⟨next, by simpa using onward, grownInside.keyOff grown⟩

theorem parse_of_isSpelling {source : String} {body : Template}
    (spelling : IsSpelling source.toList (sigil body)) (lawful : body.Lawful arguments [])
    (once : body.referenced.Nodup) (apart : body.KeepsApart false) :
    parse arguments source = .ok (sigil body) := by
  obtain ⟨opening, text, _, whole, same, prefixed, spelled⟩ := spelling
  obtain rfl := Template.sigil.inj prefixed
  obtain ⟨draft, reached, grown⟩ := Reached.exists_grown spelled .start
    ⟨lawful, once, fun _ _ => List.not_mem_nil, apart, fun _ => rfl⟩
  refine parse_eq_ok_iff_reached.mpr
    ⟨opening, text, draft, whole, same, reached, grown.frames, ?_⟩
  rw [grown.flushed]
  exact congrArg Template.sigil (reverse_reverse body).symm

/-! ### The texts that are read -/

/-- A syntax string is read as a template just when it spells the template, the template is
well-formed, and there is text between any two of its arguments, whichever blocks are there. -/
theorem parse_eq_ok_iff_isSpelling (arguments : List Argument) (source : String)
    (template : Template) :
    parse arguments source = .ok template ↔
      IsSpelling source.toList template ∧ template.WellFormed arguments ∧
        template.ArgumentsSeparated := by
  constructor
  · intro read
    have spelling := isSpelling_of_parse read
    obtain ⟨body, rfl, lawful, once⟩ := lawful_of_parse read
    obtain ⟨_, same, apart⟩ := keepsApart_of_parse read
    obtain rfl := Template.sigil.inj same
    exact ⟨spelling, lawful.wellFormed once,
      (argumentsSeparated_iff lawful.plain lawful.literals).mpr apart⟩
  · rintro ⟨spelling, wellFormed, separated⟩
    obtain ⟨body, rfl, -⟩ := wellFormed.opens
    have lawful := wellFormed.lawful
    exact parse_of_isSpelling spelling lawful wellFormed.once
      ((argumentsSeparated_iff lawful.plain lawful.literals).mp separated)

example : parse [.ofOptional "sum" "Sum"] "<Prefix>pay{ OPT $01 }[ \\$$1]\\" =
    .ok (sigil (literal "pay".toList (keyOff 1 (literal " $".toList (argument 1 nil))
      (literal ['\\'] nil)))) := by cbv

end ChatCommand.Template
