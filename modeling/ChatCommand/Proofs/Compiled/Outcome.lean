import ChatCommand.Pattern.Limits
import ChatCommand.Proofs.Compiled.CacheRun
import ChatCommand.Proofs.Compiled.PartlySupplied

/-!
# Outcomes told apart

Callers go by the flags of an extraction alone. Whatever the cache keeps, the flags say what
happened: the syntax string does not compile, or the message does not match, or some optional
argument is only partly supplied, or a required one is missing, or everything is extracted. The
outcome kept may come from a call that declared other arguments, so a required argument can be
missing although the message matches, and this can happen together with another one that is only
partly supplied.

## Main definitions

- `Matched`: the syntax string compiles and the message matches.
- `FirstMissing`: the first required argument whose text is missing.
- `Extraction.ToldApart`: what the flags of an extraction say.

## Main results

- `Extraction.isMismatch_iff`: a mismatch is what is left when nothing else is reported.
- `extract_toldApart`: the flags of every extraction are right.
-/

namespace ChatCommand

open Pattern (textOf? Captured isSome_textOf?_iff)

variable {outcome : Except CompileError Compiled} {compiled : Compiled}
  {captures : List Pattern.Capture} {arguments : List Argument} {argument : Argument}
  {message id : String} {n : Nat}

/-- The syntax string compiles, and the message matches with some captures. -/
structure Matched (outcome : Except CompileError Compiled) (message : String)
    (compiled : Compiled) (captures : List Pattern.Capture) : Prop where
  compiles : outcome = .ok compiled
  captured : compiled.pattern.captures? message.toList = some captures

/-- The argument is required and its text is missing, while the texts of all required arguments that
are declared before it are captured. -/
structure FirstMissing (arguments : List Argument) (captures : List Pattern.Capture) (n : Nat)
    (argument : Argument) : Prop where
  declared : Argument.withOrdinal? arguments n = some argument
  required : argument.optional = false
  missing : ¬ Captured captures (.argument n)
  earlier : ∀ m < n, ∀ other, Argument.withOrdinal? arguments m = some other →
    other.optional = false → Captured captures (.argument m)

/-- The first argument with a property comes before all others with it. -/
theorem Argument.find?_numbered_eq_some_iff {p : Nat × Argument → Bool} :
    (numbered arguments).find? p = some (n, argument) ↔
      withOrdinal? arguments n = some argument ∧ p (n, argument) = true ∧
        ∀ m < n, ∀ other, withOrdinal? arguments m = some other → p (m, other) = false := by
  rw [List.find?_eq_some_iff_getElem]
  unfold numbered
  simp only [List.length_mapIdx, List.getElem_mapIdx]
  -- Ordinals are counted from one and positions from zero.
  constructor
  · rintro ⟨holds, index, bound, here, first⟩
    obtain ⟨rfl, rfl⟩ := Prod.mk.inj here
    refine ⟨List.getElem?_eq_getElem bound, holds, fun m before other declared => ?_⟩
    cases m with
    | zero => contradiction
    | succ earlier =>
      obtain ⟨-, rfl⟩ := List.getElem?_eq_some_iff.mp declared
      simpa using first earlier (Nat.succ_lt_succ_iff.mp before)
  · rintro ⟨declared, holds, first⟩
    cases n with
    | zero => contradiction
    | succ index =>
      obtain ⟨bound, rfl⟩ := List.getElem?_eq_some_iff.mp declared
      refine ⟨holds, index, bound, rfl, fun earlier before => ?_⟩
      have passed := first (earlier + 1) (Nat.succ_lt_succ before) _
        (List.getElem?_eq_getElem (Nat.lt_trans before bound))
      simpa using passed

/-! ### Flags -/

namespace Extraction

variable {extraction : Extraction}

/-- What the flags of an extraction say about the outcome of compiling and about the message. -/
structure ToldApart (outcome : Except CompileError Compiled) (arguments : List Argument)
    (message : String) (extraction : Extraction) : Prop where
  compiled : extraction.isCompiled = false ↔ extraction.compileError?.isSome = true
  error : ∀ error, extraction.compileError? = some error ↔ outcome = .error error
  mismatch : extraction.isMismatch = true ↔
    ∃ compiled, outcome = .ok compiled ∧ compiled.pattern.captures? message.toList = none
  /-- Something disagrees just when some optional argument is only partly supplied. -/
  inconsistent : extraction.inconsistencies ≠ [] ↔
    ∃ compiled captures, Matched outcome message compiled captures ∧
      ∃ n argument, Argument.withOrdinal? arguments n = some argument ∧
        argument.optional = true ∧ compiled.PartlySupplied captures n
  missing : ∀ id, extraction.missing? = some id ↔
    ∃ compiled captures, Matched outcome message compiled captures ∧
      ∃ n argument, FirstMissing arguments captures n argument ∧ argument.id = id
  succeeded : extraction.succeeded = true ↔
    (∃ compiled captures, Matched outcome message compiled captures) ∧
      extraction.inconsistencies = [] ∧ extraction.missing? = none
  silent : extraction.succeeded = false → extraction.values = []
  /-- On success there is one field for each argument. -/
  keys : extraction.succeeded = true →
    (Json.Fields.keys extraction.values).Perm (arguments.map Argument.id)
  supplied : extraction.succeeded = true →
    ∀ argument ∈ arguments, argument.optional = false →
      ∃ text, Json.Fields.get? argument.id extraction.values = some (some text)

theorem isCompiled_eq_false_iff :
    extraction.isCompiled = false ↔ extraction.compileError?.isSome = true := by
  cases extraction <;> simp [isCompiled, compileError?]

/-- A mismatch is what is left when nothing else is reported. -/
theorem isMismatch_iff :
    extraction.isMismatch = true ↔
      extraction.isCompiled = true ∧ extraction.succeeded = false ∧
        extraction.inconsistencies = [] ∧ extraction.missing? = none := by
  cases extraction <;> simp [isMismatch, isCompiled, succeeded, inconsistencies, missing?]

theorem succeeded_iff_flags :
    extraction.succeeded = true ↔
      extraction.isCompiled = true ∧ extraction.isMismatch = false ∧
        extraction.inconsistencies = [] ∧ extraction.missing? = none := by
  cases extraction <;> simp [isMismatch, isCompiled, succeeded, inconsistencies, missing?]

theorem values_eq_nil (failed : extraction.succeeded = false) : extraction.values = [] := by
  cases extraction with
  | complete values => contradiction
  | _ => rfl

end Extraction

/-! ### Messages that match -/

namespace Compiled

/-- An extraction of a compiled command is told from a mismatch by the captures. -/
theorem flags_extract (matched : compiled.pattern.captures? message.toList = some captures) :
    (compiled.extract arguments message).isCompiled = true ∧
      (compiled.extract arguments message).isMismatch = false := by
  unfold extract
  rw [matched]
  dsimp only
  split
  next => exact ⟨rfl, rfl⟩
  next => split <;> exact ⟨rfl, rfl⟩

theorem extract_of_unmatched (unmatched : compiled.pattern.captures? message.toList = none) :
    compiled.extract arguments message = .mismatch := by
  unfold extract
  rw [unmatched]

/-- Something is reported to disagree just when an optional argument is only partly supplied. -/
theorem inconsistencies_extract_ne_nil_iff
    (matched : compiled.pattern.captures? message.toList = some captures) :
    (compiled.extract arguments message).inconsistencies ≠ [] ↔
      ∃ n argument, Argument.withOrdinal? arguments n = some argument ∧
        argument.optional = true ∧ compiled.PartlySupplied captures n := by
  rw [inconsistencies_extract matched, ne_eq, List.flatMap_eq_nil_iff]
  constructor
  · intro reported
    push Not at reported
    obtain ⟨⟨argument, finding⟩, member, filled⟩ := reported
    obtain ⟨n, declared, rfl⟩ := mem_findings_iff.mp member
    exact ⟨n, argument, declared, (reports_find matched n argument).filled.mp filled⟩
  · rintro ⟨n, argument, declared, partly⟩ silent
    have filled := (reports_find matched n argument).filled.mpr partly
    exact filled (silent _ (mem_findings_iff.mpr ⟨n, declared, rfl⟩))

/-- Nothing is found of a required argument just when its text is missing. -/
theorem isNone_find_of_required (required : argument.optional = false) :
    (compiled.find captures n argument).value.isNone = true ↔
      ¬ Captured captures (.argument n) := by
  rw [find_of_required required, Option.isNone_map, Option.isNone_iff_eq_none,
    ← isSome_textOf?_iff, Option.not_isSome_iff_eq_none]

/-- What is reported missing is the first required argument whose text is missing. -/
theorem missing?_extract_eq_some_iff
    (matched : compiled.pattern.captures? message.toList = some captures) :
    (compiled.extract arguments message).missing? = some id ↔
      ∃ n argument, FirstMissing arguments captures n argument ∧ argument.id = id := by
  rw [missing?_extract matched]
  unfold findings
  rw [List.find?_map, Option.map_map]
  simp only [Option.map_eq_some_iff, Argument.find?_numbered_eq_some_iff, Prod.exists]
  -- An argument is passed over when it is optional or its text is captured.
  refine exists_congr fun n => exists_congr fun argument => and_congr_left fun _ => ?_
  simp only [Function.comp_apply, Bool.and_eq_true, Bool.not_eq_true']
  constructor
  · rintro ⟨declared, ⟨required, absent⟩, first⟩
    refine ⟨declared, required, (isNone_find_of_required required).mp absent, ?_⟩
    intro m before other declared required
    have passed := first m before other declared
    by_contra absent
    simp [required, (isNone_find_of_required required).mpr absent] at passed
  · rintro ⟨declared, required, missing, earlier⟩
    refine ⟨declared, ⟨required, (isNone_find_of_required required).mpr missing⟩, ?_⟩
    intro m before other declared
    cases kind : other.optional with
    | true => rfl
    | false =>
      have captured := earlier m before other declared kind
      refine Bool.eq_false_iff.mpr fun absent => ?_
      exact (isNone_find_of_required kind).mp absent captured

/-- A complete extraction has a field for each argument, with a text when the argument is
required. -/
theorem values_of_extract (distinct : (arguments.map Argument.id).Nodup)
    (succeeded : (compiled.extract arguments message).succeeded = true) :
    (Json.Fields.keys (compiled.extract arguments message).values).Perm
        (arguments.map Argument.id) ∧
      ∀ argument ∈ arguments, argument.optional = false → ∃ text,
        Json.Fields.get? argument.id (compiled.extract arguments message).values =
          some (some text) := by
  obtain ⟨values, extracted⟩ := Extraction.succeeded_iff.mp succeeded
  obtain ⟨captures, -, complete, yielded⟩ := extract_eq_complete_iff.mp extracted
  rw [extracted]
  refine ⟨?_, fun argument member required => ?_⟩
  · show (Json.Fields.keys values).Perm _
    exact yielded ▸ keys_sort_findings_perm distinct
  · obtain ⟨index, here⟩ := List.mem_iff_getElem?.mp member
    have declared : Argument.withOrdinal? arguments (index + 1) = some argument := here
    obtain ⟨text, found⟩ :=
      Option.isSome_iff_exists.mp ((complete _ _ declared).2 required)
    exact ⟨text, found ▸ get?_yielded distinct yielded declared⟩

end Compiled

/-! ### Every outcome -/

namespace Extraction

theorem toldApart_error (error : CompileError) (arguments : List Argument) (message : String) :
    ToldApart (.error error) arguments message (.notCompiled error) := by
  have unmatched (compiled : Compiled) (captures : List Pattern.Capture) :
      ¬ Matched (.error error) message compiled captures := fun matched => nomatch matched.compiles
  constructor <;> simp [isCompiled, compileError?, isMismatch, inconsistencies, missing?,
    Extraction.succeeded, values, unmatched]

theorem toldApart_unmatched (unmatched : compiled.pattern.captures? message.toList = none)
    (arguments : List Argument) : ToldApart (.ok compiled) arguments message .mismatch := by
  have unmatched' (other : Compiled) (captures : List Pattern.Capture) :
      ¬ Matched (.ok compiled) message other captures := by
    rintro ⟨same, matched⟩
    obtain rfl := Except.ok.inj same
    rw [unmatched] at matched
    contradiction
  constructor <;> simp [isCompiled, compileError?, isMismatch, inconsistencies, missing?,
    Extraction.succeeded, values, unmatched, unmatched']

theorem toldApart_matched (distinct : (arguments.map Argument.id).Nodup)
    (matched : compiled.pattern.captures? message.toList = some captures) :
    ToldApart (.ok compiled) arguments message (compiled.extract arguments message) := by
  -- The command and the captures are determined, so what is said of some holds of these.
  have alone (other : Compiled) (others : List Pattern.Capture) :
      Matched (.ok compiled) message other others ↔ other = compiled ∧ others = captures := by
    constructor
    · rintro ⟨same, captured⟩
      obtain rfl := Except.ok.inj same
      exact ⟨rfl, Option.some.inj (captured.symm.trans matched)⟩
    · rintro ⟨rfl, rfl⟩
      exact ⟨rfl, matched⟩
  obtain ⟨isCompiled, noMismatch⟩ : (compiled.extract arguments message).isCompiled = true ∧
      (compiled.extract arguments message).isMismatch = false := Compiled.flags_extract matched
  constructor
  · exact isCompiled_eq_false_iff
  · have noError := mt isCompiled_eq_false_iff.mpr (Bool.not_eq_false _ ▸ isCompiled)
    simpa [Option.isSome_iff_exists] using noError
  · simp [noMismatch, matched]
  · simp [alone, Compiled.inconsistencies_extract_ne_nil_iff matched]
  · simp [alone, Compiled.missing?_extract_eq_some_iff matched]
  · simp [alone, succeeded_iff_flags, isCompiled, noMismatch]
  · exact values_eq_nil
  · exact fun succeeded => (Compiled.values_of_extract distinct succeeded).1
  · exact fun succeeded => (Compiled.values_of_extract distinct succeeded).2

end Extraction

/-- Whatever the cache keeps, the flags of an extraction say what the outcome of compiling is,
whether the message matches, and what is wrong with it; there are values only on success, and then
one for each argument and a text for each required one. -/
theorem extract_toldApart [Pattern.Builder] (distinct : (arguments.map Argument.id).Nodup)
    (sigil source message : String) (cache : Cache) :
    (extract sigil arguments source message cache).1.ToldApart
      (Cache.getOrCompile sigil arguments source cache).1 arguments message := by
  rw [extract_apply, Cache.fst_getOrCompile]
  cases cache.answer sigil arguments source with
  | error error => exact Extraction.toldApart_error error arguments message
  | ok compiled =>
    show Extraction.ToldApart _ _ _ (compiled.extract arguments message)
    cases matched : compiled.pattern.captures? message.toList with
    | none =>
      rw [Compiled.extract_of_unmatched matched]
      exact Extraction.toldApart_unmatched matched arguments
    | some captures => exact Extraction.toldApart_matched distinct matched

open scoped Pattern.Limits in
/-- A syntax string that was compiled while the reason was optional: the reason is missing now, and
the time is only partly supplied besides. -/
theorem extract_toldApart_mute : ∃ cache,
    cache.get? ⟨"!", "<prefix>mute $1{opt $2}[ for $2]{opt $3}[ at]{opt $3}[ sharp $3]"⟩ =
      some (compile "!"
        [.required "who" "Who", .ofOptional "why" "Why", .ofOptional "time" "Time"]
        "<prefix>mute $1{opt $2}[ for $2]{opt $3}[ at]{opt $3}[ sharp $3]") ∧
    (extract "!" [.required "who" "Who", .required "why" "Why", .ofOptional "time" "Time"]
      "<prefix>mute $1{opt $2}[ for $2]{opt $3}[ at]{opt $3}[ sharp $3]" "!mute Bob at"
      cache).1.ToldApart
      (Cache.getOrCompile "!"
        [.required "who" "Who", .required "why" "Why", .ofOptional "time" "Time"]
        "<prefix>mute $1{opt $2}[ for $2]{opt $3}[ at]{opt $3}[ sharp $3]" cache).1
      [.required "who" "Who", .required "why" "Why", .ofOptional "time" "Time"] "!mute Bob at" ∧
    (extract "!" [.required "who" "Who", .required "why" "Why", .ofOptional "time" "Time"]
      "<prefix>mute $1{opt $2}[ for $2]{opt $3}[ at]{opt $3}[ sharp $3]" "!mute Bob at" cache).1 =
      .inconsistent ⟨"Time", 2, false⟩ [⟨"Time", 1, true⟩] (some "why") := by
  have compiles : compile "!"
      [.required "who" "Who", .ofOptional "why" "Why", .ofOptional "time" "Time"]
      "<prefix>mute $1{opt $2}[ for $2]{opt $3}[ at]{opt $3}[ sharp $3]" =
      .ok ⟨"!", .sigil (.literal "mute ".toList (.argument 1
        (.keyOff 2 (.literal " for ".toList (.argument 2 .nil))
          (.keyOff 3 (.literal " at".toList .nil)
            (.keyOff 3 (.literal " sharp ".toList (.argument 3 .nil)) .nil)))))⟩ :=
    compile_eq_ok_iff.mpr ⟨rfl, by cbv, by decide⟩
  rw [compiles]
  refine ⟨⟨[(⟨"!", "<prefix>mute $1{opt $2}[ for $2]{opt $3}[ at]{opt $3}[ sharp $3]"⟩,
    .ok ⟨"!", .sigil (.literal "mute ".toList (.argument 1
      (.keyOff 2 (.literal " for ".toList (.argument 2 .nil))
        (.keyOff 3 (.literal " at".toList .nil)
          (.keyOff 3 (.literal " sharp ".toList (.argument 3 .nil)) .nil)))))⟩)], 0, 1⟩, ?_,
    extract_toldApart (by decide) _ _ _ _, ?_⟩
  · simp [Cache.get?]
  · cbv

end ChatCommand
