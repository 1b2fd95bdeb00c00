import ChatCommand.Pattern.Limits
import ChatCommand.Proofs.Command.Routing
import ChatCommand.Proofs.Compiled.LetterCase
import ChatCommand.Proofs.Compiled.PartlySupplied

/-!
# Which commands can be invoked

Without warnings, there are messages from which all arguments of a command are extracted. Yet
dispatch trims the message first and takes the whole first word for the name, so it never presents a
message that ends with white space, or one in which the name goes on. A command can be invoked just
when some other message remains.

## Main definitions

- `Registry.pastSyntax`: the answers that are not about the syntax of a command.
- `Compiled.Presentable`: the messages that reach a command as they were sent.
- `Compiled.fullMessage`: the message in which everything is there.

## Main results

- `Session.exists_pastSyntax_iff`: when a command without warnings can be invoked.
- `Session.not_forall_exists_pastSyntax`: a command without warnings may be out of reach.
-/

namespace ChatCommand

open Template (Split)

/-- What the command compiles to under a prefix. -/
def Registered.under (command : Registered) (sigil : String) : Compiled :=
  ⟨sigil, command.template⟩

@[simp]
theorem Registered.under_sigil (command : Registered) (sigil : String) :
    (command.under sigil).sigil = sigil := rfl

/-- The answer is past the syntax of a command: whatever is still wrong is in its arguments. -/
def Registry.pastSyntax : Except InvocationError Invocation → Bool
  | .ok _ | .error (.invalidArguments _ _) => true
  | .error _ => false

namespace Compiled

/-- The message reaches the command as it was sent, since there is nothing to trim and what stands
for the name is its whole first word. -/
structure Presentable (compiled : Compiled) (message : List Char) : Prop where
  trimmed : Text.trim message = message
  whole : Text.firstWord? (message.drop compiled.sigil.toList.length) =
    compiled.spelledName? message

/-- The message in which all blocks are there and each argument is a single character. -/
def fullMessage (compiled : Compiled) : List Char :=
  (Split.full compiled.sigil.toList compiled.template).message

variable {compiled : Compiled} {arguments : List Argument} {message : String}
  {text first : List Char} {rest : Template}

/-- When no argument is warned about, all of them are extracted from the message in which everything
is there. -/
theorem succeeded_full (wellFormed : compiled.template.WellFormed arguments)
    (unwarned : ∀ n argument, Argument.withOrdinal? arguments n = some argument →
      Definition.lintArgument compiled.template n argument = none) :
    (compiled.extract arguments (String.ofList compiled.fullMessage)).succeeded = true := by
  have matched : compiled.pattern.captures? (String.ofList compiled.fullMessage).toList =
      some ((Split.full compiled.sigil.toList compiled.template).captures [] 0) := by
    rw [String.toList_ofList]
    exact Template.captures?_full compiled.sigil compiled.template
  -- No other split of this message comes first, so everything in it is captured.
  apply (succeeded_extract_iff matched).mpr
  intro n argument declared
  obtain ⟨consistent, supplied⟩ := find_full wellFormed declared (unwarned n argument declared)
  exact ⟨consistent, fun _ => supplied⟩

/-- The message in which everything is there opens with the prefix and the name. -/
theorem exists_fullMessage_eq (shape : compiled.template = .sigil (.literal text rest))
    (named : Text.firstWord? text = some first) :
    ∃ tail, compiled.fullMessage = compiled.sigil.toList ++ tail ∧
      compiled.spelledName? compiled.fullMessage = some first := by
  obtain ⟨sigil, template⟩ := compiled
  obtain rfl : template = .sigil (.literal text rest) := shape
  have opens : fullMessage ⟨sigil, .sigil (.literal text rest)⟩ =
      sigil.toList ++ (text ++ (Split.full sigil.toList rest).message) := rfl
  refine ⟨_, opens, ?_⟩
  unfold spelledName?
  rw [opens, List.drop_left, Template.lead_sigil_literal, List.take_left, named]

/-- When all arguments are extracted from a presentable message, so they are from one that is
trimmed and has the prefix and the name, as a word of its own, in the letters of the template. -/
theorem Presentable.exists_exact (presentable : compiled.Presentable message.toList)
    (shape : compiled.template = .sigil (.literal text rest))
    (named : Text.firstWord? text = some first)
    (succeeded : (compiled.extract arguments message).succeeded = true) :
    ∃ tail, Text.firstWord? tail = some first ∧
      Text.trim (compiled.sigil.toList ++ tail) = compiled.sigil.toList ++ tail ∧
      (compiled.extract arguments
        (String.ofList (compiled.sigil.toList ++ tail))).succeeded = true := by
  obtain ⟨captures, matched, -⟩ := exists_complete_of_succeeded succeeded
  have matched := Option.isSome_of_eq_some matched
  obtain ⟨opening, spelled, after, message_eq, sameOpening, sameText, body⟩ :=
    Registry.exists_opening shape matched
  obtain ⟨word, extra, stands, folded, -⟩ := Registry.exists_spelledName? shape named matched
  have whole := presentable.whole.trans stands
  -- Only the letter case of the opening changes, so the same is extracted.
  have sameBody : (text ++ after.message).map Text.fold =
      (spelled ++ after.message).map Text.fold := by
    rw [List.map_append, List.map_append, sameText]
  have same : (compiled.sigil.toList ++ (text ++ after.message)).map Text.fold =
      message.toList.map Text.fold := by
    rw [message_eq, List.map_append, sameBody, ← sameOpening, ← List.map_append]
  have trimmed := Text.trim_eq_self_of_map_fold same presentable.trimmed
  refine ⟨text ++ after.message, ?_, trimmed, ?_⟩
  · -- The name could go on behind the literal, but the word is as long as in the message.
    rw [body] at whole
    obtain ⟨name, opens, agrees⟩ := Text.exists_firstWord?_of_map_fold sameBody whole
    obtain ⟨more, goesOn⟩ := Text.exists_firstWord?_append named after.message
    obtain rfl : name = first ++ more := Option.some.inj (opens.symm.trans goesOn)
    have sized : (first ++ more).length = first.length := by
      simpa using congrArg List.length (agrees.trans folded)
    have alone : more = [] := by simpa using sized
    rw [goesOn, alone, List.append_nil]
  · apply succeeded_of_map_fold _ succeeded
    rw [String.toList_ofList]
    exact same.symm

end Compiled

/-! ### Past the syntax -/

namespace Registry

variable {command : Registered} {compiled : Compiled} {sigil message : String} {cache : Cache}

/-- A command answers past its syntax when all arguments are extracted. -/
theorem pastSyntax_invoke_iff [Pattern.Builder]
    (kept : cache.get? ⟨sigil, command.definition.source⟩ = some (.ok compiled)) :
    pastSyntax (invoke command sigil message cache).1 = true ↔
      (compiled.extract command.definition.arguments message).succeeded = true := by
  have extracted : (extract sigil command.definition.arguments command.definition.source message
      cache).1 = compiled.extract command.definition.arguments message := by
    unfold extract
    rw [Cache.bind_apply, Cache.getOrCompile_of_kept kept]
    rfl
  unfold invoke
  rw [Cache.bind_apply, extracted]
  cases compiled.extract command.definition.arguments message with
  | complete values =>
    refine iff_of_true ?_ rfl
    dsimp only
    cases command.specification.run _ <;> rfl
  | notCompiled | mismatch | inconsistent | incomplete => exact iff_of_false nofun nofun

/-- An answer is past the syntax when the first word names a command and that command answers so. -/
theorem pastSyntax_dispatch_iff [Pattern.Builder] {registry : Registry}
    (trimmed : Text.trim message.toList = message.toList) :
    pastSyntax (registry.dispatch sigil message cache).1 = true ↔
      ∃ word command, addressed? sigil message.toList = some word ∧
        registry.get? (String.ofList word) = some command ∧
        pastSyntax (invoke command sigil message cache).1 = true := by
  cases addressed : addressed? sigil message.toList with
  | none =>
    refine iff_of_false ?_ nofun
    unfold dispatch
    simp only [trimmed, addressed]
    exact nofun
  | some word =>
    simp only [Option.some.injEq, exists_and_left, exists_eq_left']
    cases found : registry.get? (String.ofList word) with
    | none =>
      refine iff_of_false ?_ nofun
      unfold dispatch
      simp only [trimmed, addressed, found]
      exact nofun
    | some command => simp [dispatch_of_get? trimmed addressed found]

/-- Only the trimmed message counts. -/
theorem dispatch_trim [Pattern.Builder] (registry : Registry) (sigil message : String)
    (cache : Cache) :
    registry.dispatch sigil (String.ofList (Text.trim message.toList)) cache =
      registry.dispatch sigil message cache := by
  unfold dispatch
  simp only [String.toList_ofList, Text.trim_trim]

/-- The word addressed is the first one behind the prefix. -/
theorem firstWord?_of_addressed? {text word : List Char}
    (addressed : addressed? sigil text = some word) :
    Text.firstWord? (text.drop sigil.toList.length) = some word := by
  obtain ⟨body, opening, found⟩ := Option.bind_eq_some_iff.mp addressed
  obtain ⟨spelled, rfl, same⟩ := Text.after?_eq_some_iff.mp opening
  have sized : sigil.toList.length = spelled.length := by
    simpa using congrArg List.length (Text.sameAscii_iff.mp same)
  rw [sized, List.drop_left]
  exact found

end Registry

namespace Session

open Registry (addressed? pastSyntax)

section Builder

variable [Pattern.Builder]

/-- The answer to a message under the prefix of the registry. -/
def answer (session : Session) (message : String) : Except InvocationError Invocation :=
  (session.registry.dispatch session.registry.sigil message session.cache).1

variable {sigil : String} {definition : Definition} {command : Registered} {message : String}
  {text first tail : List Char} {rest : Template}

theorem answer_trim (session : Session) (message : String) :
    session.answer (String.ofList (Text.trim message.toList)) = session.answer message :=
  congrArg Prod.fst (session.registry.dispatch_trim _ message session.cache)

/-- The only command of a registry answers past its syntax when the first word of the message is its
name, in any letter case, and all arguments are extracted. -/
theorem pastSyntax_answer_iff (accepted : (fresh sigil).outcome definition = .ok command)
    (trimmed : Text.trim message.toList = message.toList) :
    pastSyntax (((fresh sigil).register definition).answer message) = true ↔
      ∃ word, addressed? sigil message.toList = some word ∧
        Text.lowercase (String.ofList word) = Text.lowercase definition.name ∧
        ((command.under sigil).extract definition.arguments message).succeeded = true := by
  obtain ⟨alone, kept⟩ := register_fresh accepted
  obtain ⟨-, -, shape⟩ := outcome_fresh_eq_ok_iff.mp accepted
  have same : command.definition = definition := congrArg Registered.definition shape
  have built : ((fresh sigil).register definition).registry.Built :=
    (built_after sigil [definition]).1
  have sigil_eq : ((fresh sigil).register definition).registry.sigil = sigil :=
    congrArg Registry.sigil alone
  have registered : (Text.lowercase definition.name, command) ∈
      ((fresh sigil).register definition).registry.commands := by
    rw [alone]
    exact List.mem_singleton_self _
  have found_iff (word : List Char) :
      ((fresh sigil).register definition).registry.get? (String.ofList word) = some command ↔
        Text.lowercase (String.ofList word) = Text.lowercase definition.name := by
    rw [built.get?_eq_some_iff registered, same]
  have passed_iff : pastSyntax (Registry.invoke command sigil message
        ((fresh sigil).register definition).cache).1 = true ↔
      ((command.under sigil).extract definition.arguments message).succeeded = true := by
    rw [← same] at kept ⊢
    exact Registry.pastSyntax_invoke_iff kept
  unfold answer
  rw [sigil_eq, Registry.pastSyntax_dispatch_iff trimmed]
  constructor
  · rintro ⟨word, other, addressed, found, passed⟩
    -- Nothing else is registered, so what is found is the command itself.
    have only : other = command := by
      have member := Json.Fields.mem_of_get? found
      rw [alone] at member
      exact (Prod.mk.inj (List.mem_singleton.mp member)).2
    subst only
    exact ⟨word, addressed, (found_iff word).mp found, passed_iff.mp passed⟩
  · rintro ⟨word, addressed, lower, succeeded⟩
    exact ⟨word, command, addressed, (found_iff word).mpr lower, passed_iff.mpr succeeded⟩

/-- A command that a fresh registry accepted without warnings opens with its name, behind the
prefix. -/
theorem exists_lead (accepted : (fresh sigil).outcome definition = .ok command)
    (clean : command.warnings = []) :
    ∃ text rest first, (command.under sigil).template = .sigil (.literal text rest) ∧
      Text.firstWord? text = some first ∧
      Text.lowercase (String.ofList first) = Text.lowercase definition.name := by
  obtain ⟨-, compiles, shape⟩ := outcome_fresh_eq_ok_iff.mp accepted
  have read := (compile_eq_ok_iff.mp compiles).2.1
  rw [shape] at clean
  obtain ⟨text, rest, first, opens, named, sameName⟩ := Registry.exists_shape_of_clean read clean
  refine ⟨text, rest, first, opens, named, Text.lowercase_of_sameAscii ?_⟩
  rw [String.toList_ofList]
  exact sameName

/-- A message whose answer is past the syntax is presentable once it is trimmed. -/
theorem exists_presentable_of_pastSyntax
    (accepted : (fresh sigil).outcome definition = .ok command) (clean : command.warnings = [])
    (passed : pastSyntax (((fresh sigil).register definition).answer message) = true) :
    ∃ message : String,
      ((command.under sigil).extract definition.arguments message).succeeded = true ∧
        (command.under sigil).Presentable message.toList := by
  -- The message can be taken as trimmed, since no other is ever matched.
  rw [← answer_trim] at passed
  have trimmed : Text.trim (String.ofList (Text.trim message.toList)).toList =
      (String.ofList (Text.trim message.toList)).toList := by
    rw [String.toList_ofList, Text.trim_trim]
  generalize String.ofList (Text.trim message.toList) = message at passed trimmed
  obtain ⟨word, addressed, lower, succeeded⟩ :=
    (pastSyntax_answer_iff accepted trimmed).mp passed
  obtain ⟨text, rest, first, shape, named, lowerFirst⟩ := exists_lead accepted clean
  obtain ⟨captures, matched, -⟩ := Compiled.exists_complete_of_succeeded succeeded
  obtain ⟨spelled, extra, stands, folded, body⟩ :=
    Registry.exists_spelledName? shape named (Option.isSome_of_eq_some matched)
  have opens := Registry.firstWord?_of_addressed? addressed
  obtain rfl : spelled ++ extra = word := Option.some.inj (body.symm.trans opens)
  refine ⟨message, succeeded, trimmed, ?_⟩
  -- The word has the name's lower-case form, so it cannot go on behind what stands for the name.
  have alone : extra = [] := by
    by_contra goesOn
    exact Text.lowercase_append_ne folded goesOn (lower.trans lowerFirst.symm)
  rw [body, stands, alone, List.append_nil]

/-- A message that opens with the prefix and the name just as they are written is answered past the
syntax, when the name is a word of its own and all arguments are extracted. -/
theorem pastSyntax_of_exact (accepted : (fresh sigil).outcome definition = .ok command)
    (lower : Text.lowercase (String.ofList first) = Text.lowercase definition.name)
    (spelledOut : message.toList = sigil.toList ++ tail)
    (whole : Text.firstWord? tail = some first)
    (trimmed : Text.trim message.toList = message.toList)
    (succeeded : ((command.under sigil).extract definition.arguments message).succeeded = true) :
    pastSyntax (((fresh sigil).register definition).answer message) = true := by
  refine (pastSyntax_answer_iff accepted trimmed).mpr ⟨first, ?_, lower, succeeded⟩
  have prefixCase : Text.sameAscii sigil.toList
      (message.toList.take sigil.toList.length) = true := by
    rw [spelledOut, List.take_left]
    exact Text.sameAscii_refl _
  rw [Registry.addressed?_of_prefixCase prefixCase, spelledOut, List.drop_left, whole]

/-- When a presentable message is extracted, so is one in which the prefix and the name are written
just as they are, and it is answered past the syntax. -/
theorem exists_pastSyntax_of_presentable
    (accepted : (fresh sigil).outcome definition = .ok command) (clean : command.warnings = [])
    (succeeded : ((command.under sigil).extract definition.arguments message).succeeded = true)
    (presentable : (command.under sigil).Presentable message.toList) :
    ∃ message, pastSyntax (((fresh sigil).register definition).answer message) = true := by
  obtain ⟨text, rest, first, shape, named, lower⟩ := exists_lead accepted clean
  obtain ⟨tail, whole, trimmed, succeeded⟩ := presentable.exists_exact shape named succeeded
  refine ⟨String.ofList (sigil.toList ++ tail), ?_⟩
  apply pastSyntax_of_exact accepted lower String.toList_ofList whole _ succeeded
  rw [String.toList_ofList]
  exact trimmed

theorem wellFormed_of_outcome (accepted : (fresh sigil).outcome definition = .ok command) :
    (command.under sigil).template.WellFormed definition.arguments := by
  obtain ⟨-, compiles, -⟩ := outcome_fresh_eq_ok_iff.mp accepted
  obtain ⟨body, opens, lawful, once⟩ :=
    Template.lawful_of_parse (compile_eq_ok_iff.mp compiles).2.1
  have opens : (command.under sigil).template = .sigil body := opens
  rw [opens]
  exact lawful.wellFormed once

/-- From the message in which everything is there all arguments are extracted. -/
theorem succeeded_fullMessage (accepted : (fresh sigil).outcome definition = .ok command)
    (clean : command.warnings = []) :
    ((command.under sigil).extract definition.arguments
      (String.ofList (command.under sigil).fullMessage)).succeeded = true := by
  have silent : definition.lint (command.under sigil).template = [] := by
    obtain ⟨-, -, shape⟩ := outcome_fresh_eq_ok_iff.mp accepted
    rw [shape] at clean
    exact clean
  apply Compiled.succeeded_full (wellFormed_of_outcome accepted)
  intro n argument declared
  apply Definition.lintArgument_eq_none _ declared
  intro warning member
  rw [silent] at member
  contradiction

/-- A command without warnings can be invoked just when there is a presentable message from which
all its arguments are extracted. They are extracted from the message in which everything is there,
so it is enough that this one does not end with white space and that the name is a word of its own
there. -/
theorem exists_pastSyntax_iff (filled : sigil ≠ "")
    (solid : ∀ c ∈ sigil.toList, Text.isBlank c = false)
    (accepted : (fresh sigil).outcome definition = .ok command) (clean : command.warnings = []) :
    ((∃ message, pastSyntax (((fresh sigil).register definition).answer message) = true) ↔
      ∃ message : String,
        ((command.under sigil).extract definition.arguments message).succeeded = true ∧
          (command.under sigil).Presentable message.toList) ∧
    ((command.under sigil).extract definition.arguments
      (String.ofList (command.under sigil).fullMessage)).succeeded = true ∧
    (Text.trimEnd (command.under sigil).fullMessage = (command.under sigil).fullMessage →
      Text.firstWord? ((command.under sigil).fullMessage.drop sigil.toList.length) =
        (command.under sigil).spelledName? (command.under sigil).fullMessage →
      pastSyntax (((fresh sigil).register definition).answer
        (String.ofList (command.under sigil).fullMessage)) = true) := by
  have succeeded := succeeded_fullMessage accepted clean
  refine ⟨⟨?_, ?_⟩, succeeded, ?_⟩
  · rintro ⟨message, passed⟩
    exact exists_presentable_of_pastSyntax accepted clean passed
  · rintro ⟨message, succeeded, presentable⟩
    exact exists_pastSyntax_of_presentable accepted clean succeeded presentable
  · intro bare whole
    obtain ⟨text, rest, first, shape, named, lower⟩ := exists_lead accepted clean
    obtain ⟨tail, spelledOut, stands⟩ := Compiled.exists_fullMessage_eq shape named
    rw [stands, spelledOut, Registered.under_sigil, List.drop_left] at whole
    -- The prefix keeps the message from beginning with white space.
    have opens : Text.trimStart (command.under sigil).fullMessage =
        (command.under sigil).fullMessage := by
      obtain ⟨c, more, sigil_eq⟩ :=
        List.exists_cons_of_ne_nil (mt String.toList_eq_nil_iff.mp filled)
      apply Text.dropWhile_of_opensOutside
      rw [spelledOut, Registered.under_sigil, sigil_eq]
      exact solid c (sigil_eq ▸ List.mem_cons_self)
    apply pastSyntax_of_exact accepted lower _ whole _ succeeded
    · rw [String.toList_ofList, spelledOut, Registered.under_sigil]
    · rw [String.toList_ofList, Text.trim, opens, bare]

end Builder

open scoped Pattern.Limits in
/-- With its reason the command is out of reach, but it can be invoked without. -/
theorem exists_pastSyntax_iff_ban : ∃ definition command,
    definition = ⟨"ban", "<prefix>ban{opt $1}[ for $1 ]", none, [.ofOptional "why" "Why"]⟩ ∧
      (fresh "!").outcome definition = .ok command ∧ command.warnings = [] ∧
      (command.under "!").fullMessage = "!ban for x ".toList ∧
      ∃ message, pastSyntax (((fresh "!").register definition).answer message) = true := by
  have compiles : compile "!" [.ofOptional "why" "Why"] "<prefix>ban{opt $1}[ for $1 ]" =
      .ok ⟨"!", .sigil (.literal "ban".toList (.keyOff 1
        (.literal " for ".toList (.argument 1 (.literal " ".toList .nil))) .nil))⟩ :=
    compile_eq_ok_iff.mpr ⟨rfl, by cbv, by decide⟩
  have accepted : (fresh "!").outcome
      ⟨"ban", "<prefix>ban{opt $1}[ for $1 ]", none, [.ofOptional "why" "Why"]⟩ = .ok _ :=
    outcome_fresh_of_compile (by cbv) (List.nodup_singleton "why") compiles
  refine ⟨_, _, rfl, accepted, by cbv, by cbv, ?_⟩
  have solid : ∀ c ∈ "!".toList, Text.isBlank c = false := by simp [Text.isBlank]
  exact (exists_pastSyntax_iff (by decide) solid accepted (by cbv)).1.mpr
    ⟨"!ban", by cbv, by cbv, by cbv⟩

open scoped Pattern.Limits in
/-- A command without warnings may be out of reach, since its syntax ends with white space. -/
theorem not_forall_exists_pastSyntax : ¬ ∀ sigil definition command, sigil ≠ "" →
    (∀ c ∈ sigil.toList, Text.isBlank c = false) →
    (fresh sigil).outcome definition = .ok command → command.warnings = [] →
    ∃ message, pastSyntax (((fresh sigil).register definition).answer message) = true := by
  intro reachable
  have compiles : compile "!" [] "<prefix>ban " = .ok ⟨"!", .sigil (.literal "ban ".toList .nil)⟩ :=
    compile_eq_ok_iff.mpr ⟨rfl, by cbv, by decide⟩
  have accepted : (fresh "!").outcome ⟨"ban", "<prefix>ban ", none, []⟩ = .ok _ :=
    outcome_fresh_of_compile (by cbv) .nil compiles
  have solid : ∀ c ∈ "!".toList, Text.isBlank c = false := by simp [Text.isBlank]
  obtain ⟨message, passed⟩ := reachable "!" _ _ (by decide) solid accepted (by cbv)
  obtain ⟨message, succeeded, presentable⟩ :=
    exists_presentable_of_pastSyntax accepted (by cbv) passed
  obtain ⟨captures, matched, -⟩ := Compiled.exists_complete_of_succeeded succeeded
  obtain ⟨opening, spelled, after, message_eq, sameOpening, sameText, -⟩ :=
    Registry.exists_opening rfl (Option.isSome_of_eq_some matched)
  cases after
  -- A message that matches agrees with the syntax string up to letter case, so it is not trimmed.
  have same : "!ban ".toList.map Text.fold = message.toList.map Text.fold := by
    rw [message_eq, List.map_append, List.map_append, sameOpening, sameText]
    rfl
  have trimmed := Text.trim_eq_self_of_map_fold same presentable.trimmed
  have blank : Text.trim "!ban ".toList = "!ban".toList := by cbv
  exact absurd (blank.symm.trans trimmed) (by decide)

end Session

end ChatCommand
