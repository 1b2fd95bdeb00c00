import ChatCommand.Command.Dispatch
import ChatCommand.Pattern.Limits
import ChatCommand.Proofs.Command.Built
import ChatCommand.Proofs.Compiled.Binding
import ChatCommand.Proofs.Compiled.CacheRun
import Mathlib.Data.List.Induction

/-!
# Invocations

A message that invokes a command names it with its first word, and there is no other command that
this word names. The arguments of the invocation are those that the command's definition declares,
and the required ones have a value. None of this depends on what the caches kept, neither when the
definitions were registered nor when the message came: an outcome kept for other arguments can at
most make an extraction fail.

## Main definitions

- `Registration`, `Registry.registerAll`: definitions registered one after another.
- `IsNamedBy`: a message names a command.
- `Invocation.Fulfils`: an invocation with all that a definition asks for.

## Main results

- `Registry.holds_registerAll`: what a registry holds after any registrations.
- `Registry.invoke_eq_ok_iff`, `Registry.dispatch_eq_ok_iff`: when a message invokes a command.
- `Registry.exists_fulfils_of_dispatch`: every invocation is one of the command named, and complete.
-/

namespace ChatCommand

open Json.Fields (get? keys)

/-- A definition with the cache that it is registered under. -/
structure Registration where
  definition : Definition
  cache : Cache

/-- A message names a command: its first word behind the prefix, which stands there in any ASCII
case, has the same lower-case form as the name. -/
def IsNamedBy (sigil message name : String) : Prop :=
  ∃ opening body word, Text.trim message.toList = opening ++ body ∧
    Text.sameAscii sigil.toList opening = true ∧ Text.firstWord? body = some word ∧
    Text.lowercase name = Text.lowercase (String.ofList word)

/-- The invocation has the name of the definition, the arguments that it declares and no other, and
a value for each required one. -/
structure Invocation.Fulfils (invocation : Invocation) (definition : Definition) : Prop where
  command_eq : invocation.command = definition.name
  keys_perm : (keys invocation.arguments).Perm (definition.arguments.map Argument.id)
  required : ∀ argument ∈ definition.arguments, argument.optional = false →
    ∃ value, get? argument.id invocation.arguments = some value ∧ value ≠ .null

namespace Registry

variable {registry : Registry} {command : Registered} {given : List Definition}
  {home sigil message : String} {cache : Cache} {invocation : Invocation}

/-! ### Registrations -/

/-- The registry after definitions were registered one after another. -/
def registerAll [Pattern.Builder] (home : String) (registrations : List Registration) : Registry :=
  registrations.foldl
    (fun registry registration =>
      (registry.register registration.definition registration.cache).1.1)
    (.empty home)

/-- The commands are made of given definitions, each kept under its own name in lower case. -/
structure Holds (given : List Definition) (registry : Registry) : Prop where
  distinct : (keys registry.commands).Nodup
  key_eq : ∀ key command, (key, command) ∈ registry.commands →
    key = Text.lowercase command.definition.name
  origin : ∀ key command, (key, command) ∈ registry.commands → command.definition ∈ given
  ids : ∀ key command, (key, command) ∈ registry.commands →
    (command.definition.arguments.map Argument.id).Nodup

theorem Holds.mono (holds : registry.Holds given) (definition : Definition) :
    registry.Holds (given ++ [definition]) where
  distinct := holds.distinct
  key_eq := holds.key_eq
  origin := fun key command member => List.mem_append_left _ (holds.origin key command member)
  ids := holds.ids

theorem Holds.register [Pattern.Builder] (holds : registry.Holds given) (definition : Definition)
    (cache : Cache) :
    (registry.register definition cache).1.1.Holds (given ++ [definition]) := by
  rcases registry.register_cases definition cache with
    ⟨-, error, called, -⟩ | ⟨-, error, -, called⟩ | ⟨admits, compiled, -, called⟩
  · rw [called]
    exact holds.mono definition
  · rw [called]
    exact holds.mono definition
  · -- Whatever the cache answered, it has a say in the template only.
    have free : registry.get? (accepted definition compiled.template).definition.name = none :=
      admits.free
    rw [called]
    constructor
    · exact nodup_keys_add free holds.distinct
    · intro key command member
      rcases (mem_add_iff free).mp member with ⟨rfl, rfl⟩ | earlier
      · rfl
      · exact holds.key_eq key command earlier
    · intro key command member
      rcases (mem_add_iff free).mp member with ⟨rfl, rfl⟩ | earlier
      · exact List.mem_append_right _ List.mem_cons_self
      · exact List.mem_append_left _ (holds.origin key command earlier)
    · intro key command member
      rcases (mem_add_iff free).mp member with ⟨rfl, rfl⟩ | earlier
      · exact admits.distinct
      · exact holds.ids key command earlier

theorem holds_registerAll [Pattern.Builder] (home : String) (registrations : List Registration) :
    (registerAll home registrations).Holds (registrations.map Registration.definition) := by
  induction registrations using List.reverseRecOn with
  | nil => exact ⟨.nil, nofun, nofun, nofun⟩
  | append_singleton registrations registration ih =>
    rw [registerAll, List.foldl_append, List.map_append]
    exact ih.register registration.definition registration.cache

/-- Commands with one lower-case form of their names are the same command. -/
theorem Holds.unique (holds : registry.Holds given) {key otherKey : String} {other : Registered}
    (here : (key, command) ∈ registry.commands) (there : (otherKey, other) ∈ registry.commands)
    (same : Text.lowercase other.definition.name = Text.lowercase command.definition.name) :
    other = command := by
  -- The keys are the lower-case forms, and no key is there twice.
  rw [← holds.key_eq _ _ here, ← holds.key_eq _ _ there] at same
  have found := Json.Fields.get?_of_mem holds.distinct here
  rw [← same, Json.Fields.get?_of_mem holds.distinct there] at found
  exact Option.some.inj found

/-! ### Invocations -/

/-- A command is invoked when its arguments are extracted completely and pass all checks. -/
theorem invoke_eq_ok_iff [Pattern.Builder] :
    (invoke command sigil message cache).1 = .ok invocation ↔
      ∃ compiled, cache.answer sigil command.definition.arguments command.definition.source =
          .ok compiled ∧
        (compiled.extract command.definition.arguments message).succeeded = true ∧
        bind command.definition.arguments
          (compiled.extract command.definition.arguments message).valuesAsJson =
            .ok invocation.arguments ∧
        invocation.command = command.definition.name := by
  obtain ⟨name, arguments⟩ := invocation
  unfold invoke
  rw [Cache.bind_apply, extract_apply]
  cases cache.answer sigil command.definition.arguments command.definition.source with
  | error error => simp [Extraction.ofOutcome, pure, StateT.pure]
  | ok compiled =>
    simp only [Extraction.ofOutcome, Except.ok.injEq, exists_eq_left']
    cases extracted : compiled.extract command.definition.arguments message with
    | complete values =>
      dsimp only
      unfold Registered.specification bind
      cases (specification command.definition.arguments).run
        (some (.object (Extraction.complete values).valuesAsJson)) with
      | error failure => simp [pure, StateT.pure]
      | ok record => simp [pure, StateT.pure, Extraction.succeeded, eq_comm, and_comm]
    | _ => simp [pure, StateT.pure, Extraction.succeeded]

/-- A message invokes a command when it addresses it and the command is invoked by the message
without the white space around it. -/
theorem dispatch_eq_ok_iff [Pattern.Builder] :
    (registry.dispatch sigil message cache).1 = .ok invocation ↔
      ∃ word command, addressed? sigil (Text.trim message.toList) = some word ∧
        registry.get? (String.ofList word) = some command ∧
        (invoke command sigil (String.ofList (Text.trim message.toList)) cache).1 =
          .ok invocation := by
  unfold dispatch
  cases addressed? sigil (Text.trim message.toList) with
  | none => simp [pure, StateT.pure]
  | some word =>
    dsimp only
    cases found : registry.get? (String.ofList word) with
    | none => simp [found, pure, StateT.pure]
    | some command => simp [found]

theorem isNamedBy_iff {word : List Char} {name : String}
    (addressed : addressed? sigil (Text.trim message.toList) = some word) :
    IsNamedBy sigil message name ↔ Text.lowercase name = Text.lowercase (String.ofList word) := by
  unfold addressed? at addressed
  obtain ⟨body, behind, first⟩ := Option.bind_eq_some_iff.mp addressed
  constructor
  · rintro ⟨opening, other, second, cut, tagged, found, same⟩
    -- What stands behind the prefix is determined by the message, and so is its first word.
    have again := Text.after?_eq_some_iff.mpr ⟨opening, cut, tagged⟩
    obtain rfl := Option.some.inj (again.symm.trans behind)
    obtain rfl := Option.some.inj (found.symm.trans first)
    exact same
  · intro same
    obtain ⟨opening, cut, tagged⟩ := Text.after?_eq_some_iff.mp behind
    exact ⟨opening, body, word, cut, tagged, first, same⟩

/-- A record that was bound from a complete extraction has all that the definition asks for. -/
theorem fulfils_of_invoke [Pattern.Builder]
    (distinct : (command.definition.arguments.map Argument.id).Nodup)
    (declarable : ∀ argument ∈ command.definition.arguments, argument.Declarable)
    (invoked : (invoke command sigil message cache).1 = .ok invocation) :
    invocation.Fulfils command.definition := by
  obtain ⟨compiled, -, succeeded, bound, named⟩ := invoke_eq_ok_iff.mp invoked
  have covers := Extraction.covers_extract distinct succeeded
  have handsOver := covers.handsOver declarable distinct bound
  refine ⟨named, handsOver.keys_perm, ?_⟩
  intro argument member required
  have supplied := (covers.supplied argument member).resolve_left (by simp [required])
  obtain ⟨text, extracted⟩ := Option.isSome_iff_exists.mp supplied
  obtain ⟨value, -, filled, kept⟩ := handsOver.given argument member text extracted
  exact ⟨value, kept, filled⟩

/-- Whatever definitions were registered, and whatever the caches kept, a message that invokes a
command names it and no other one, and the invocation has all that the definition of this command
asks for. -/
theorem exists_fulfils_of_dispatch [Pattern.Builder] {registrations : List Registration}
    (declarable : ∀ registration ∈ registrations,
      ∀ argument ∈ registration.definition.arguments, argument.Declarable)
    (answered : ((registerAll home registrations).dispatch sigil message cache).1 =
      .ok invocation) :
    ∃ key command, (key, command) ∈ (registerAll home registrations).commands ∧
      command.definition ∈ registrations.map Registration.definition ∧
      (∀ otherKey other, (otherKey, other) ∈ (registerAll home registrations).commands →
        (IsNamedBy sigil message other.definition.name ↔ other = command)) ∧
      invocation.Fulfils command.definition := by
  have holds := holds_registerAll home registrations
  obtain ⟨word, command, addressed, found, invoked⟩ := dispatch_eq_ok_iff.mp answered
  have registered := Json.Fields.mem_of_get? found
  have named := holds.key_eq _ _ registered
  have origin := holds.origin _ _ registered
  refine ⟨_, command, registered, origin, ?_, ?_⟩
  · intro otherKey other member
    rw [isNamedBy_iff addressed, named]
    constructor
    · intro same
      exact holds.unique registered member same
    · rintro rfl
      rfl
  · obtain ⟨registration, among, made⟩ := List.mem_map.mp origin
    refine fulfils_of_invoke (holds.ids _ _ registered) ?_ invoked
    exact made ▸ declarable registration among

/-! ### An invocation -/

/-- A command whose second argument may be missing. -/
def banFor : Definition :=
  ⟨"Ban", "<prefix>ban $1{opt $2}[ for $2]", none,
    [.required "who" "User", .ofOptional "why" "Reason"]⟩

/-- What its syntax string is read as. -/
def banForTemplate : Template :=
  .sigil (.literal "ban ".toList
    (.argument 1 (.keyOff 2 (.literal " for ".toList (.argument 2 .nil)) .nil)))

open scoped Pattern.Limits in
/-- Under another prefix and in other letters, without the reason that the command can take. -/
theorem exists_fulfils_of_dispatch_banFor : ∃ invocation,
    ((registerAll "!" [⟨banFor, .empty⟩]).dispatch "bot " " BOT bAn Bob " .empty).1 =
      .ok invocation ∧
    invocation.Fulfils banFor ∧ invocation.arguments = [("who", .text "Bob"), ("why", .null)] := by
  have read : Template.parse banFor.arguments banFor.source = .ok banForTemplate := by cbv
  have compiles (sigil : String)
      (buildable : (Compiled.pattern ⟨sigil, banForTemplate⟩).isBuildable = true) :
      compile sigil banFor.arguments banFor.source = .ok ⟨sigil, banForTemplate⟩ :=
    compile_eq_ok_iff.mpr ⟨rfl, read, buildable⟩
  have accepts : (Session.fresh "!").outcome banFor = .ok (accepted banFor banForTemplate) :=
    Session.outcome_fresh_of_compile (by cbv) (by decide) (compiles "!" (by decide))
  have registered : registerAll "!" [⟨banFor, .empty⟩] =
      ⟨"!", [(Text.lowercase "Ban", accepted banFor banForTemplate)]⟩ :=
    (Session.register_fresh accepts).1
  have found : (registerAll "!" [⟨banFor, .empty⟩]).get? "bAn" =
      some (accepted banFor banForTemplate) := by
    rw [registered]
    cbv
  have extracted : Compiled.extract ⟨"bot ", banForTemplate⟩ banFor.arguments "BOT bAn Bob" =
      .complete [("who", some "Bob"), ("why", none)] := by cbv
  have invoked : (invoke (accepted banFor banForTemplate) "bot " "BOT bAn Bob" .empty).1 =
      .ok ⟨"Ban", [("who", .text "Bob"), ("why", .null)]⟩ := by
    refine invoke_eq_ok_iff.mpr ⟨_, compiles "bot " (by decide), ?_⟩
    unfold accepted
    rw [extracted]
    exact ⟨rfl, rfl, rfl⟩
  have answered : ((registerAll "!" [⟨banFor, .empty⟩]).dispatch "bot " " BOT bAn Bob "
      .empty).1 = .ok ⟨"Ban", [("who", .text "Bob"), ("why", .null)]⟩ := by
    have trimmed : Text.trim " BOT bAn Bob ".toList = "BOT bAn Bob".toList := by cbv
    refine dispatch_eq_ok_iff.mpr ⟨"bAn".toList, _, by cbv, found, ?_⟩
    rw [trimmed]
    exact invoked
  have declarable : ∀ registration ∈ [Registration.mk banFor .empty],
      ∀ argument ∈ registration.definition.arguments, argument.Declarable := by
    simp [banFor, Argument.required, Argument.ofOptional, Argument.Declarable]
  obtain ⟨key, command, -, given, -, fulfils⟩ := exists_fulfils_of_dispatch declarable answered
  have same : command.definition = banFor := List.mem_singleton.mp given
  exact ⟨_, answered, same ▸ fulfils, rfl⟩

end Registry

end ChatCommand
