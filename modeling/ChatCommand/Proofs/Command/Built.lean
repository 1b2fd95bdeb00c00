import ChatCommand.Proofs.Command.Session
import ChatCommand.Proofs.Json.Fields
import ChatCommand.Proofs.Template.Reading

/-!
# Registries made by registrations

Whatever was registered, under whatever cache, a registry keeps each command under its name in lower
case, no two commands under one name, and each with a template that its own syntax string is read
as. The cache may be shared with others, as long as it keeps nothing but outcomes of compilations.

## Main definitions

- `Registry.Built`: registries made by registrations.
- `Registered.Kept`: what is known of a command that was registered.

## Main results

- `Registry.Built.kept`: every command of a registry is kept as it should be.
- `Registry.Built.get?_eq_some_iff`: which command is found under a name.
- `Session.built_after`: the registries of sessions are made by registrations.
-/

namespace ChatCommand

/-- What is known of a command that was registered under a key. -/
structure Registered.Kept (key : String) (command : Registered) : Prop where
  key_eq : key = Text.lowercase command.definition.name
  named : command.definition.name ≠ ""
  solid : ∀ c ∈ command.definition.name.toList, Text.isBlank c = false
  read : ∃ arguments, Template.parse arguments command.definition.source = .ok command.template
  warnings_eq : command.warnings = command.definition.lint command.template

namespace Registry

open Json.Fields (keys)

/-- The registry is made by registrations, each under a cache that may have been used in between. -/
inductive Built [Pattern.Builder] : Registry → Prop where
  | empty (sigil : String) : Built (.empty sigil)
  | register {registry : Registry} (built : Built registry) (definition : Definition)
      {cache : Cache} (sound : cache.Sound) :
      Built (registry.register definition cache).1.1

variable {registry : Registry} {command other : Registered} {key name : String}

/-- A command with a new name joins the commands that are there. -/
theorem add_perm (free : registry.get? command.definition.name = none) :
    (registry.add command).commands.Perm
      ((Text.lowercase command.definition.name, command) :: registry.commands) :=
  Json.Fields.insert_perm (Json.Fields.get?_eq_none_iff.mp free)

theorem mem_add_iff (free : registry.get? command.definition.name = none) :
    (key, other) ∈ (registry.add command).commands ↔
      (key = Text.lowercase command.definition.name ∧ other = command) ∨
        (key, other) ∈ registry.commands := by
  rw [(add_perm free).mem_iff, List.mem_cons, Prod.mk.injEq]

theorem nodup_keys_add (free : registry.get? command.definition.name = none)
    (distinct : (keys registry.commands).Nodup) :
    (keys (registry.add command).commands).Nodup := by
  refine ((add_perm free).map Prod.fst).nodup_iff.mpr ?_
  exact List.nodup_cons.mpr ⟨Json.Fields.get?_eq_none_iff.mp free, distinct⟩

/-- The commands are kept under different keys, each as it should be. -/
structure Ordered (registry : Registry) : Prop where
  distinct : (keys registry.commands).Nodup
  kept : ∀ key command, (key, command) ∈ registry.commands → command.Kept key

variable [Pattern.Builder]

theorem Ordered.register (ordered : registry.Ordered) (definition : Definition) {cache : Cache}
    (sound : cache.Sound) : (registry.register definition cache).1.1.Ordered := by
  rcases registry.register_cases definition cache with
    ⟨-, error, called, -⟩ | ⟨-, error, -, called⟩ | ⟨admits, compiled, answered, called⟩
  · rw [called]
    exact ordered
  · rw [called]
    exact ordered
  · -- A sound cache answers with some compilation, and its template was read from the source.
    obtain ⟨judging, compiles⟩ :=
      sound.exists_answer_eq registry.sigil definition.arguments definition.source
    have read := (compile_eq_ok_iff.mp (compiles.symm.trans answered)).2.1
    have free : registry.get? (accepted definition compiled.template).definition.name = none :=
      admits.free
    rw [called]
    constructor
    · exact nodup_keys_add free ordered.distinct
    · intro key command member
      rcases (mem_add_iff free).mp member with ⟨rfl, rfl⟩ | member
      · exact ⟨rfl, admits.named, admits.solid, ⟨_, read⟩, rfl⟩
      · exact ordered.kept key command member

/-- What each registration keeps, a registry made by registrations has. -/
theorem Built.ordered (built : registry.Built) : registry.Ordered := by
  induction built with
  | empty sigil => exact ⟨.nil, nofun⟩
  | register built definition sound ih => exact ih.register definition sound

theorem Built.kept (built : registry.Built) (registered : (key, command) ∈ registry.commands) :
    command.Kept key :=
  built.ordered.kept key command registered

/-- A command is found under all names that have its own name's lower-case form. -/
theorem Built.get?_eq_some_iff (built : registry.Built)
    (registered : (key, command) ∈ registry.commands) :
    registry.get? name = some command ↔
      Text.lowercase name = Text.lowercase command.definition.name := by
  have kept := built.kept registered
  constructor
  · intro found
    exact (built.kept (Json.Fields.mem_of_get? found)).key_eq
  · intro same
    unfold get?
    rw [same, ← kept.key_eq]
    exact Json.Fields.get?_of_mem built.ordered.distinct registered

end Registry

/-! ### Sessions -/

namespace Session

variable [Pattern.Builder] {session : Session}

theorem built_register (built : session.registry.Built) (sound : session.cache.Sound)
    (definition : Definition) :
    (session.register definition).registry.Built ∧ (session.register definition).cache.Sound := by
  refine ⟨built.register definition sound, ?_⟩
  rcases session.registry.register_cases definition session.cache with
    ⟨-, error, called, -⟩ | ⟨-, error, -, called⟩ | ⟨-, compiled, -, called⟩
  · rw [register_eq called]
    exact sound
  · rw [register_eq called]
    exact sound.getOrCompile _ _ _
  · rw [register_eq called]
    exact sound.getOrCompile _ _ _

/-- The registry of a session is made by registrations, and its cache is sound. -/
theorem built_after (sigil : String) (definitions : List Definition) :
    (after sigil definitions).registry.Built ∧ (after sigil definitions).cache.Sound := by
  have start : (fresh sigil).registry.Built ∧ (fresh sigil).cache.Sound :=
    ⟨.empty sigil, Cache.sound_empty⟩
  unfold after
  generalize fresh sigil = session at start
  induction definitions generalizing session with
  | nil => exact start
  | cons definition definitions ih => exact ih _ (built_register start.1 start.2 definition)

/-! ### A single command -/

variable {sigil : String} {definition : Definition} {command : Registered}

/-- A definition is accepted by a fresh registry when nothing speaks against it and its syntax
string compiles. -/
theorem outcome_fresh_eq_ok_iff :
    (fresh sigil).outcome definition = .ok command ↔
      (fresh sigil).Acceptable definition ∧
        compile sigil definition.arguments definition.source = .ok ⟨sigil, command.template⟩ ∧
        command = Registry.accepted definition command.template :=
  (Tracks.fresh sigil).outcome_eq_ok_iff

theorem outcome_fresh_of_compile {template : Template}
    (valid : Registry.isValidName definition.name = true)
    (distinct : (definition.arguments.map Argument.id).Nodup)
    (compiles : compile sigil definition.arguments definition.source = .ok ⟨sigil, template⟩) :
    (fresh sigil).outcome definition = .ok (Registry.accepted definition template) := by
  obtain ⟨named, solid⟩ := Registry.isValidName_iff.mp valid
  have acceptable : (fresh sigil).Acceptable definition := ⟨named, solid, nofun, distinct⟩
  exact outcome_fresh_eq_ok_iff.mpr ⟨acceptable, compiles, rfl⟩

/-- A fresh registry holds just the definition that it accepted, and the cache its compilation. -/
theorem register_fresh (accepted : (fresh sigil).outcome definition = .ok command) :
    ((fresh sigil).register definition).registry =
        ⟨sigil, [(Text.lowercase definition.name, command)]⟩ ∧
      ((fresh sigil).register definition).cache.get? ⟨sigil, definition.source⟩ =
        some (.ok ⟨sigil, command.template⟩) := by
  obtain ⟨-, compiles, -⟩ := outcome_fresh_eq_ok_iff.mp accepted
  unfold outcome at accepted
  rcases (fresh sigil).registry.register_cases definition (fresh sigil).cache with
    ⟨-, error, called, -⟩ | ⟨-, error, -, called⟩ | ⟨-, compiled, answered, called⟩
  · rw [called] at accepted
    contradiction
  · rw [called] at accepted
    contradiction
  · rw [called] at accepted
    obtain rfl := Except.ok.inj accepted
    rw [register_eq called]
    refine ⟨rfl, ?_⟩
    -- Nothing was kept before, so what is kept now is the compilation itself.
    rw [Cache.get?_getOrCompile]
    exact (if_pos rfl).trans (congrArg some compiles)

end Session

end ChatCommand
