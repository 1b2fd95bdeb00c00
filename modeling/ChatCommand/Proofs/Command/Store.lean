import ChatCommand.Proofs.Command.Invocation
import ChatCommand.Proofs.Json.Sorted

/-!
# The store of a registry

Whatever is registered, and whatever the caches kept in between, the commands of a registry stand in
the order of their keys, each under its own name in lower case. A definition that is accepted joins
them and leaves the others alone; one that is refused leaves no trace.

## Main definitions

- `Registry.Tidy`: the commands are stored as they should be.

## Main results

- `Registry.Tidy.register`, `Registry.tidy_registerAll`: one registration keeps a registry tidy, and
  so do all of them.
- `Registry.Tidy.get?_eq_some_iff`: which command is found under a name.
- `Registry.store_law`: what registries store, how a call changes it, and what is found.
-/

namespace ChatCommand.Registry

open Json.Fields (keys)

variable {registry after : Registry} {definition : Definition} {cache : Cache}
  {command : Registered} {name key : String}

/-- The commands stand in the order of their keys, each under its own name in lower case. Their
names are not empty and have no white space, and their arguments have different keys. -/
structure Tidy (registry : Registry) : Prop where
  ordered : Json.Fields.Ordered registry.commands
  key_eq : ∀ entry ∈ registry.commands, entry.1 = Text.lowercase entry.2.definition.name
  named : ∀ entry ∈ registry.commands, entry.2.definition.name ≠ ""
  solid : ∀ entry ∈ registry.commands,
    ∀ c ∈ entry.2.definition.name.toList, Text.isBlank c = false
  ids : ∀ entry ∈ registry.commands, (entry.2.definition.arguments.map Argument.id).Nodup

/-! ### One call -/

/-- A definition that is accepted joins the commands under a key that was free. -/
theorem register_eq_ok [Pattern.Builder]
    (accepts : (registry.register definition cache).1 = (after, .ok command)) :
    registry.Admits definition ∧ command.definition = definition ∧
      after = registry.add command := by
  rcases registry.register_cases definition cache with
    ⟨-, error, called, -⟩ | ⟨-, error, -, called⟩ | ⟨admits, compiled, -, called⟩
  · rw [called] at accepts
    cases accepts
  · rw [called] at accepts
    cases accepts
  · rw [called] at accepts
    obtain ⟨rfl, same⟩ := Prod.mk.inj accepts
    obtain rfl := Except.ok.inj same
    exact ⟨admits, rfl, rfl⟩

/-- A definition that is refused changes nothing. -/
theorem register_eq_error [Pattern.Builder] {error : DefinitionError}
    (refuses : (registry.register definition cache).1 = (after, .error error)) :
    after = registry := by
  rcases registry.register_cases definition cache with
    ⟨-, error, called, -⟩ | ⟨-, error, -, called⟩ | ⟨-, compiled, -, called⟩
  · rw [called] at refuses
    exact (Prod.mk.inj refuses).1.symm
  · rw [called] at refuses
    exact (Prod.mk.inj refuses).1.symm
  · rw [called] at refuses
    cases refuses

theorem Tidy.add (tidy : registry.Tidy) (admits : registry.Admits command.definition) :
    (registry.add command).Tidy := by
  -- What is said of all commands is said of the new one and of the earlier ones.
  have each {P : String × Registered → Prop}
      (new : P (Text.lowercase command.definition.name, command))
      (earlier : ∀ entry ∈ registry.commands, P entry) :
      ∀ entry ∈ (registry.add command).commands, P entry := by
    rintro ⟨key, other⟩ member
    rcases (mem_add_iff admits.free).mp member with ⟨rfl, rfl⟩ | member
    · exact new
    · exact earlier _ member
  exact {
    ordered := tidy.ordered.insert _ command
    key_eq := each rfl tidy.key_eq
    named := each admits.named tidy.named
    solid := each admits.solid tidy.solid
    ids := each admits.distinct tidy.ids }

/-- A call keeps a registry tidy, whether the definition is accepted or not. -/
theorem Tidy.register [Pattern.Builder] (tidy : registry.Tidy) (definition : Definition)
    (cache : Cache) :
    (registry.register definition cache).1.1.Tidy := by
  cases called : (registry.register definition cache).1 with
  | mk after outcome =>
    cases outcome with
    | error error => exact register_eq_error called ▸ tidy
    | ok command =>
      obtain ⟨admits, rfl, rfl⟩ := register_eq_ok called
      exact tidy.add admits

/-! ### All calls -/

theorem tidy_empty (home : String) : (empty home).Tidy := ⟨.nil, nofun, nofun, nofun, nofun⟩

theorem tidy_registerAll [Pattern.Builder] (home : String) (registrations : List Registration) :
    (registerAll home registrations).Tidy := by
  induction registrations using List.reverseRecOn with
  | nil => exact tidy_empty home
  | append_singleton registrations registration ih =>
    rw [registerAll, List.foldl_append]
    exact ih.register registration.definition registration.cache

/-- The lower-case forms of the names are the keys. -/
theorem Tidy.map_lowercase (tidy : registry.Tidy) :
    registry.commands.map (fun entry => Text.lowercase entry.2.definition.name) =
      keys registry.commands :=
  List.map_congr_left fun entry member => (tidy.key_eq entry member).symm

/-- A command is found under the names that have the lower-case form of its own name, and under no
others. -/
theorem Tidy.get?_eq_some_iff (tidy : registry.Tidy) :
    registry.get? name = some command ↔
      ∃ key, (key, command) ∈ registry.commands ∧
        Text.lowercase name = Text.lowercase command.definition.name := by
  unfold get?
  constructor
  · intro found
    have stored := Json.Fields.mem_of_get? found
    exact ⟨_, stored, tidy.key_eq _ stored⟩
  · rintro ⟨key, stored, same⟩
    rw [same, ← tidy.key_eq _ stored]
    exact Json.Fields.get?_of_mem tidy.ordered.nodup stored

/-- Whatever was registered under whatever caches, the commands are stored as they should be, and no
two of them have names that agree up to letter case. A call that is accepted adds just its
definition and yields it, so that it is found under its name; a call that is refused changes
nothing. A command is found just under the names that agree with its own up to letter case. -/
theorem store_law [Pattern.Builder] (home : String) (registrations : List Registration) :
    (registerAll home registrations).Tidy ∧
    ((registerAll home registrations).commands.map fun entry =>
      Text.lowercase entry.2.definition.name).Nodup ∧
    (∀ definition cache after command,
      ((registerAll home registrations).register definition cache).1 = (after, .ok command) →
        command.definition = definition ∧
        after.get? definition.name = some command ∧
        after.commands.Perm ((Text.lowercase definition.name, command) ::
          (registerAll home registrations).commands)) ∧
    (∀ definition cache after error,
      ((registerAll home registrations).register definition cache).1 = (after, .error error) →
        after = registerAll home registrations) ∧
    ∀ name, (∃ command, (registerAll home registrations).get? name = some command) ↔
      ∃ entry ∈ (registerAll home registrations).commands,
        Text.lowercase name = Text.lowercase entry.2.definition.name := by
  -- All but the effect of one call is said of any tidy registry.
  have tidy := tidy_registerAll home registrations
  refine ⟨tidy, tidy.map_lowercase ▸ tidy.ordered.nodup, ?_, ?_, ?_⟩
  · intro definition cache after command accepts
    obtain ⟨admits, rfl, rfl⟩ := register_eq_ok accepts
    exact ⟨rfl, (get?_add command _).trans (if_pos rfl), add_perm admits.free⟩
  · intro definition cache after error refuses
    exact register_eq_error refuses
  · intro name
    constructor
    · rintro ⟨command, found⟩
      obtain ⟨key, stored, same⟩ := tidy.get?_eq_some_iff.mp found
      exact ⟨(key, command), stored, same⟩
    · rintro ⟨⟨key, command⟩, stored, same⟩
      exact ⟨command, tidy.get?_eq_some_iff.mpr ⟨key, stored, same⟩⟩

end ChatCommand.Registry
