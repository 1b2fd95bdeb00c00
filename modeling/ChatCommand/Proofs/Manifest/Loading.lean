import ChatCommand.Manifest.Basic
import ChatCommand.Proofs.Command.Store

/-!
# Loading a manifest

Each command of a manifest is either registered or refused, and every refusal is reported in the
order of the manifest with the name of its command. A command that is refused has no influence on
the ones that are registered: all that it can leave behind is a failure in the cache, and no
registered command ever asked for that. So the manifest without the refused commands yields the same
registry.

## Main definitions

- `Verdict`, `Registry.verdicts`: entries with the outcomes of their registrations.
- `Manifest.withoutRefused`: the manifest without the commands that are refused.
- `Cache.DiffersInFailuresOnly`: a cache that keeps other failures than another one.

## Main results

- `Registry.registerEntry_eq_ok`, `Registry.registerEntry_eq_error`: what the registration of an
  entry does to the registry and to the cache.
- `Registry.registerEntries_accepted`: without the refused entries the registry is the same.
- `Manifest.loading_law`: how a manifest, its registry and its refusals go together.
-/

namespace ChatCommand

/-! ### Caches without some failures -/

namespace Cache

variable {light full : Cache} {sigil source : String} {arguments : List Argument}

/-- The first cache keeps what the second one keeps, except where that is a failure. -/
def DiffersInFailuresOnly (light full : Cache) : Prop :=
  ∀ key, light.get? key = full.get? key ∨ ∃ error, full.get? key = some (.error error)

namespace DiffersInFailuresOnly

theorem refl (cache : Cache) : cache.DiffersInFailuresOnly cache := fun _ => .inl rfl

variable [Pattern.Builder]

/-- A compilation that fails leaves nothing but a failure behind. -/
theorem failed (differs : light.DiffersInFailuresOnly full) {error : CompileError}
    (answered : full.answer sigil arguments source = .error error) :
    light.DiffersInFailuresOnly (getOrCompile sigil arguments source full).2 := by
  intro key
  rw [get?_getOrCompile, answered]
  split
  · exact .inr ⟨error, rfl⟩
  · exact differs key

/-- Where the second cache answers with a compiled command, the first one gives the same answer. -/
theorem answer_eq (differs : light.DiffersInFailuresOnly full) {compiled : Compiled}
    (answered : full.answer sigil arguments source = .ok compiled) :
    light.answer sigil arguments source = .ok compiled := by
  rw [← answered]
  unfold answer
  rcases differs ⟨sigil, source⟩ with same | ⟨error, kept⟩
  · rw [same]
  · unfold answer at answered
    rw [kept] at answered
    cases answered

theorem succeeded (differs : light.DiffersInFailuresOnly full) {compiled : Compiled}
    (answered : full.answer sigil arguments source = .ok compiled) :
    (getOrCompile sigil arguments source light).2.DiffersInFailuresOnly
      (getOrCompile sigil arguments source full).2 := by
  intro key
  rw [get?_getOrCompile, get?_getOrCompile, answered, differs.answer_eq answered]
  split
  · exact .inl rfl
  · exact differs key

end DiffersInFailuresOnly

end Cache

/-! ### Entries -/

section Entries

variable {entry : CommandEntry} {definition : Definition} {error : DefinitionError}

theorem exists_of_mapM_eq_error {α β ε : Type} {f : α → Except ε β} {items : List α} {error : ε}
    (failed : items.mapM f = .error error) : ∃ item ∈ items, f item = .error error := by
  induction items with
  | nil => cases failed
  | cons item rest ih =>
    rw [List.mapM_cons] at failed
    cases here : f item with
    | error own =>
      rw [here] at failed
      cases failed
      exact ⟨item, List.mem_cons_self, here⟩
    | ok value =>
      rw [here] at failed
      cases later : rest.mapM f with
      | error own =>
        rw [later] at failed
        cases failed
        obtain ⟨other, member, made⟩ := ih later
        exact ⟨other, List.mem_cons_of_mem item member, made⟩
      | ok values =>
        rw [later] at failed
        cases failed

theorem command_of_toArgument_eq_error {command : String} {argument : ArgumentEntry}
    (failed : argument.toArgument command = .error error) : error.command = command := by
  unfold ArgumentEntry.toArgument at failed
  split at failed
  · cases failed
  · split at failed
    · cases failed
    · cases failed
      rfl

theorem CommandEntry.name_of_toDefinition_eq_ok (made : entry.toDefinition = .ok definition) :
    definition.name = entry.name := by
  unfold toDefinition at made
  cases declared : entry.arguments.mapM (ArgumentEntry.toArgument entry.name) with
  | error error =>
    rw [declared] at made
    cases made
  | ok arguments =>
    rw [declared] at made
    cases made
    rfl

theorem CommandEntry.command_of_toDefinition_eq_error
    (failed : entry.toDefinition = .error error) : error.command = entry.name := by
  unfold toDefinition at failed
  cases declared : entry.arguments.mapM (ArgumentEntry.toArgument entry.name) with
  | error own =>
    rw [declared] at failed
    cases failed
    obtain ⟨argument, -, refused⟩ := exists_of_mapM_eq_error declared
    exact command_of_toArgument_eq_error refused
  | ok arguments =>
    rw [declared] at failed
    cases failed

end Entries

/-! ### Registrations of entries -/

/-- An entry with the outcome of its registration. -/
structure Verdict where
  entry : CommandEntry
  outcome : Except DefinitionError Registered

namespace Verdict

/-- The command that was registered. -/
def command? (verdict : Verdict) : Option Registered := verdict.outcome.toOption

/-- Why the command was refused. -/
def refusal? (verdict : Verdict) : Option DefinitionError :=
  match verdict.outcome with
  | .ok _ => none
  | .error error => some error

/-- A command that is registered has the definition of its entry, and a refusal names the command
of its entry. -/
structure Sound (verdict : Verdict) : Prop where
  made : ∀ command, verdict.outcome = .ok command →
    verdict.entry.toDefinition = .ok command.definition
  blamed : ∀ error, verdict.outcome = .error error → error.command = verdict.entry.name

end Verdict

namespace Registry

variable [Pattern.Builder] {registry after : Registry} {definition : Definition}
  {entry : CommandEntry} {cache light full : Cache} {command : Registered}
  {error : DefinitionError}

/-- A refusal names the definition that is refused. -/
theorem command_of_register_eq_error
    (refused : (registry.register definition cache).1 = (after, .error error)) :
    error.command = definition.name := by
  unfold register at refused
  rw [Cache.bind_apply] at refused
  by_cases admits : registry.Admits definition
  · rw [prepare_of_admits admits] at refused
    cases answered : cache.answer registry.sigil definition.arguments definition.source with
    | ok compiled =>
      rw [answered] at refused
      cases refused
    | error reason =>
      rw [answered] at refused
      cases refused
      rfl
  · obtain ⟨own, prepared, named, -⟩ := prepare_of_not_admits admits cache
    rw [prepared] at refused
    cases refused
    exact named

theorem registerEntry_of_ok (made : entry.toDefinition = .ok definition) :
    registry.registerEntry entry = registry.register definition := by
  unfold registerEntry
  rw [made]

theorem registerEntry_of_error (failed : entry.toDefinition = .error error) :
    registry.registerEntry entry cache = ((registry, .error error), cache) := by
  unfold registerEntry
  rw [failed]
  rfl

/-- An entry that is refused leaves the registry alone, and the cache but for a failure. -/
theorem registerEntry_eq_error
    (refused : (registry.registerEntry entry full).1 = (after, .error error)) :
    after = registry ∧ error.command = entry.name ∧
      ∀ light : Cache, light.DiffersInFailuresOnly full →
        light.DiffersInFailuresOnly (registry.registerEntry entry full).2 := by
  cases made : entry.toDefinition with
  | error own =>
    rw [registerEntry_of_error made] at refused ⊢
    cases refused
    exact ⟨rfl, CommandEntry.command_of_toDefinition_eq_error made, fun light differs => differs⟩
  | ok definition =>
    rw [registerEntry_of_ok made] at refused ⊢
    refine ⟨register_eq_error refused, ?_, fun light differs => ?_⟩
    · rw [command_of_register_eq_error refused, CommandEntry.name_of_toDefinition_eq_ok made]
    · rcases registry.register_cases definition full with
        ⟨-, own, called, -⟩ | ⟨-, own, answered, called⟩ | ⟨-, compiled, -, called⟩
      · rw [called]
        exact differs
      · rw [called]
        exact differs.failed answered
      · rw [called] at refused
        cases refused

/-- An entry that is registered would have been registered just so without the failures in the
cache. -/
theorem registerEntry_eq_ok
    (accepted : (registry.registerEntry entry full).1 = (after, .ok command)) :
    entry.toDefinition = .ok command.definition ∧
      registry.Admits command.definition ∧ after = registry.add command ∧
      ∀ light : Cache, light.DiffersInFailuresOnly full →
        (registry.registerEntry entry light).1 = (after, .ok command) ∧
        (registry.registerEntry entry light).2.DiffersInFailuresOnly
          (registry.registerEntry entry full).2 := by
  cases made : entry.toDefinition with
  | error own =>
    rw [registerEntry_of_error made] at accepted
    cases accepted
  | ok definition =>
    rw [registerEntry_of_ok made] at accepted ⊢
    obtain ⟨admits, rfl, rfl⟩ := register_eq_ok accepted
    refine ⟨rfl, admits, rfl, fun light differs => ?_⟩
    rcases registry.register_cases command.definition full with
      ⟨refused, -⟩ | ⟨-, own, -, called⟩ | ⟨-, compiled, answered, called⟩
    · exact absurd admits refused
    · rw [called] at accepted
      exact nomatch (Prod.mk.inj accepted).2
    · -- The outcome depends on the answer of the cache, which is no failure here.
      have alike := differs.answer_eq answered
      rcases registry.register_cases command.definition light with
        ⟨refused, -⟩ | ⟨-, own, failed, -⟩ | ⟨-, again, found, calledToo⟩
      · exact absurd admits refused
      · rw [failed] at alike
        cases alike
      · obtain rfl := Except.ok.inj (found.symm.trans alike)
        rw [called] at accepted ⊢
        rw [calledToo]
        exact ⟨accepted, differs.succeeded answered⟩

/-- The entries with the outcomes of their registrations, one after the other. -/
def verdicts (registry : Registry) : List CommandEntry → Cache → List Verdict
  | [], _ => []
  | entry :: rest, cache =>
    let step := registry.registerEntry entry cache
    ⟨entry, step.1.2⟩ :: step.1.1.verdicts rest step.2

theorem registerEntries_cons (rest : List CommandEntry) :
    (registry.registerEntries (entry :: rest) cache).1 =
      let step := registry.registerEntry entry cache
      let loaded := (step.1.1.registerEntries rest step.2).1
      (loaded.1, (Verdict.mk entry step.1.2).refusal?.toList ++ loaded.2) := by
  rw [registerEntries, Cache.bind_apply]
  obtain ⟨⟨next, outcome⟩, later⟩ := registry.registerEntry entry cache
  dsimp only
  rw [Cache.bind_apply]
  cases outcome <;> rfl

theorem entries_verdicts (registry : Registry) (entries : List CommandEntry) (cache : Cache) :
    (registry.verdicts entries cache).map Verdict.entry = entries := by
  induction entries generalizing registry cache with
  | nil => rfl
  | cons entry rest ih => exact congrArg (entry :: ·) (ih _ _)

theorem sound_verdicts (registry : Registry) (entries : List CommandEntry) (cache : Cache) :
    ∀ verdict ∈ registry.verdicts entries cache, verdict.Sound := by
  induction entries generalizing registry cache with
  | nil => nofun
  | cons entry rest ih =>
    refine List.forall_mem_cons.mpr ⟨⟨?_, ?_⟩, ih _ _⟩
    · intro command accepted
      exact (registerEntry_eq_ok (Prod.ext rfl accepted)).1
    · intro error refused
      exact (registerEntry_eq_error (Prod.ext rfl refused)).2.1

/-- The refusals are reported in the order of the entries. -/
theorem refusals_registerEntries (registry : Registry) (entries : List CommandEntry)
    (cache : Cache) :
    (registry.registerEntries entries cache).1.2 =
      (registry.verdicts entries cache).filterMap Verdict.refusal? := by
  induction entries generalizing registry cache with
  | nil => rfl
  | cons entry rest ih =>
    rw [registerEntries_cons]
    dsimp only [verdicts]
    rw [ih, List.filterMap_cons]
    cases Verdict.refusal? _ <;> rfl

/-- The commands of the entries that are registered join those that are there. -/
theorem commands_registerEntries (registry : Registry) (entries : List CommandEntry)
    (cache : Cache) :
    (registry.registerEntries entries cache).1.1.commands.Perm
      (((registry.verdicts entries cache).filterMap Verdict.command?).map
        (fun command => (Text.lowercase command.definition.name, command)) ++
          registry.commands) := by
  -- On the entries: a refusal leaves the registry alone, and a command joins it.
  induction entries generalizing registry cache with
  | nil => exact .refl _
  | cons entry rest ih =>
    rw [registerEntries_cons]
    dsimp only [verdicts]
    cases called : (registry.registerEntry entry cache).1 with
    | mk after outcome =>
      cases outcome with
      | error error =>
        obtain ⟨rfl, -⟩ := registerEntry_eq_error called
        exact ih _ _
      | ok command =>
        obtain ⟨-, admits, rfl, -⟩ := registerEntry_eq_ok called
        have joined : (registry.add command).commands.Perm
            ((Text.lowercase command.definition.name, command) :: registry.commands) :=
          add_perm admits.free
        exact (ih _ _).trans ((joined.append_left _).trans List.perm_middle)

/-- The entries that were not refused are all registered when they come alone, and the registry is
the same as before. -/
theorem registerEntries_accepted (registry : Registry) (entries : List CommandEntry)
    (differs : light.DiffersInFailuresOnly full) :
    (registry.registerEntries (((registry.verdicts entries full).filter
      fun verdict => verdict.outcome.isOk).map Verdict.entry) light).1 =
        ((registry.registerEntries entries full).1.1, []) := by
  -- On the entries, the caches of both runs and what they differ in being carried along.
  induction entries generalizing registry light full with
  | nil => rfl
  | cons entry rest ih =>
    rw [registerEntries_cons]
    dsimp only [verdicts]
    cases called : (registry.registerEntry entry full).1 with
    | mk after outcome =>
      cases outcome with
      | error error =>
        -- The entry is left out, so the other cache may lack the failure that it left behind.
        obtain ⟨rfl, -, kept⟩ := registerEntry_eq_error called
        exact ih _ (kept light differs)
      | ok command =>
        -- The entry is kept, and comes out as the same command.
        obtain ⟨-, -, -, kept⟩ := registerEntry_eq_ok called
        obtain ⟨again, stillDiffers⟩ := kept light differs
        rw [List.filter_cons_of_pos rfl, List.map_cons, registerEntries_cons]
        dsimp only
        rw [again]
        exact ih _ stillDiffers

end Registry

/-! ### Manifests -/

namespace Verdict

/-- Each verdict is either a command or a refusal. -/
theorem length_add_length (verdicts : List Verdict) :
    (verdicts.filterMap command?).length + (verdicts.filterMap refusal?).length =
      verdicts.length := by
  induction verdicts with
  | nil => rfl
  | cons verdict rest ih =>
    obtain ⟨entry, outcome⟩ := verdict
    cases outcome with
    | ok command =>
      show (command :: rest.filterMap command?).length + (rest.filterMap refusal?).length = _
      simp only [List.length_cons]
      omega
    | error error =>
      show (rest.filterMap command?).length + (error :: rest.filterMap refusal?).length = _
      simp only [List.length_cons]
      omega

end Verdict

namespace Manifest

variable [Pattern.Builder] {manifest : Manifest} {cache : Cache}

/-- The commands of a manifest with the outcomes of their registrations. -/
def verdicts (manifest : Manifest) (cache : Cache) : List Verdict :=
  (Registry.empty manifest.sigil).verdicts manifest.commands cache

/-- The manifest without the commands that are refused. -/
def withoutRefused (manifest : Manifest) (cache : Cache) : Manifest :=
  { manifest with
    commands := ((manifest.verdicts cache).filter fun verdict => verdict.outcome.isOk).map
      Verdict.entry }

theorem registry_eq_ok_iff {registry : Registry} :
    (manifest.registry cache).1 = .ok registry ↔
      (manifest.registerAll cache).1 = (registry, []) := by
  unfold Manifest.registry
  rw [Cache.bind_apply]
  obtain ⟨loaded, _ | ⟨first, _ | ⟨second, rest⟩⟩⟩ := (manifest.registerAll cache).1
  · simp [pure, StateT.pure]
  · simp [pure, StateT.pure]
  · simp [pure, StateT.pure]

theorem registry_eq_error_iff {error : ManifestError} :
    (manifest.registry cache).1 = .error error ↔
      (∃ only, (manifest.registerAll cache).1.2 = [only] ∧ error = .definition only) ∨
      ∃ first second rest, (manifest.registerAll cache).1.2 = first :: second :: rest ∧
        error = .definitions first second rest := by
  unfold Manifest.registry
  rw [Cache.bind_apply]
  obtain ⟨loaded, _ | ⟨first, _ | ⟨second, rest⟩⟩⟩ := (manifest.registerAll cache).1
  · simp [pure, StateT.pure]
  · simp [pure, StateT.pure, eq_comm]
  · simp [pure, StateT.pure, eq_comm]

/-- Every command of a manifest is registered or refused, and all refusals are reported in the order
of the manifest, each by the name of its command. There is a registry of all commands just when none
is refused, and otherwise the refusals are the error. Without the commands that are refused, the
manifest yields the same registry and no refusals. -/
theorem loading_law (manifest : Manifest) (cache : Cache) :
    ((manifest.verdicts cache).map Verdict.entry = manifest.commands ∧
      ∀ verdict ∈ manifest.verdicts cache, verdict.Sound) ∧
    ((manifest.registerAll cache).1.1.commands.Perm
        (((manifest.verdicts cache).filterMap Verdict.command?).map fun command =>
          (Text.lowercase command.definition.name, command)) ∧
      (manifest.registerAll cache).1.2 =
        (manifest.verdicts cache).filterMap Verdict.refusal? ∧
      (manifest.registerAll cache).1.1.size + (manifest.registerAll cache).1.2.length =
        manifest.commands.length) ∧
    ((∀ registry, (manifest.registry cache).1 = .ok registry ↔
        (manifest.registerAll cache).1 = (registry, [])) ∧
      ∀ error, (manifest.registry cache).1 = .error error ↔
        (∃ only, (manifest.registerAll cache).1.2 = [only] ∧ error = .definition only) ∨
        ∃ first second rest, (manifest.registerAll cache).1.2 = first :: second :: rest ∧
          error = .definitions first second rest) ∧
    ((manifest.withoutRefused cache).registerAll cache).1 =
      ((manifest.registerAll cache).1.1, []) := by
  have entries : (manifest.verdicts cache).map Verdict.entry = manifest.commands :=
    Registry.entries_verdicts _ _ _
  have refusals := Registry.refusals_registerEntries (.empty manifest.sigil) manifest.commands cache
  have commands := Registry.commands_registerEntries (.empty manifest.sigil) manifest.commands cache
  rw [show (Registry.empty manifest.sigil).commands = [] from rfl, List.append_nil] at commands
  -- Every verdict is counted once, as a command or as a refusal.
  have sizes : (manifest.registerAll cache).1.1.size +
      (manifest.registerAll cache).1.2.length = manifest.commands.length := by
    rw [← entries, List.length_map, ← Verdict.length_add_length]
    exact congrArg₂ (· + ·) (commands.length_eq.trans (List.length_map _))
      (congrArg List.length refusals)
  exact ⟨⟨entries, Registry.sound_verdicts _ _ _⟩, ⟨commands, refusals, sizes⟩,
    ⟨fun _ => registry_eq_ok_iff, fun _ => registry_eq_error_iff⟩,
    Registry.registerEntries_accepted _ _ (.refl cache)⟩

end Manifest

end ChatCommand
