import ChatCommand.Command.Registry
import ChatCommand.Proofs.Compiled.Compilation

/-!
# One registration

A definition comes to be compiled when its name is valid and free and its arguments have different
keys. From there on the answer of the cache decides: the definition is accepted with the template
of the answer, or refused. A definition that does not come so far leaves no trace.

## Main definitions

- `Registry.Admits`: a definition comes to be compiled.
- `Registry.accepted`: the command that is made of a definition.
- `Registry.add`: one more command.

## Main results

- `Registry.store_of_free`: a command is stored under a name that is free.
- `Registry.register_cases`: what a registration can do.
-/

namespace ChatCommand.Registry

variable {registry : Registry} {definition : Definition} {cache : Cache} {name : String}

theorem isValidName_iff :
    isValidName name = true ↔ name ≠ "" ∧ ∀ c ∈ name.toList, Text.isBlank c = false := by
  unfold isValidName
  simp

theorem firstRepeated?_eq_none_iff {seen ids : List String} :
    firstRepeated? seen ids = none ↔ ids.Nodup ∧ ∀ id ∈ ids, id ∉ seen := by
  induction ids generalizing seen with
  | nil => simp [firstRepeated?]
  | cons id rest ih =>
    unfold firstRepeated?
    by_cases repeated : id ∈ seen
    · simp [repeated]
    · rw [if_neg repeated, ih, List.nodup_cons, List.forall_mem_cons]
      constructor
      · rintro ⟨distinct, others⟩
        refine ⟨⟨fun member => others id member List.mem_cons_self, distinct⟩, repeated, ?_⟩
        exact fun other member earlier => others other member (List.mem_cons_of_mem id earlier)
      · rintro ⟨⟨fresh, distinct⟩, -, others⟩
        refine ⟨distinct, fun other member earlier => ?_⟩
        rcases List.mem_cons.mp earlier with rfl | earlier
        · exact fresh member
        · exact others other member earlier

/-- The definition comes to be compiled. -/
structure Admits (registry : Registry) (definition : Definition) : Prop where
  named : definition.name ≠ ""
  solid : ∀ c ∈ definition.name.toList, Text.isBlank c = false
  free : registry.get? definition.name = none
  distinct : (definition.arguments.map Argument.id).Nodup

/-- The command made of a definition and its template. -/
def accepted (definition : Definition) (template : Template) : Registered :=
  ⟨definition, template, definition.lint template⟩

/-- The answer of the cache as the outcome of a registration. -/
def outcomeOf (definition : Definition) :
    Except CompileError Compiled → Except DefinitionError Registered
  | .ok compiled => .ok (accepted definition compiled.template)
  | .error error => .error (.badSyntax definition.name error)

/-- A definition that does not come to be compiled is refused by its name and without a word about
its syntax. -/
theorem prepare_of_not_admits [Pattern.Builder] (refused : ¬ registry.Admits definition)
    (cache : Cache) :
    ∃ error, registry.prepare definition cache = (.error error, cache) ∧
      error.command = definition.name ∧ ∀ command reason, error ≠ .badSyntax command reason := by
  unfold prepare
  by_cases valid : isValidName definition.name = true
  · by_cases free : registry.get? definition.name = none
    · cases repeated : firstRepeated? [] (definition.arguments.map Argument.id) with
      | some id =>
        refine ⟨.duplicateArgument definition.name id, ?_, rfl, nofun⟩
        simp only [valid, free]
        rfl
      | none =>
        obtain ⟨named, solid⟩ := isValidName_iff.mp valid
        exact absurd ⟨named, solid, free, (firstRepeated?_eq_none_iff.mp repeated).1⟩ refused
    · refine ⟨.duplicateCommand definition.name, ?_, rfl, nofun⟩
      simp only [valid, Option.isSome_iff_ne_none.mpr free]
      rfl
  · refine ⟨.invalidName definition.name, ?_, rfl, nofun⟩
    simp only [valid]
    rfl

theorem prepare_of_admits [Pattern.Builder] (admits : registry.Admits definition)
    (cache : Cache) :
    registry.prepare definition cache =
      (outcomeOf definition
          (cache.answer registry.sigil definition.arguments definition.source),
        (Cache.getOrCompile registry.sigil definition.arguments definition.source cache).2) := by
  have valid := isValidName_iff.mpr ⟨admits.named, admits.solid⟩
  have distinct := firstRepeated?_eq_none_iff.mpr
    ⟨admits.distinct, fun _ _ => List.not_mem_nil⟩
  unfold prepare
  simp only [valid, admits.free, distinct, Bool.not_true, Bool.false_eq_true, if_false,
    Option.isSome_none]
  rw [Cache.bind_apply, Cache.fst_getOrCompile]
  cases cache.answer registry.sigil definition.arguments definition.source <;> rfl

/-! ### Registrations -/

/-- A registry with one more command. -/
def add (registry : Registry) (command : Registered) : Registry :=
  { registry with
    commands := Json.Fields.insert (Text.lowercase command.definition.name) command
      registry.commands }

/-- Under a name that is free, the command itself is stored. A definition with a name that is not
free does not come so far. -/
theorem store_of_free {command : Registered}
    (free : registry.get? command.definition.name = none) :
    registry.store command = (registry.add command, command) := by
  have absent : Json.Fields.get? (Text.lowercase command.definition.name) registry.commands =
      none := free
  simp only [store, Json.Fields.getOrInsert, absent]
  rfl

/-- A command that is added is found under its name, and every other one as before. -/
theorem get?_add (command : Registered) (name : String) :
    (registry.add command).get? name =
      if Text.lowercase command.definition.name = Text.lowercase name then some command
      else registry.get? name :=
  Json.Fields.get?_insert _ _ _ _

/-- What a registration can do: refuse a definition before it is compiled, which changes nothing;
refuse it for its syntax, which only the cache keeps; or accept it. -/
theorem register_cases [Pattern.Builder] (registry : Registry) (definition : Definition)
    (cache : Cache) :
    (¬ registry.Admits definition ∧ ∃ error,
      registry.register definition cache = ((registry, .error error), cache) ∧
        ∀ command reason, error ≠ .badSyntax command reason) ∨
    (registry.Admits definition ∧ ∃ error,
      cache.answer registry.sigil definition.arguments definition.source = .error error ∧
      registry.register definition cache =
        ((registry, .error (.badSyntax definition.name error)),
          (Cache.getOrCompile registry.sigil definition.arguments definition.source cache).2)) ∨
    (registry.Admits definition ∧ ∃ compiled,
      cache.answer registry.sigil definition.arguments definition.source = .ok compiled ∧
      registry.register definition cache =
        ((registry.add (accepted definition compiled.template),
          .ok (accepted definition compiled.template)),
          (Cache.getOrCompile registry.sigil definition.arguments definition.source cache).2)) := by
  -- A definition that is not refused before it is compiled is judged by the answer of the cache.
  unfold register
  rw [Cache.bind_apply]
  by_cases admits : registry.Admits definition
  · right
    rw [prepare_of_admits admits]
    cases answered : cache.answer registry.sigil definition.arguments definition.source with
    | error error => exact .inl ⟨admits, error, rfl, rfl⟩
    | ok compiled =>
      have stored : registry.store (accepted definition compiled.template) = _ :=
        store_of_free admits.free
      refine .inr ⟨admits, compiled, rfl, ?_⟩
      dsimp only [outcomeOf]
      rw [stored]
      rfl
  · left
    obtain ⟨error, prepared, -, silent⟩ := prepare_of_not_admits admits cache
    rw [prepared]
    exact ⟨admits, error, rfl, silent⟩

end ChatCommand.Registry
