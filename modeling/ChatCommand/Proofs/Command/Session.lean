import ChatCommand.Pattern.Limits
import ChatCommand.Proofs.Command.Registration
import Mathlib

/-!
# Sequences of registrations

A session is a registry with its cache and the calls that were made. Whether a definition is
accepted depends on the commands accepted earlier and on one more call: the first with the same
syntax string whose definition came to be compiled, because the cache keeps the outcome for that
string whatever arguments came with it. That earlier call decides even when it was refused.

## Main definitions

- `Session`, `Session.after`: the calls on a fresh registry.
- `Session.judging`: the arguments with which a definition is judged.
- `Session.JudgedAlone`: a call whose outcome is the one its definition deserves by itself.

## Main results

- `Session.tracks_after`: how registry and cache go with the calls made.
- `Session.judgedAlone_iff`: what decides a call, and when that is the definition by itself.
-/

namespace ChatCommand

/-- A registration with its outcome. -/
structure Call where
  definition : Definition
  outcome : Except DefinitionError Registered

namespace Call

/-- Whether the definition was accepted. -/
def accepted (call : Call) : Bool := call.outcome.isOk

/-- Whether the definition came to be compiled. -/
def reachedSyntax (call : Call) : Bool :=
  match call.outcome with
  | .ok _ | .error (.badSyntax _ _) => true
  | .error _ => false

/-- The definition that came to be compiled first with a syntax string. -/
def firstWith? (calls : List Call) (source : String) : Option Definition :=
  (calls.find? fun call => call.reachedSyntax && call.definition.source = source).map
    definition

theorem firstWith?_concat (calls : List Call) (call : Call) (source : String) :
    firstWith? (calls ++ [call]) source = (firstWith? calls source).or
      (if call.reachedSyntax = true ∧ call.definition.source = source
        then some call.definition else none) := by
  unfold firstWith?
  rw [List.find?_append, Option.map_or, List.find?_singleton]
  simp only [Bool.and_eq_true, decide_eq_true_eq]
  split <;> rfl

end Call

/-- A registry with its cache and the calls made so far, in order. -/
structure Session where
  registry : Registry
  cache : Cache
  calls : List Call

namespace Session

/-- A new registry with a new cache. -/
def fresh (sigil : String) : Session := ⟨.empty sigil, .empty, []⟩

section Builder

variable [Pattern.Builder]

/-- The outcome of a call. -/
def outcome (session : Session) (definition : Definition) : Except DefinitionError Registered :=
  (session.registry.register definition session.cache).1.2

/-- The session after one more call. -/
def register (session : Session) (definition : Definition) : Session :=
  let ((registry, outcome), cache) := session.registry.register definition session.cache
  ⟨registry, cache, session.calls ++ [⟨definition, outcome⟩]⟩

/-- The session after calls on a fresh registry. -/
def after (sigil : String) (definitions : List Definition) : Session :=
  definitions.foldl register (fresh sigil)

/-- The arguments with which a definition is judged: those of the first definition with the same
syntax string that came to be compiled, which may be the definition itself. -/
def judging (session : Session) (definition : Definition) : List Argument :=
  ((Call.firstWith? session.calls definition.source).getD definition).arguments

/-- Nothing but the syntax string can speak against a definition. -/
structure Acceptable (session : Session) (definition : Definition) : Prop where
  named : definition.name ≠ ""
  solid : ∀ c ∈ definition.name.toList, Text.isBlank c = false
  /-- No definition accepted earlier has the name in any letter case. -/
  free : ∀ call ∈ session.calls, call.accepted = true →
    Text.lowercase call.definition.name ≠ Text.lowercase definition.name
  distinct : (definition.arguments.map Argument.id).Nodup

/-- The definition is accepted just when nothing speaks against it and its syntax string compiles
with its own arguments, and then it is kept with the template of that compilation. -/
def JudgedAlone (sigil : String) (session : Session) (definition : Definition) : Prop :=
  ∀ template, (∃ command, session.outcome definition = .ok command ∧
      command.template = template) ↔
    session.Acceptable definition ∧
      compile sigil definition.arguments definition.source = .ok ⟨sigil, template⟩

/-! ### Registry, cache and calls -/

variable {sigil : String} {session : Session} {definition : Definition}

/-- The registry holds the definitions accepted, and the cache the outcomes for the definitions
that came to be compiled first. -/
structure Tracks (sigil : String) (session : Session) : Prop where
  sigil_eq : session.registry.sigil = sigil
  commands : ∀ name, session.registry.get? name = none ↔
    ∀ call ∈ session.calls, call.accepted = true →
      Text.lowercase call.definition.name ≠ Text.lowercase name
  outcomes : ∀ source, session.cache.get? ⟨sigil, source⟩ =
    (Call.firstWith? session.calls source).map fun first => compile sigil first.arguments source

theorem Tracks.admits_iff (tracks : session.Tracks sigil) :
    session.registry.Admits definition ↔ session.Acceptable definition := by
  constructor
  · rintro ⟨named, solid, free, distinct⟩
    exact ⟨named, solid, (tracks.commands _).mp free, distinct⟩
  · rintro ⟨named, solid, free, distinct⟩
    exact ⟨named, solid, (tracks.commands _).mpr free, distinct⟩

/-- The cache answers with the outcome for the definition that came to be compiled first. -/
theorem Tracks.answer_eq (tracks : session.Tracks sigil) :
    session.cache.answer session.registry.sigil definition.arguments definition.source =
      compile sigil (session.judging definition) definition.source := by
  unfold Cache.answer judging
  rw [tracks.sigil_eq, tracks.outcomes]
  cases Call.firstWith? session.calls definition.source <;> rfl

theorem register_eq {registry : Registry} {cache : Cache}
    {result : Except DefinitionError Registered}
    (called : session.registry.register definition session.cache = ((registry, result), cache)) :
    session.register definition = ⟨registry, cache, session.calls ++ [⟨definition, result⟩]⟩ := by
  unfold register
  rw [called]

theorem Tracks.fresh (sigil : String) : (Session.fresh sigil).Tracks sigil where
  sigil_eq := rfl
  commands := fun _ => ⟨fun _ => nofun, fun _ => rfl⟩
  outcomes := fun _ => rfl

/-- What the cache keeps after a definition came to be compiled. -/
theorem Tracks.outcomes_concat (tracks : session.Tracks sigil)
    {result : Except DefinitionError Registered}
    (reached : Call.reachedSyntax ⟨definition, result⟩ = true) (source : String) :
    (Cache.getOrCompile session.registry.sigil definition.arguments definition.source
        session.cache).2.get? ⟨sigil, source⟩ =
      (Call.firstWith? (session.calls ++ [⟨definition, result⟩]) source).map fun first =>
        compile sigil first.arguments source := by
  rw [Cache.get?_getOrCompile, tracks.answer_eq, tracks.sigil_eq, Call.firstWith?_concat]
  by_cases same : definition.source = source
  · -- The answer was kept before, or else this call is the first one with its syntax string.
    subst same
    rw [if_pos rfl, if_pos ⟨reached, rfl⟩]
    unfold judging
    cases Call.firstWith? session.calls definition.source <;> rfl
  · have other : (⟨sigil, source⟩ : CacheKey) ≠ ⟨sigil, definition.source⟩ :=
      fun equal => same (CacheKey.mk.inj equal).2.symm
    rw [if_neg other, if_neg (fun both => same both.2), Option.or_none]
    exact tracks.outcomes source

/-- A call keeps registry, cache and calls together. -/
theorem Tracks.register (tracks : session.Tracks sigil) (definition : Definition) :
    (session.register definition).Tracks sigil := by
  -- A definition that is refused leaves the registry as it was.
  have refusal {call : Call} (refused : call.accepted = false) (name : String) :
      session.registry.get? name = none ↔ ∀ other ∈ session.calls ++ [call],
        other.accepted = true →
          Text.lowercase other.definition.name ≠ Text.lowercase name := by
    rw [tracks.commands, List.forall_mem_append, List.forall_mem_singleton, refused]
    simp
  rcases session.registry.register_cases definition session.cache with
    ⟨-, error, called, silent⟩ | ⟨-, error, -, called⟩ | ⟨-, compiled, -, called⟩
  · -- Such a call leaves the cache alone and does not count as a first one later.
    rw [register_eq called]
    refine ⟨tracks.sigil_eq, refusal rfl, fun source => ?_⟩
    have unread : Call.reachedSyntax ⟨definition, .error error⟩ = false := by
      unfold Call.reachedSyntax
      split
      next accepted => cases accepted
      next command reason refused => exact absurd (Except.error.inj refused) (silent command reason)
      next => rfl
    show session.cache.get? _ = (Call.firstWith? (_ ++ [_]) source).map _
    rw [Call.firstWith?_concat, unread, if_neg (fun both => nomatch both.1), Option.or_none]
    exact tracks.outcomes source
  · rw [register_eq called]
    exact ⟨tracks.sigil_eq, refusal rfl, tracks.outcomes_concat rfl⟩
  · rw [register_eq called]
    refine ⟨tracks.sigil_eq, fun name => ?_, tracks.outcomes_concat rfl⟩
    rw [Registry.get?_add, List.forall_mem_append, List.forall_mem_singleton, ← tracks.commands]
    show (if Text.lowercase definition.name = _ then _ else _) = none ↔ _
    split
    next same => simp [same, Call.accepted, Except.isOk, Except.toBool]
    next other => simp [other]

theorem Tracks.foldl_register (tracks : session.Tracks sigil) (definitions : List Definition) :
    (definitions.foldl Session.register session).Tracks sigil := by
  induction definitions generalizing session with
  | nil => exact tracks
  | cons definition rest ih => exact ih (tracks.register definition)

/-- Registry, cache and calls stay together in every session. -/
theorem tracks_after (sigil : String) (definitions : List Definition) :
    (after sigil definitions).Tracks sigil :=
  (Tracks.fresh sigil).foldl_register definitions

/-! ### What decides a call -/

/-- A definition is accepted with a template when nothing else speaks against it and the
compilation that judges it yields this template. -/
theorem Tracks.outcome_eq_ok_iff (tracks : session.Tracks sigil) {command : Registered} :
    session.outcome definition = .ok command ↔
      session.Acceptable definition ∧
        compile sigil (session.judging definition) definition.source =
          .ok ⟨sigil, command.template⟩ ∧
        command = Registry.accepted definition command.template := by
  rw [← tracks.admits_iff, ← tracks.answer_eq]
  unfold outcome
  rcases session.registry.register_cases definition session.cache with
    ⟨refused, error, called, -⟩ | ⟨-, error, answered, called⟩ |
    ⟨admits, compiled, answered, called⟩
  · rw [called]
    exact ⟨nofun, fun accepted => absurd accepted.1 refused⟩
  · rw [called, answered]
    exact ⟨nofun, fun accepted => nomatch accepted.2.1⟩
  · rw [called, answered]
    have shape : compiled = ⟨sigil, compiled.template⟩ := by
      rw [tracks.answer_eq] at answered
      rw [← (compile_eq_ok_iff.mp answered).1]
    constructor
    · intro accepted
      obtain rfl := Except.ok.inj accepted
      exact ⟨admits, congrArg _ shape, rfl⟩
    · rintro ⟨-, same, made⟩
      rw [Except.ok.inj same]
      exact congrArg Except.ok made.symm

/-- A definition that is accepted is kept under its name. -/
theorem get?_register {command : Registered} (accepted : session.outcome definition = .ok command) :
    (session.register definition).registry.get? definition.name = some command := by
  unfold outcome at accepted
  rcases session.registry.register_cases definition session.cache with
    ⟨-, error, called, -⟩ | ⟨-, error, -, called⟩ | ⟨-, compiled, -, called⟩
  · rw [called] at accepted
    contradiction
  · rw [called] at accepted
    contradiction
  · rw [called] at accepted
    rw [register_eq called, Registry.get?_add]
    exact (if_pos rfl).trans (congrArg some (Except.ok.inj accepted))

/-- A definition is judged with the arguments of the first definition with its syntax string that
came to be compiled. So a call is judged alone just when these arguments and its own ones make the
syntax string compile to the same template or not at all. What is accepted is kept. -/
theorem judgedAlone_iff (sigil : String) (earlier : List Definition) (definition : Definition) :
    (∀ template, (∃ command, (after sigil earlier).outcome definition = .ok command ∧
        command.template = template) ↔
      (after sigil earlier).Acceptable definition ∧
        compile sigil ((after sigil earlier).judging definition) definition.source =
          .ok ⟨sigil, template⟩) ∧
    ((after sigil earlier).JudgedAlone sigil definition ↔
      ((after sigil earlier).Acceptable definition → ∀ template,
        (compile sigil ((after sigil earlier).judging definition) definition.source =
            .ok ⟨sigil, template⟩ ↔
          compile sigil definition.arguments definition.source = .ok ⟨sigil, template⟩))) ∧
    ∀ command, (after sigil earlier).outcome definition = .ok command →
      (after sigil (earlier ++ [definition])).registry.get? definition.name = some command := by
  have tracks := tracks_after sigil earlier
  -- The cache answers with the compilation that judges the definition, whatever came with it.
  have decided (template : Template) :
      (∃ command, (after sigil earlier).outcome definition = .ok command ∧
        command.template = template) ↔
      (after sigil earlier).Acceptable definition ∧
        compile sigil ((after sigil earlier).judging definition) definition.source =
          .ok ⟨sigil, template⟩ := by
    constructor
    · rintro ⟨command, accepted, rfl⟩
      obtain ⟨acceptable, judged, -⟩ := tracks.outcome_eq_ok_iff.mp accepted
      exact ⟨acceptable, judged⟩
    · rintro ⟨acceptable, judged⟩
      exact ⟨Registry.accepted definition template,
        tracks.outcome_eq_ok_iff.mpr ⟨acceptable, judged, rfl⟩, rfl⟩
  refine ⟨decided, ?_, ?_⟩
  · unfold JudgedAlone
    simp only [decided]
    constructor
    · intro alone acceptable template
      simpa [acceptable] using alone template
    · intro agree template
      exact and_congr_right fun acceptable => agree acceptable template
  · intro command accepted
    unfold after
    rw [List.foldl_append]
    exact get?_register accepted

end Builder

open scoped Pattern.Limits in
/-- A definition that is refused for a missing argument is refused again after the argument is
declared. -/
theorem not_forall_judgedAlone : ¬ ∀ sigil earlier definition,
    (after sigil earlier).JudgedAlone sigil definition := by
  intro alone
  have calls : (after "!" [⟨"a", "<prefix>a $1", none, []⟩]).calls =
      [⟨⟨"a", "<prefix>a $1", none, []⟩,
        .error (.badSyntax "a" (.parse ⟨.nonexistentArgument, 10⟩))⟩] := by cbv
  have acceptable : (after "!" [⟨"a", "<prefix>a $1", none, []⟩]).Acceptable
      ⟨"a", "<prefix>a $1", none, [.required "x" "x"]⟩ := by
    have valid : Registry.isValidName "a" = true := by cbv
    obtain ⟨named, solid⟩ := Registry.isValidName_iff.mp valid
    refine ⟨named, solid, ?_, by decide⟩
    rw [calls]
    exact List.forall_mem_singleton.mpr fun accepted => absurd accepted Bool.false_ne_true
  have compiles : compile "!" [.required "x" "x"] "<prefix>a $1" =
      .ok ⟨"!", .sigil (.literal "a ".toList (.argument 1 .nil))⟩ :=
    compile_eq_ok_iff.mpr ⟨rfl, by cbv, by decide⟩
  obtain ⟨command, accepted, -⟩ := (alone "!" [⟨"a", "<prefix>a $1", none, []⟩]
    ⟨"a", "<prefix>a $1", none, [.required "x" "x"]⟩ _).mpr ⟨acceptable, compiles⟩
  have refused : (after "!" [⟨"a", "<prefix>a $1", none, []⟩]).outcome
      ⟨"a", "<prefix>a $1", none, [.required "x" "x"]⟩ =
        .error (.badSyntax "a" (.parse ⟨.nonexistentArgument, 10⟩)) := by cbv
  rw [refused] at accepted
  contradiction

end Session

end ChatCommand
