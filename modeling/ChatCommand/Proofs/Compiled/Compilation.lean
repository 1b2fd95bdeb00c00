import ChatCommand.Compilation

/-!
# Compiling and the cache

A syntax string that compiles is read as a template whose pattern can be built. The cache answers
with the outcome it keeps for a prefix and a syntax string, and compiles only when it keeps none.
The arguments take no part in the key, so they matter for the first call alone.

## Main definitions

- `Cache.answer`: what the cache answers.
- `Cache.Sound`: all outcomes kept are those of compilations.

## Main results

- `compile_eq_ok_iff`: when a syntax string compiles.
- `Cache.fst_getOrCompile`, `Cache.get?_getOrCompile`: a call gives the answer and keeps it.
-/

namespace ChatCommand

theorem Cache.bind_apply {α β : Type} (first : StateM Cache α) (next : α → StateM Cache β)
    (cache : Cache) : (first >>= next) cache = next (first cache).1 (first cache).2 := rfl

variable [Pattern.Builder] {sigil source : String} {arguments : List Argument}
  {compiled : Compiled}

theorem compileTemplate_eq_ok_iff {template : Template} :
    compileTemplate sigil template = .ok compiled ↔
      compiled = ⟨sigil, template⟩ ∧ compiled.pattern.isBuildable = true := by
  unfold compileTemplate
  dsimp only
  constructor
  · intro built
    split at built
    next buildable =>
      obtain rfl := Except.ok.inj built
      exact ⟨rfl, buildable⟩
    next => contradiction
  · rintro ⟨rfl, buildable⟩
    rw [if_pos buildable]

/-- A syntax string compiles when it can be read and the pattern can be built. -/
theorem compile_eq_ok_iff :
    compile sigil arguments source = .ok compiled ↔
      compiled.sigil = sigil ∧
        Template.parse arguments source = .ok compiled.template ∧
        compiled.pattern.isBuildable = true := by
  unfold compile
  cases Template.parse arguments source with
  | error error => simp
  | ok template =>
    simp only [compileTemplate_eq_ok_iff, Except.ok.injEq]
    constructor
    · rintro ⟨rfl, buildable⟩
      exact ⟨rfl, rfl, buildable⟩
    · rintro ⟨rfl, rfl, buildable⟩
      exact ⟨rfl, buildable⟩

/-! ### The cache -/

namespace Cache

variable {cache : Cache}

/-- The outcome kept, or else the one of compiling now. -/
def answer (cache : Cache) (sigil : String) (arguments : List Argument) (source : String) :
    Except CompileError Compiled :=
  (cache.get? ⟨sigil, source⟩).getD (compile sigil arguments source)

theorem getOrCompile_of_kept {outcome : Except CompileError Compiled}
    (kept : cache.get? ⟨sigil, source⟩ = some outcome) :
    getOrCompile sigil arguments source cache =
      (outcome, { cache with hits := cache.hits + 1 }) := by
  unfold getOrCompile
  dsimp only
  rw [kept]

theorem getOrCompile_of_new (new : cache.get? ⟨sigil, source⟩ = none) :
    getOrCompile sigil arguments source cache =
      (compile sigil arguments source,
        ⟨(⟨sigil, source⟩, compile sigil arguments source) :: cache.entries, cache.hits,
          cache.misses + 1⟩) := by
  unfold getOrCompile
  dsimp only
  rw [new]

theorem fst_getOrCompile :
    (getOrCompile sigil arguments source cache).1 = cache.answer sigil arguments source := by
  unfold answer
  cases kept : cache.get? ⟨sigil, source⟩ with
  | some outcome => rw [getOrCompile_of_kept kept, Option.getD_some]
  | none => rw [getOrCompile_of_new kept, Option.getD_none]

/-- A call keeps its answer and changes no other entry. -/
theorem get?_getOrCompile (key : CacheKey) :
    (getOrCompile sigil arguments source cache).2.get? key =
      if key = ⟨sigil, source⟩ then some (cache.answer sigil arguments source)
      else cache.get? key := by
  unfold answer
  cases kept : cache.get? ⟨sigil, source⟩ with
  | some outcome =>
    rw [getOrCompile_of_kept kept, Option.getD_some]
    show cache.get? key = _
    split
    next same => rw [same, kept]
    next => rfl
  | none =>
    rw [getOrCompile_of_new kept, Option.getD_none]
    unfold get?
    rw [List.find?_cons]
    by_cases same : key = ⟨sigil, source⟩
    · simp [same]
    · simp [same, Ne.symm same]

/-- Every outcome kept is that of compiling its syntax string, with some arguments. -/
def Sound (cache : Cache) : Prop :=
  ∀ key outcome, cache.get? key = some outcome →
    ∃ arguments, outcome = compile key.sigil arguments key.source

theorem sound_empty : empty.Sound := nofun

/-- What a sound cache answers is the outcome of a compilation. -/
theorem Sound.exists_answer_eq (sound : cache.Sound) (sigil : String) (arguments : List Argument)
    (source : String) :
    ∃ judging, cache.answer sigil arguments source = compile sigil judging source := by
  unfold answer
  cases kept : cache.get? ⟨sigil, source⟩ with
  | some outcome => exact sound _ outcome kept
  | none => exact ⟨arguments, rfl⟩

theorem Sound.getOrCompile (sound : cache.Sound) (sigil : String) (arguments : List Argument)
    (source : String) : (getOrCompile sigil arguments source cache).2.Sound := by
  intro key outcome kept
  rw [get?_getOrCompile] at kept
  split at kept
  next same =>
    subst same
    exact Option.some.inj kept ▸ sound.exists_answer_eq sigil arguments source
  next => exact sound key outcome kept

end Cache

end ChatCommand
