import ChatCommand.Argument
import ChatCommand.Pattern.Builder
import ChatCommand.Pattern.Matching
import ChatCommand.Template.Parser

/-!
# Compiled commands

Compiling a syntax string under a prefix reads its template and makes sure that the pattern can be
built.

## Main definitions

- `Compiled`: a template under a prefix.
- `compile`, `compileTemplate`: compiled commands of syntax strings and of templates.
- `Cache`: compiled commands by prefix and syntax string, kept from their first use on.
-/

namespace ChatCommand

/-- Why a syntax string does not compile. -/
inductive CompileError where
  | parse (error : Template.ParseError)
  /-- The pattern cannot be built, in the words of its builder. -/
  | pattern (refusal : String)
  deriving DecidableEq, Repr

/-- The sentence for an error. -/
def CompileError.message : CompileError → String
  | parse error => error.message
  | pattern refusal => "generated pattern failed to build: " ++ refusal

/-- A template under a prefix. -/
structure Compiled where
  sigil : String
  template : Template
  deriving DecidableEq, Repr

namespace Compiled

/-- The pattern that messages have to match. -/
def pattern (compiled : Compiled) : Pattern := compiled.template.toPattern compiled.sigil

/-- The written form of the pattern. -/
def source (compiled : Compiled) : String := compiled.pattern.render

end Compiled

variable [Pattern.Builder]

/-- Compiles a template. -/
def compileTemplate (sigil : String) (template : Template) : Except CompileError Compiled :=
  let compiled : Compiled := ⟨sigil, template⟩
  if compiled.pattern.isBuildable then .ok compiled
  else .error (.pattern (Pattern.Builder.refusal compiled.pattern))

/-- Compiles a syntax string. -/
def compile (sigil : String) (arguments : List Argument) (source : String) :
    Except CompileError Compiled :=
  match Template.parse arguments source with
  | .ok template => compileTemplate sigil template
  | .error error => .error (.parse error)

/-! ### The cache -/

/-- What a compiled command is kept under. -/
structure CacheKey where
  sigil : String
  source : String
  deriving DecidableEq, Repr

/-- The outcomes of compilations so far, the first one last, and how often an outcome was found
or had to be made. -/
structure Cache where
  entries : List (CacheKey × Except CompileError Compiled)
  hits : Nat
  misses : Nat

namespace Cache

/-- Nothing compiled yet. -/
def empty : Cache := ⟨[], 0, 0⟩

/-- The number of outcomes kept. -/
def size (cache : Cache) : Nat := cache.entries.length

/-- The outcome kept for a key. -/
def get? (cache : Cache) (key : CacheKey) : Option (Except CompileError Compiled) :=
  (cache.entries.find? fun entry => entry.1 = key).map Prod.snd

/-- The outcome kept for a key, or else the one of compiling now, which is kept from then on. -/
def getOrCompile (sigil : String) (arguments : List Argument) (source : String) :
    StateM Cache (Except CompileError Compiled) := fun cache =>
  let key : CacheKey := ⟨sigil, source⟩
  match cache.get? key with
  | some outcome => (outcome, { cache with hits := cache.hits + 1 })
  | none =>
    let outcome := compile sigil arguments source
    (outcome, ⟨(key, outcome) :: cache.entries, cache.hits, cache.misses + 1⟩)

end Cache

end ChatCommand
