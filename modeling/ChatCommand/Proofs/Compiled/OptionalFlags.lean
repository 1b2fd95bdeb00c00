import ChatCommand.Pattern.Limits
import ChatCommand.Proofs.Compiled.CacheRun
import ChatCommand.Proofs.Template.Reading
import Mathlib.Data.List.TakeWhile

/-!
# What compiling sees of the arguments

Two lists of arguments are alike when they are optional in the same places. Alike lists compile to
the same outcome, and only alike ones do so for every syntax string: whether there is an argument
with an ordinal, and whether it is optional, shows in a syntax string that uses this argument alone.
So a cache, whose keys do not tell the arguments, answers each call as if it were the first one as
long as the calls for a pair come with lists that are alike.

## Main definitions

- `Argument.Alike`: lists of arguments that are optional in the same places.
- `Template.alone`: a syntax string that uses one argument.
- `Cache.Consistent`: calls that give alike arguments for one pair.

## Main results

- `Template.parse_alone`: what reading tells about the one argument.
- `Template.parse_eq_of_alike`: reading sees no more of the arguments.
- `alike_of_compile_eq`: outcomes tell lists apart that are not alike.
- `Cache.consistent_law`: alike arguments, and runs of calls with such.
-/

namespace ChatCommand

variable {arguments others : List Argument}

/-- The two lists have the same length and are optional in the same places. -/
def Argument.Alike (arguments others : List Argument) : Prop :=
  List.Forall₂ (fun argument other => argument.optional = other.optional) arguments others

theorem Argument.alike_iff :
    Alike arguments others ↔
      arguments.map Argument.optional = others.map Argument.optional := by
  rw [← List.forall₂_eq_eq_eq, List.forall₂_map_left_iff, List.forall₂_map_right_iff]
  rfl

theorem Argument.Alike.map_withOrdinal? (alike : Alike arguments others) (n : Nat) :
    (withOrdinal? arguments n).map Argument.optional =
      (withOrdinal? others n).map Argument.optional := by
  unfold withOrdinal?
  split
  · rfl
  · rw [← List.getElem?_map, ← List.getElem?_map, alike_iff.mp alike]

/-! ### A syntax string with one argument -/

namespace Template

/-- The syntax string that uses the argument with an ordinal and nothing else. -/
def alone (n : Nat) : String := String.ofList (tag ++ '$' :: Nat.toDigits 10 n)

theorem scan_alone (position n : Nat) :
    Token.scan position ('$' :: Nat.toDigits 10 n) =
      [⟨.argument (Nat.toDigits 10 n), position⟩] := by
  have decimal : ∀ c ∈ Nat.toDigits 10 n, c.isDigit = true := fun _ member =>
    Nat.isDigit_of_mem_toDigits (by decide) (by decide) member
  -- The digits go on to the end of the text.
  have taken : (Nat.toDigits 10 n).takeWhile Char.isDigit = Nat.toDigits 10 n :=
    List.takeWhile_eq_self_iff.mpr decimal
  have nothing : (Nat.toDigits 10 n).dropWhile Char.isDigit = [] :=
    List.dropWhile_eq_nil_iff.mpr decimal
  rw [Token.scan_cons]
  simp only [Token.cut, taken, nothing, Token.scan_nil]

/-- Reading the one argument tells whether there is such an argument, and whether it is optional. -/
theorem parse_alone (arguments : List Argument) (n : Nat) :
    parse arguments (alone n) =
      match (Argument.withOrdinal? arguments n).map Argument.optional with
      | none => .error ⟨.nonexistentArgument, tag.length⟩
      | some true => .error ⟨.optionalOutsideKeyOff, tag.length⟩
      | some false => .ok (sigil (argument n nil)) := by
  have tagged : Text.after? tag (alone n).toList = some ('$' :: Nat.toDigits 10 n) := by
    rw [alone, String.toList_ofList, Text.after?_eq_some_iff]
    exact ⟨tag, rfl, Text.sameAscii_refl tag⟩
  have value : Text.natOfDigits (Nat.toDigits 10 n) = n := Text.natOfDigits_toDigits n
  have written : Nat.toDigits 10 n ≠ [] := Nat.toDigits_ne_nil
  unfold parse
  rw [tagged]
  simp only [scan_alone, List.foldlM_cons, List.foldlM_nil, step]
  cases declared : Argument.withOrdinal? arguments n with
  | none =>
    have unnamed : ordinalOf arguments (Nat.toDigits 10 n) tag.length =
        .error ⟨.nonexistentArgument, tag.length⟩ := by
      simp [ordinalOf, written, value, declared]
    rw [claim_of_no_ordinal unnamed]
    rfl
  | some found =>
    have named : ordinalOf arguments (Nat.toDigits 10 n) tag.length = .ok (n, found) :=
      ordinalOf_eq_ok_iff.mpr ⟨written, value, declared⟩
    rw [claim_of_ordinal named, Option.map_some]
    cases found.optional with
    | true => simp [Draft.empty, Bind.bind, Except.bind]
    | false =>
      simp only [Draft.empty]
      rfl

/-! ### Reading under alike arguments -/

/-- Digits name no argument in either list, for the same reason, or one in each with the same
flag. -/
theorem ordinalOf_cases_of_alike (alike : Argument.Alike arguments others)
    (digits : List Char) (position : Nat) :
    (∃ error, ordinalOf arguments digits position = .error error ∧
      ordinalOf others digits position = .error error) ∨
    ∃ n found other, ordinalOf arguments digits position = .ok (n, found) ∧
      ordinalOf others digits position = .ok (n, other) ∧ found.optional = other.optional := by
  have same := alike.map_withOrdinal? (Text.natOfDigits digits)
  unfold ordinalOf
  split
  next => exact .inl ⟨_, rfl, rfl⟩
  next =>
    cases here : Argument.withOrdinal? arguments (Text.natOfDigits digits) with
    | none =>
      rw [here, Option.map_none] at same
      rw [Option.map_eq_none_iff.mp same.symm]
      exact .inl ⟨_, rfl, rfl⟩
    | some found =>
      rw [here, Option.map_some] at same
      obtain ⟨other, there, flag⟩ := Option.map_eq_some_iff.mp same.symm
      rw [there]
      exact .inr ⟨_, found, other, rfl, rfl, flag.symm⟩

/-- Of the argument that a token names, a step reads no more than whether it is optional. -/
theorem step_eq_of_alike (alike : Argument.Alike arguments others) :
    step arguments = step others := by
  funext draft spot
  unfold step
  cases spot.token with
  | char c => rfl
  | argument digits =>
    rcases ordinalOf_cases_of_alike alike digits spot.position with ⟨error, here, there⟩ |
      ⟨n, found, other, here, there, flag⟩
    · simp only [claim_of_no_ordinal here, claim_of_no_ordinal there]
    · simp only [claim_of_ordinal here, claim_of_ordinal there, flag]
  | keyOff header =>
    cases header with
    | malformed => rfl
    | keyed offset digits closed =>
      rcases ordinalOf_cases_of_alike alike digits (spot.position + offset) with
        ⟨error, here, there⟩ | ⟨n, found, other, here, there, flag⟩
      · simp only [enter_of_no_ordinal here, enter_of_no_ordinal there]
      · simp only [enter_of_ordinal here, enter_of_ordinal there, flag]
  | close => rfl

/-- Of declared arguments, reading sees how many there are and which are optional. -/
theorem parse_eq_of_alike (alike : Argument.Alike arguments others) (source : String) :
    parse arguments source = parse others source := by
  unfold parse
  rw [step_eq_of_alike alike]

end Template

/-! ### Alike arguments -/

section Builder

variable [Pattern.Builder]

theorem compileTemplate_ne_parse_error {sigil : String} {template : Template}
    {error : Template.ParseError} : compileTemplate sigil template ≠ .error (.parse error) := by
  unfold compileTemplate
  dsimp only
  split <;> simp

theorem compile_alone (sigil : String) (n : Nat) :
    compile sigil arguments (Template.alone n) =
      match (Argument.withOrdinal? arguments n).map Argument.optional with
      | none => .error (.parse ⟨.nonexistentArgument, Template.tag.length⟩)
      | some true => .error (.parse ⟨.optionalOutsideKeyOff, Template.tag.length⟩)
      | some false => compileTemplate sigil (.sigil (.argument n .nil)) := by
  unfold compile
  rw [Template.parse_alone]
  cases (Argument.withOrdinal? arguments n).map Argument.optional with
  | none => rfl
  | some flag => cases flag <;> rfl

/-- What compiling makes of the one argument tells whether it is there and whether it is
optional. -/
theorem map_withOrdinal?_eq_of_compile_alone_eq {sigil : String} {n : Nat}
    (same : compile sigil arguments (Template.alone n) =
      compile sigil others (Template.alone n)) :
    (Argument.withOrdinal? arguments n).map Argument.optional =
      (Argument.withOrdinal? others n).map Argument.optional := by
  rw [compile_alone, compile_alone] at same
  -- There are three outcomes: for no argument, an optional one and a required one.
  generalize (Argument.withOrdinal? arguments n).map Argument.optional = here at same ⊢
  generalize (Argument.withOrdinal? others n).map Argument.optional = there at same ⊢
  rcases here with _ | _ | _ <;> rcases there with _ | _ | _ <;>
    simp_all [compileTemplate_ne_parse_error, compileTemplate_ne_parse_error.symm]

theorem Argument.Alike.compile_eq (alike : Argument.Alike arguments others)
    (sigil source : String) : compile sigil arguments source = compile sigil others source := by
  simp only [compile, Template.parse_eq_of_alike alike]

/-- Lists of arguments that compile to the same outcomes under one prefix are alike. -/
theorem alike_of_compile_eq {sigil : String}
    (same : ∀ source, compile sigil arguments source = compile sigil others source) :
    Argument.Alike arguments others := by
  rw [Argument.alike_iff]
  -- Ordinals count from one, and places in a list from zero.
  apply List.ext_getElem?
  intro index
  have here := map_withOrdinal?_eq_of_compile_alone_eq (same (Template.alone (index + 1)))
  simpa [Argument.withOrdinal?] using here

end Builder

/-! ### Runs with alike arguments -/

namespace Cache

variable {before later : List Request} {request : Request} {demand : Demand}

/-- Calls for the same pair come with arguments that are alike. -/
def Consistent (requests : List Request) : Prop :=
  ∀ demand ∈ demands requests, ∀ other ∈ demands requests, demand.key = other.key →
    Argument.Alike demand.arguments other.arguments

/-- In a consistent run the call that decides about another one has the same outcome. -/
theorem Consistent.outcome_deciding [Pattern.Builder]
    (consistent : Consistent (before ++ request :: later))
    (demands? : request.demand? = some demand) :
    (deciding before demand).outcome = demand.outcome := by
  unfold deciding
  cases first : firstFor? before demand.key with
  | none => rfl
  | some earlier =>
    have same := key_of_firstFor? first
    have here : demand ∈ demands (before ++ request :: later) := by
      simp [demands, demands?]
    have there : earlier ∈ demands (before ++ request :: later) := by
      rw [demands_append]
      exact List.mem_append_left _ (mem_demands_of_firstFor? first)
    have alike := consistent earlier there demand here same
    show compile earlier.key.sigil earlier.arguments earlier.key.source = demand.outcome
    rw [same]
    exact alike.compile_eq _ _

/-- With lists that are not alike there is a syntax string for which the second call is answered by
the outcome of the first one although its own is different. -/
theorem exists_stale_of_not_alike [Pattern.Builder]
    (different : ¬ Argument.Alike arguments others) (sigil : String) :
    ∃ source, (serve (.compile ⟨⟨sigil, source⟩, others⟩)
      (after [.compile ⟨⟨sigil, source⟩, arguments⟩])).1 ≠
        .compiled (compile sigil others source) := by
  by_contra none
  push Not at none
  have same (source : String) :
      compile sigil arguments source = compile sigil others source := by
    have reply := none source
    rw [(follows_after _).reply_eq] at reply
    simpa [due, deciding, firstFor?, demands, Request.demand?, Demand.outcome] using reply
  exact different (alike_of_compile_eq same)

/-- Of the arguments, reading and compiling see no more and no less than which are optional. So in a
run whose calls for the same pair come with arguments that are optional in the same places, each
call for an outcome is answered by the one that its own arguments give, and each extraction goes by
it. -/
theorem consistent_law [Pattern.Builder] :
    (∀ arguments others, Argument.Alike arguments others → ∀ source,
      Template.parse arguments source = Template.parse others source) ∧
    (∀ arguments others sigil, Argument.Alike arguments others ↔
      ∀ source, compile sigil arguments source = compile sigil others source) ∧
    ∀ before later demand,
      (Consistent (before ++ .compile demand :: later) →
        (serve (.compile demand) (after before)).1 = .compiled demand.outcome) ∧
      ∀ message, Consistent (before ++ .extract demand message :: later) →
        (serve (.extract demand message) (after before)).1 =
          .extracted (.ofOutcome demand.outcome demand.arguments message) := by
  refine ⟨?_, ?_, ?_⟩
  · intro arguments others alike source
    exact Template.parse_eq_of_alike alike source
  · intro arguments others sigil
    exact ⟨fun alike source => alike.compile_eq sigil source, alike_of_compile_eq⟩
  · intro before later demand
    constructor
    · intro consistent
      rw [(follows_after before).reply_eq, due, consistent.outcome_deciding rfl]
    · intro message consistent
      rw [(follows_after before).reply_eq, due, consistent.outcome_deciding rfl]

open scoped Pattern.Limits in
/-- Two calls with arguments that go by other ids and names. -/
theorem consistent_law_renamed : ∃ who whom : Argument, who.id ≠ whom.id ∧
    Consistent [.compile ⟨⟨"!", "<prefix>ban $1"⟩, [who]⟩,
      .compile ⟨⟨"!", "<prefix>ban $1"⟩, [whom]⟩] ∧
    (serve (.compile ⟨⟨"!", "<prefix>ban $1"⟩, [whom]⟩)
      (after [.compile ⟨⟨"!", "<prefix>ban $1"⟩, [who]⟩])).1 =
        .compiled (Demand.outcome ⟨⟨"!", "<prefix>ban $1"⟩, [whom]⟩) := by
  refine ⟨.required "who" "Who", .required "whom" "Whom", by decide, ?_⟩
  have consistent : Consistent [.compile ⟨⟨"!", "<prefix>ban $1"⟩, [.required "who" "Who"]⟩,
      .compile ⟨⟨"!", "<prefix>ban $1"⟩, [.required "whom" "Whom"]⟩] := by
    intro demand member other among _
    simp only [demands, List.filterMap_cons, Request.demand?, List.filterMap_nil, List.mem_cons,
      List.not_mem_nil, or_false] at member among
    rcases member with rfl | rfl <;> rcases among with rfl | rfl <;> exact .cons rfl .nil
  exact ⟨consistent, (consistent_law.2.2 [_] [] ⟨_, [.required "whom" "Whom"]⟩).1 consistent⟩

end Cache

end ChatCommand
