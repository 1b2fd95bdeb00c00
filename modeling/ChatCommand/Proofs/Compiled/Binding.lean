import ChatCommand.Binding
import ChatCommand.Pattern.Limits
import ChatCommand.Proofs.Check.Object
import ChatCommand.Proofs.Check.Regular
import ChatCommand.Proofs.Compiled.Compilation
import ChatCommand.Proofs.Compiled.Findings

/-!
# Binding what was extracted

The texts of a complete extraction are the fields of an object with one field for each argument.
Binding yields a record with the same keys when every text passes the check of its argument, and
otherwise explains what is wrong with the texts that do not, argument by argument. Whether an
argument is optional makes no difference to its text: the check that allows `null` gives the same
value.

## Main definitions

- `Extraction.textUnder?`: the text extracted under a key.
- `Argument.textCheck`, `Argument.Declarable`: the check of an argument's text.
- `Argument.rejects`, `Argument.explanations`: what is wrong with a text.
- `Record.HandsOver`, `Failure.Blames`: what binding says.

## Main results

- `Argument.run_property_eq_ok_iff`: an optional argument takes its text like a required one.
- `bind_extracted`: binding what was extracted.
-/

namespace ChatCommand

open Json.Fields (get? keys)

variable {compiled : Compiled} {arguments : List Argument} {argument : Argument}
  {message : String} {extraction : Extraction}

namespace Extraction

/-- The text extracted under a key. -/
def textUnder? (extraction : Extraction) (id : String) : Option String :=
  (get? id extraction.values).join

end Extraction

/-! ### One argument -/

namespace Argument

/-- The check of the argument's text: its constraint, or any text at all. -/
def textCheck (argument : Argument) : Check Json := argument.constraint.getD Check.string.erase

/-- The argument carries no constraint, or one that a manifest can declare. -/
def Declarable (argument : Argument) : Prop :=
  ∀ check, argument.constraint = some check →
    ∃ constraint : Constraint, constraint.toCheck = .ok check

/-- The check of the argument's text accepts a text. -/
def Accepts (argument : Argument) (text : String) : Prop :=
  ∃ value, argument.textCheck.run (some (.text text)) = .ok value

/-- Whether the text of the argument, if there is any, is refused. -/
def rejects (argument : Argument) (text? : Option String) : Bool :=
  text?.any fun text => (argument.textCheck.run (some (.text text))).toOption.isNone

/-- What there is to explain about the text of the argument, under its key. -/
def explanations (argument : Argument) (text? : Option String) : List Explanation :=
  (Failure.explanationsOf (argument.property.run (some (.ofOption .text text?)))).map
    (Explanation.under (.key argument.id))

theorem lasting_textCheck (declarable : argument.Declarable) : argument.textCheck.Lasting := by
  unfold textCheck
  cases constraint : argument.constraint with
  | none => exact Check.regular_string.lasting_erase
  | some check =>
    obtain ⟨declared, made⟩ := declarable check constraint
    exact declared.lasting_toCheck made

theorem regular_property (declarable : argument.Declarable) : argument.property.Regular := by
  have regular : argument.textCheck.Regular := (lasting_textCheck declarable).toRegular
  unfold property
  split
  · exact regular.nullable.erase
  · exact regular

/-- The check of an argument takes a text like the check of texts, whether it allows `null` or
not. -/
theorem run_property_eq_ok_iff (declarable : argument.Declarable) {text : String} {value : Json} :
    argument.property.run (some (.text text)) = .ok value ↔
      argument.textCheck.run (some (.text text)) = .ok value := by
  have present : some (Json.text text) ≠ some .null := by simp
  unfold property
  split
  · exact Check.run_erase_nullable_eq_ok_iff (lasting_textCheck declarable) present
  · exact Iff.rfl

theorem run_property_null (optional : argument.optional = true) :
    argument.property.run (some .null) = .ok .null := by
  unfold property
  rw [if_pos optional]
  exact Check.run_erase_nullable_null _

theorem rejects_eq_true_iff {text? : Option String} :
    argument.rejects text? = true ↔ ∃ text, text? = some text ∧ ¬ argument.Accepts text := by
  unfold rejects Accepts
  cases text? with
  | none => simp
  | some text =>
    cases checked : argument.textCheck.run (some (.text text)) <;> simp [checked, Except.toOption]

/-- The check of an argument fails just on a text that is refused. -/
theorem exists_run_property_iff (declarable : argument.Declarable) {text? : Option String}
    (given : argument.optional = true ∨ text?.isSome = true) :
    (∃ value, argument.property.run (some (.ofOption .text text?)) = .ok value) ↔
      ∀ text, text? = some text → argument.Accepts text := by
  cases text? with
  | none =>
    have optional : argument.optional = true := given.resolve_right nofun
    exact ⟨fun _ => nofun, fun _ => ⟨.null, run_property_null optional⟩⟩
  | some text =>
    constructor
    · rintro ⟨value, accepted⟩ text ⟨rfl⟩
      exact ⟨value, (run_property_eq_ok_iff declarable).mp accepted⟩
    · intro accepts
      obtain ⟨value, accepted⟩ := accepts text rfl
      exact ⟨value, (run_property_eq_ok_iff declarable).mpr accepted⟩

/-- There is something to explain just about a text that is refused. -/
theorem rejects_iff_explanations_ne_nil (declarable : argument.Declarable)
    {text? : Option String} (given : argument.optional = true ∨ text?.isSome = true) :
    argument.rejects text? = true ↔ argument.explanations text? ≠ [] := by
  have accepts := exists_run_property_iff declarable given
  rw [rejects_eq_true_iff]
  unfold explanations
  cases checked : argument.property.run (some (.ofOption .text text?)) with
  | ok value =>
    have all := accepts.mp ⟨value, checked⟩
    refine ⟨?_, nofun⟩
    rintro ⟨text, found, refused⟩
    exact absurd (all text found) refused
  | error failure =>
    have proper := (regular_property declarable).run _ failure checked
    refine ⟨fun _ => by simpa [Failure.explanationsOf] using proper.information_ne_nil, fun _ => ?_⟩
    by_contra none
    rw [checked] at accepts
    have all : ∀ text, text? = some text → argument.Accepts text := by
      intro text found
      by_contra refused
      exact none ⟨text, found, refused⟩
    obtain ⟨value, same⟩ := accepts.mpr all
    contradiction

/-- What there is to explain about a text is under the key of the argument and speaks of no
undeclared key. -/
theorem of_mem_explanations (declarable : argument.Declarable) {text? : Option String}
    {explanation : Explanation} (member : explanation ∈ argument.explanations text?) :
    explanation.path.head? = some (.key argument.id) ∧
      explanation.message ≠ Failure.undeclaredSentence := by
  unfold explanations at member
  obtain ⟨own, inside, rfl⟩ := List.mem_map.mp member
  refine ⟨rfl, ?_⟩
  cases checked : argument.property.run (some (.ofOption .text text?)) with
  | ok value =>
    rw [checked] at inside
    contradiction
  | error failure =>
    rw [checked] at inside
    exact ((regular_property declarable).run _ failure checked).message_ne own inside

theorem mem_iff_exists_withOrdinal? :
    argument ∈ arguments ↔ ∃ n, withOrdinal? arguments n = some argument := by
  have listed : (numbered arguments).map Prod.snd = arguments :=
    (map_numbered (fun argument => argument) arguments).trans (List.map_id' arguments)
  constructor
  · intro member
    rw [← listed] at member
    obtain ⟨⟨n, other⟩, numbered, rfl⟩ := List.mem_map.mp member
    exact ⟨n, mem_numbered_iff.mp numbered⟩
  · rintro ⟨n, declared⟩
    exact listed ▸ List.mem_map_of_mem (mem_numbered_iff.mpr declared)

/-- The declared keys, each with its check. -/
def properties (arguments : List Argument) : List (String × Check Json) :=
  arguments.map fun argument => (argument.id, argument.property)

theorem keys_properties (arguments : List Argument) :
    keys (properties arguments) = arguments.map Argument.id := by
  unfold keys properties
  rw [List.map_map]
  rfl

end Argument

/-! ### All arguments -/

namespace Extraction

/-- The record has a field for each argument: nothing for an optional one without a text, and else
what the check of its text yields. -/
structure HandsOver (extraction : Extraction) (arguments : List Argument) (record : Json.Fields) :
    Prop where
  keys_perm : (keys record).Perm (arguments.map Argument.id)
  absent : ∀ argument ∈ arguments, extraction.textUnder? argument.id = none →
    argument.optional = true ∧ get? argument.id record = some .null
  given : ∀ argument ∈ arguments, ∀ text, extraction.textUnder? argument.id = some text →
    ∃ value, argument.textCheck.run (some (.text text)) = .ok value ∧ value ≠ .null ∧
      get? argument.id record = some value

/-- The arguments whose texts are refused, in the order of declaration. -/
def rejected (extraction : Extraction) (arguments : List Argument) : List Argument :=
  arguments.filter fun argument => argument.rejects (extraction.textUnder? argument.id)

/-- The failure explains what is wrong with the texts that are refused, argument by argument, and
speaks of nothing else. -/
structure Blames (extraction : Extraction) (arguments : List Argument) (failure : Failure) :
    Prop where
  proper : failure.Proper
  grouped : failure.information = (extraction.rejected arguments).flatMap fun argument =>
    argument.explanations (extraction.textUnder? argument.id)
  each : ∀ argument ∈ extraction.rejected arguments,
    argument.explanations (extraction.textUnder? argument.id) ≠ [] ∧
      ∀ explanation ∈ argument.explanations (extraction.textUnder? argument.id),
        explanation.path.head? = some (.key argument.id)

/-! ### Complete extractions -/

/-- The values extracted are those of the arguments, and a required argument has a text. -/
structure Covers (extraction : Extraction) (arguments : List Argument) : Prop where
  keys_perm : (keys extraction.valuesAsJson).Perm (arguments.map Argument.id)
  value : ∀ argument ∈ arguments, get? argument.id extraction.valuesAsJson =
    some (.ofOption .text (extraction.textUnder? argument.id))
  supplied : ∀ argument ∈ arguments,
    argument.optional = true ∨ (extraction.textUnder? argument.id).isSome = true

/-- A complete extraction has a value for each argument and no other. -/
theorem covers_extract (distinct : (arguments.map Argument.id).Nodup)
    (succeeded : (compiled.extract arguments message).succeeded = true) :
    (compiled.extract arguments message).Covers arguments := by
  obtain ⟨values, extracted⟩ := Extraction.succeeded_iff.mp succeeded
  obtain ⟨captures, -, complete, yielded⟩ := Compiled.extract_eq_complete_iff.mp extracted
  -- The value under the key of an argument is what was found of it.
  have found (argument : Argument) (member : argument ∈ arguments) :
      ∃ n, Argument.withOrdinal? arguments n = some argument ∧
        get? argument.id values = some (compiled.find captures n argument).value := by
    obtain ⟨n, declared⟩ := Argument.mem_iff_exists_withOrdinal?.mp member
    exact ⟨n, declared, Compiled.get?_yielded distinct yielded declared⟩
  rw [extracted]
  have text (argument : Argument) {value : Option String}
      (here : get? argument.id values = some value) :
      (Extraction.complete values).textUnder? argument.id = value := congrArg Option.join here
  constructor
  · unfold Extraction.valuesAsJson keys
    rw [List.map_map]
    exact yielded ▸ Compiled.keys_sort_findings_perm distinct
  · intro argument member
    obtain ⟨n, declared, here⟩ := found argument member
    rw [text argument here]
    exact (Json.Fields.get?_map _ values argument.id).trans (congrArg (Option.map _) here)
  · intro argument member
    obtain ⟨n, declared, here⟩ := found argument member
    rw [text argument here]
    cases optional : argument.optional with
    | true => exact .inl rfl
    | false => exact .inr ((complete n argument declared).2 optional)

theorem Covers.closed (covers : extraction.Covers arguments) :
    ∀ field ∈ extraction.valuesAsJson, field.1 ∈ keys (Argument.properties arguments) := by
  intro field member
  rw [Argument.keys_properties]
  exact covers.keys_perm.subset (List.mem_map_of_mem member)

theorem Covers.exists_bind_iff (covers : extraction.Covers arguments)
    (declarable : ∀ argument ∈ arguments, argument.Declarable) :
    (∃ record, bind arguments extraction.valuesAsJson = .ok record) ↔
      ∀ argument ∈ arguments, ∀ text, extraction.textUnder? argument.id = some text →
        argument.Accepts text := by
  unfold bind specification
  rw [← Argument.properties, Check.exists_run_object_iff covers.closed, Argument.properties,
    List.forall_mem_map]
  refine forall₂_congr fun argument member => ?_
  rw [covers.value argument member]
  exact Argument.exists_run_property_iff (declarable argument member)
    (covers.supplied argument member)

theorem Covers.handsOver {record : Json.Fields} (covers : extraction.Covers arguments)
    (declarable : ∀ argument ∈ arguments, argument.Declarable)
    (distinct : (arguments.map Argument.id).Nodup)
    (accepted : bind arguments extraction.valuesAsJson = .ok record) :
    extraction.HandsOver arguments record := by
  -- There is a field for each argument, so no check is asked about a missing one.
  have present : ∀ property ∈ Argument.properties arguments,
      (get? property.1 extraction.valuesAsJson).isSome = true := by
    refine List.forall_mem_map.mpr fun argument member => ?_
    rw [covers.value argument member]
    rfl
  rw [← Argument.keys_properties] at distinct
  obtain ⟨same, each⟩ := Check.run_object_eq_ok present distinct accepted
  have yielded := List.forall_mem_map.mp each
  constructor
  · rwa [Argument.keys_properties] at same
  · intro argument member none
    obtain ⟨value, checked, kept⟩ := yielded argument member
    have optional : argument.optional = true := by
      simpa [none] using covers.supplied argument member
    rw [covers.value argument member, none] at checked
    have same := (Argument.run_property_null optional).symm.trans checked
    exact ⟨optional, Except.ok.inj same ▸ kept⟩
  · intro argument member text found
    obtain ⟨value, checked, kept⟩ := yielded argument member
    rw [covers.value argument member, found] at checked
    have accepts := (Argument.run_property_eq_ok_iff (declarable argument member)).mp checked
    refine ⟨value, accepts, ?_, kept⟩
    rintro rfl
    exact (Argument.lasting_textCheck (declarable argument member)).run_ne_null _ accepts

/-- Entries without a part add nothing to the parts put together. -/
theorem flatMap_filter_of_ne_nil {α β : Type} {entries : List α} {holds : α → Bool}
    {part : α → List β} (filled : ∀ entry ∈ entries, holds entry = true ↔ part entry ≠ []) :
    (entries.filter holds).flatMap part = entries.flatMap part := by
  induction entries with
  | nil => rfl
  | cons entry rest ih =>
    obtain ⟨here, later⟩ := List.forall_mem_cons.mp filled
    rw [List.flatMap_cons, ← ih later, List.filter_cons]
    split
    next => rw [List.flatMap_cons]
    next fails =>
      have empty : part entry = [] := by
        by_contra other
        exact fails (here.mpr other)
      rw [empty, List.nil_append]

theorem Covers.blames {failure : Failure} (covers : extraction.Covers arguments)
    (declarable : ∀ argument ∈ arguments, argument.Declarable)
    (refused : bind arguments extraction.valuesAsJson = .error failure) :
    extraction.Blames arguments failure := by
  obtain ⟨information, property, member, own, checked, kind⟩ :=
    Check.run_object_eq_error covers.closed refused
  have filled (argument : Argument) (member : argument ∈ arguments) :
      argument.rejects (extraction.textUnder? argument.id) = true ↔
        argument.explanations (extraction.textUnder? argument.id) ≠ [] :=
    Argument.rejects_iff_explanations_ne_nil (declarable argument member)
      (covers.supplied argument member)
  -- What is explained comes argument by argument, and only from the arguments to be blamed.
  have grouped : failure.information = (extraction.rejected arguments).flatMap fun argument =>
      argument.explanations (extraction.textUnder? argument.id) := by
    unfold rejected
    rw [information, flatMap_filter_of_ne_nil filled, Argument.properties, List.flatMap_map]
    refine List.flatMap_congr fun argument member => ?_
    rw [covers.value argument member]
    rfl
  have speaks (argument : Argument) (member : argument ∈ extraction.rejected arguments)
      (explanation : Explanation)
      (inside : explanation ∈ argument.explanations (extraction.textUnder? argument.id)) :
      explanation.path.head? = some (.key argument.id) ∧
        explanation.message ≠ Failure.undeclaredSentence :=
    Argument.of_mem_explanations (declarable argument (List.mem_filter.mp member).1) inside
  refine ⟨⟨?_, ?_, ?_⟩, grouped, fun argument member => ⟨?_, ?_⟩⟩
  · obtain ⟨argument, listed, rfl⟩ := List.mem_map.mp member
    have regular := Argument.regular_property (declarable argument listed)
    exact kind ▸ (regular.run _ own checked).kind_ne
  · -- The argument whose check gives the kind has something to explain.
    obtain ⟨argument, listed, rfl⟩ := List.mem_map.mp member
    have regular := Argument.regular_property (declarable argument listed)
    rw [covers.value argument listed] at checked
    have explains : argument.explanations (extraction.textUnder? argument.id) ≠ [] := by
      unfold Argument.explanations
      rw [checked]
      simpa [Failure.explanationsOf] using (regular.run _ own checked).information_ne_nil
    have refused : argument ∈ extraction.rejected arguments :=
      List.mem_filter.mpr ⟨listed, (filled argument listed).mpr explains⟩
    rw [grouped]
    intro none
    exact explains (List.flatMap_eq_nil_iff.mp none argument refused)
  · intro explanation inside
    rw [grouped] at inside
    obtain ⟨argument, member, inside⟩ := List.mem_flatMap.mp inside
    exact (speaks argument member explanation inside).2
  · obtain ⟨listed, refused⟩ := List.mem_filter.mp member
    exact (filled argument listed).mp refused
  · intro explanation inside
    exact (speaks argument member explanation inside).1

end Extraction

/-- What was extracted completely is handed over as a record with a value for each argument just
when every text passes the check of its argument. Otherwise the texts that do not pass are blamed,
argument by argument. -/
theorem bind_extracted (distinct : (arguments.map Argument.id).Nodup)
    (declarable : ∀ argument ∈ arguments, argument.Declarable)
    (succeeded : (compiled.extract arguments message).succeeded = true) :
    ((∃ record, bind arguments (compiled.extract arguments message).valuesAsJson = .ok record) ↔
      ∀ argument ∈ arguments, ∀ text,
        (compiled.extract arguments message).textUnder? argument.id = some text →
          argument.Accepts text) ∧
    (∀ record, bind arguments (compiled.extract arguments message).valuesAsJson = .ok record →
      (compiled.extract arguments message).HandsOver arguments record) ∧
    ∀ failure, bind arguments (compiled.extract arguments message).valuesAsJson = .error failure →
      (compiled.extract arguments message).Blames arguments failure := by
  have covers := Extraction.covers_extract distinct succeeded
  refine ⟨covers.exists_bind_iff declarable, fun record accepted => ?_, fun failure refused => ?_⟩
  · exact covers.handsOver declarable distinct accepted
  · exact covers.blames declarable refused

open scoped Pattern.Limits in
/-- A reason that may be missing is handed over as it is listed, and blamed when it is not. -/
theorem bind_extracted_ban : ∃ check compiled arguments,
    (Constraint.choice ["spam", "flood"]).toCheck = .ok check ∧
    arguments = [.required "who" "User", ⟨"why", "Reason", true, some check⟩] ∧
    compile "!" arguments "<prefix>ban $1{opt $2}[ for $2]" = .ok compiled ∧
    bind arguments (compiled.extract arguments "!ban Bob for SPAM").valuesAsJson =
      .ok [("who", .text "Bob"), ("why", .text "spam")] ∧
    (compiled.extract arguments "!ban Bob for SPAM").HandsOver arguments
      [("who", .text "Bob"), ("why", .text "spam")] ∧
    ∃ failure, bind arguments (compiled.extract arguments "!ban Bob for fun").valuesAsJson =
        .error failure ∧
      (compiled.extract arguments "!ban Bob for fun").Blames arguments failure := by
  have compiles : compile "!" [.required "who" "User",
        ⟨"why", "Reason", true, some (Constraint.choiceCheck ["spam", "flood"]).erase⟩]
      "<prefix>ban $1{opt $2}[ for $2]" =
      .ok ⟨"!", .sigil (.literal "ban ".toList (.argument 1
        (.keyOff 2 (.literal " for ".toList (.argument 2 .nil)) .nil)))⟩ :=
    compile_eq_ok_iff.mpr ⟨rfl, by cbv, by decide⟩
  have declarable : ∀ argument ∈ [Argument.required "who" "User",
        ⟨"why", "Reason", true, some (Constraint.choiceCheck ["spam", "flood"]).erase⟩],
      argument.Declarable := by
    refine List.forall_mem_cons.mpr ⟨?_, List.forall_mem_singleton.mpr fun check same => ?_⟩
    · intro check same
      contradiction
    · exact ⟨.choice ["spam", "flood"], Option.some.inj same ▸ rfl⟩
  refine ⟨_, _, _, rfl, rfl, compiles, rfl, ?_, ?_⟩
  · exact (bind_extracted (by decide) declarable (by cbv)).2.1 _ rfl
  · exact ⟨_, rfl, (bind_extracted (by decide) declarable (by cbv)).2.2 _ rfl⟩

end ChatCommand
