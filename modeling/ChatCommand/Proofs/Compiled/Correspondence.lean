import ChatCommand.Proofs.Compiled.Findings
import ChatCommand.Proofs.Pattern.Captures
import Mathlib.Data.List.Forall2

/-!
# Extractions that correspond

What is extracted from a message is told by the texts of the groups captured and by nothing else.
So when the same groups are captured from two messages, with texts that are related in some way, the
outcomes differ in the texts yielded only, and these are related in the same way.

## Main definitions

- `Pattern.Corresponding`: the same groups captured, with related texts.
- `Argument.Yields`: related texts for an argument that goes by a key.
- `Extraction.Corresponds`: outcomes that differ in related texts only.

## Main results

- `Json.Fields.forall₂_sort`: sorting keeps related fields side by side.
- `Compiled.extract_corresponds`: captures that correspond lead to outcomes that do.
-/

/-! ### Optional values that are related -/

namespace Option.Rel

variable {α β γ δ : Type} {related : α → β → Prop} {relatedToo : γ → δ → Prop} {x : Option α}
  {y : Option β}

theorem refl {related : α → α → Prop} (reflexive : ∀ a, related a a) (x : Option α) :
    Option.Rel related x x := by
  cases x with
  | none => exact .none
  | some a => exact .some (reflexive a)

theorem isSome_eq (both : Option.Rel related x y) : x.isSome = y.isSome := by
  cases both <;> rfl

theorem map {f : α → γ} {g : β → δ} (both : Option.Rel related x y)
    (step : ∀ a b, related a b → relatedToo (f a) (g b)) :
    Option.Rel relatedToo (x.map f) (y.map g) := by
  cases both with
  | none => exact .none
  | some values => exact .some (step _ _ values)

theorem imp {weaker : α → β → Prop} (both : Option.Rel related x y)
    (step : ∀ a b, related a b → weaker a b) : Option.Rel weaker x y := by
  cases both with
  | none => exact .none
  | some values => exact .some (step _ _ values)

theorem eq_of_related_eq {z : Option α} {related : α → α → Prop} (both : Option.Rel related x z)
    (equal : ∀ a b, related a b → a = b) : x = z := by
  cases both with
  | none => rfl
  | some values => rw [equal _ _ values]

end Option.Rel

namespace ChatCommand

/-! ### Fields that correspond -/

namespace Json.Fields

variable {α β : Type} {related : String → α → β → Prop} {fields sorted : List (String × α)}
  {others sortedToo : List (String × β)}

/-- Two fields with one key and related values. -/
def Corresponds (related : String → α → β → Prop) (field : String × α) (other : String × β) :
    Prop :=
  field.1 = other.1 ∧ related field.1 field.2 other.2

/-- Fields that are put in under one key find the same place. -/
theorem forall₂_insert {key : String} {value : α} {other : β} (values : related key value other)
    (corresponding : List.Forall₂ (Corresponds related) fields others) :
    List.Forall₂ (Corresponds related) (insert key value fields) (insert key other others) := by
  induction corresponding with
  | nil => exact .cons ⟨rfl, values⟩ .nil
  | @cons field field' rest rest' here later ih =>
    obtain ⟨k, old⟩ := field
    obtain ⟨k', old'⟩ := field'
    obtain rfl : k = k' := here.1
    unfold insert
    split
    next => exact .cons ⟨rfl, values⟩ later
    next =>
      split
      next => exact .cons ⟨rfl, values⟩ (.cons here later)
      next => exact .cons here ih

theorem forall₂_foldl_insert (corresponding : List.Forall₂ (Corresponds related) fields others)
    (before : List.Forall₂ (Corresponds related) sorted sortedToo) :
    List.Forall₂ (Corresponds related)
      (fields.foldl (fun sorted field => insert field.1 field.2 sorted) sorted)
      (others.foldl (fun sorted field => insert field.1 field.2 sorted) sortedToo) := by
  induction corresponding generalizing sorted sortedToo with
  | nil => exact before
  | @cons field field' _ _ here _ ih =>
    apply ih
    show List.Forall₂ _ (insert field.1 field.2 sorted) (insert field'.1 field'.2 sortedToo)
    rw [← here.1]
    exact forall₂_insert here.2 before

/-- Fields that correspond still do when they are sorted, as their order depends on the keys. -/
theorem forall₂_sort (corresponding : List.Forall₂ (Corresponds related) fields others) :
    List.Forall₂ (Corresponds related) (sort fields) (sort others) :=
  forall₂_foldl_insert corresponding .nil

end Json.Fields

/-! ### Outcomes that correspond -/

/-- Two texts that are related as those of the group of an argument, or of its first block, are
related as what an argument with this key yields. -/
def Argument.Yields (arguments : List Argument) (related : Group → List Char → List Char → Prop)
    (key : String) (text other : String) : Prop :=
  ∃ n argument, withOrdinal? arguments n = some argument ∧ argument.id = key ∧
    (related (.argument n) text.toList other.toList ∨
      related (.keyOff n 1) text.toList other.toList)

/-- Two outcomes that differ in the texts yielded only, with related texts under each key. -/
inductive Extraction.Corresponds (related : String → String → String → Prop) :
    Extraction → Extraction → Prop
  | mismatch : Corresponds related .mismatch .mismatch
  | inconsistent (first : Inconsistency) (rest : List Inconsistency) (missing : Option String) :
    Corresponds related (.inconsistent first rest missing) (.inconsistent first rest missing)
  | incomplete (id : String) : Corresponds related (.incomplete id) (.incomplete id)
  | complete {values others : List (String × Option String)}
      (fields : List.Forall₂ (Json.Fields.Corresponds fun key => Option.Rel (related key))
        values others) :
    Corresponds related (.complete values) (.complete others)

namespace Extraction.Corresponds

variable {related : String → String → String → Prop} {extraction other : Extraction}

theorem flags_eq (corresponds : Extraction.Corresponds related extraction other) :
    extraction.succeeded = other.succeeded ∧ extraction.isMismatch = other.isMismatch ∧
      extraction.inconsistencies = other.inconsistencies ∧
      extraction.missing? = other.missing? := by
  cases corresponds <;> exact ⟨rfl, rfl, rfl, rfl⟩

theorem forall₂_values (corresponds : Extraction.Corresponds related extraction other) :
    List.Forall₂ (Json.Fields.Corresponds fun key => Option.Rel (related key))
      extraction.values other.values := by
  cases corresponds with
  | complete fields => exact fields
  | _ => exact .nil

/-- Outcomes with the same texts are the same. -/
theorem eq_of_related_eq (corresponds : Extraction.Corresponds related extraction other)
    (equal : ∀ key text text', related key text text' → text = text') : extraction = other := by
  cases corresponds with
  | mismatch | inconsistent | incomplete => rfl
  | @complete values others fields =>
    have same : values = others := by
      rw [← List.forall₂_eq_eq_eq]
      refine fields.imp ?_
      rintro ⟨key, value⟩ ⟨key', value'⟩ ⟨sameKey, both⟩
      obtain rfl : key = key' := sameKey
      exact congrArg (Prod.mk key) (both.eq_of_related_eq (equal key))
    rw [same]

end Extraction.Corresponds

namespace Pattern

variable {related : Group → List Char → List Char → Prop} {captures others : List Capture}
  {group : Group}

/-- The same groups are captured on both sides, with related texts. -/
def Corresponding (related : Group → List Char → List Char → Prop)
    (captures others : List Capture) : Prop :=
  ∀ group, Option.Rel (related group) (textOf? captures group) (textOf? others group)

theorem Corresponding.isSome_eq (corresponding : Corresponding related captures others)
    (group : Group) : (textOf? captures group).isSome = (textOf? others group).isSome :=
  (corresponding group).isSome_eq

end Pattern

namespace Compiled

open Pattern (Corresponding textOf?)

variable {related : Group → List Char → List Char → Prop} {compiled other : Compiled}
  {captures others : List Pattern.Capture} {arguments : List Argument} {argument : Argument}
  {n : Nat}

/-- Which blocks disagree is told by which blocks are there. -/
theorem disagreeing_congr {blocks blocks' : List (Option (List Char))}
    (same : blocks.map Option.isSome = blocks'.map Option.isSome) :
    disagreeing argument blocks = disagreeing argument blocks' := by
  cases blocks with
  | nil =>
    obtain rfl := List.map_eq_nil_iff.mp same.symm
    rfl
  | cons first rest =>
    cases blocks' with
    | nil => contradiction
    | cons first' rest' =>
      obtain ⟨here, later⟩ := List.cons.inj same
      have numbered (others : List (Option (List Char))) :
          (others.mapIdx fun index block => (index + 2, block.isSome)) =
            (others.map Option.isSome).mapIdx fun index isPresent => (index + 2, isPresent) := by
        simp [List.mapIdx_eq_iff, Function.comp_def]
      simp only [disagreeing, numbered, here, later]

/-- An argument that owns a block has the text of the first one at the head of the list. -/
theorem blockTexts_eq_cons (owner : 0 < compiled.template.blockCount n) :
    compiled.blockTexts captures n = textOf? captures (.keyOff n 1) ::
      (List.range (compiled.template.blockCount n - 1)).map fun k =>
        textOf? captures (.keyOff n (k + 2)) := by
  unfold blockTexts
  obtain ⟨count, counted⟩ := Nat.exists_eq_add_of_lt owner
  rw [counted, Nat.zero_add, List.range_succ_eq_map]
  simp [Function.comp_def]

theorem map_isSome_blockTexts (same : compiled.template = other.template)
    (corresponding : Corresponding related captures others) :
    (compiled.blockTexts captures n).map Option.isSome =
      (other.blockTexts others n).map Option.isSome := by
  simp only [blockTexts, List.map_map, Function.comp_def, same, corresponding.isSome_eq]

/-- The same is found wrong with an optional argument, and the texts found are related as those of
its group or those of its first block. -/
theorem findOptional_corresponds (same : compiled.template = other.template)
    (corresponding : Corresponding related captures others) (n : Nat) (argument : Argument) :
    (compiled.findOptional captures n argument).inconsistencies =
        (other.findOptional others n argument).inconsistencies ∧
      Option.Rel (fun text text' => related (.argument n) text.toList text'.toList ∨
          related (.keyOff n 1) text.toList text'.toList)
        (compiled.findOptional captures n argument).value
        (other.findOptional others n argument).value := by
  have disagree : disagreeing argument (compiled.blockTexts captures n) =
      disagreeing argument (other.blockTexts others n) :=
    disagreeing_congr (map_isSome_blockTexts same corresponding)
  have own := corresponding (.argument n)
  unfold findOptional
  dsimp only
  rw [disagree, same]
  generalize textOf? captures (.argument n) = text at own ⊢
  generalize textOf? others (.argument n) = text' at own ⊢
  by_cases owner : 0 < other.template.blockCount n
  · -- The first block decides.
    have first := corresponding (.keyOff n 1)
    have ownerToo : 0 < compiled.template.blockCount n := same ▸ owner
    rw [blockTexts_eq_cons ownerToo, blockTexts_eq_cons owner]
    generalize textOf? captures (.keyOff n 1) = block at first ⊢
    generalize textOf? others (.keyOff n 1) = block' at first ⊢
    cases first with
    | none => exact ⟨rfl, .none⟩
    | some blocks =>
      cases own with
      | some texts => exact ⟨rfl, .some (.inl (by simpa using texts))⟩
      | none =>
        dsimp only
        split
        next => exact ⟨rfl, .none⟩
        next => exact ⟨rfl, .some (.inr (by simpa using blocks))⟩
  · -- Without blocks the argument has its own group only.
    have none (compiled : Compiled) (captures : List Pattern.Capture)
        (unowned : ¬ 0 < compiled.template.blockCount n) : compiled.blockTexts captures n = [] := by
      simp [blockTexts, Nat.eq_zero_of_not_pos unowned]
    rw [none compiled captures (same ▸ owner), none other others owner]
    refine ⟨rfl, own.map fun text text' texts => .inl ?_⟩
    rwa [String.toList_ofList, String.toList_ofList]

theorem find_corresponds (same : compiled.template = other.template)
    (corresponding : Corresponding related captures others) (n : Nat) (argument : Argument) :
    (compiled.find captures n argument).inconsistencies =
        (other.find others n argument).inconsistencies ∧
      Option.Rel (fun text text' => related (.argument n) text.toList text'.toList ∨
          related (.keyOff n 1) text.toList text'.toList)
        (compiled.find captures n argument).value (other.find others n argument).value := by
  cases optional : argument.optional with
  | true =>
    rw [find_of_optional optional, find_of_optional optional]
    exact findOptional_corresponds same corresponding n argument
  | false =>
    rw [find_of_required optional, find_of_required optional]
    refine ⟨rfl, (corresponding (.argument n)).map fun text text' texts => .inl ?_⟩
    rwa [String.toList_ofList, String.toList_ofList]

/-- The same is found wrong with all arguments together. -/
theorem flatMap_findings_congr (same : compiled.template = other.template)
    (corresponding : Corresponding related captures others) (arguments : List Argument) :
    ((compiled.findings captures arguments).flatMap fun found => found.2.inconsistencies) =
      (other.findings others arguments).flatMap fun found => found.2.inconsistencies := by
  simp only [findings, List.flatMap_map, (find_corresponds same corresponding _ _).1]

/-- The first required argument of which nothing is found is the same. -/
theorem find?_findings_congr (same : compiled.template = other.template)
    (corresponding : Corresponding related captures others) (arguments : List Argument) :
    (((compiled.findings captures arguments).find? fun (argument, finding) =>
        !argument.optional && finding.value.isNone).map fun found => found.1.id) =
      ((other.findings others arguments).find? fun (argument, finding) =>
        !argument.optional && finding.value.isNone).map fun found => found.1.id := by
  have bare (n : Nat) (argument : Argument) :
      (compiled.find captures n argument).value.isNone =
        (other.find others n argument).value.isNone := by
    rw [← Option.not_isSome, ← Option.not_isSome,
      (find_corresponds same corresponding n argument).2.isSome_eq]
  simp only [findings, List.find?_map, Function.comp_def, bare, Option.map_map]

/-- The texts found correspond under the keys of the arguments. -/
theorem forall₂_findings (same : compiled.template = other.template)
    (corresponding : Corresponding related captures others) (arguments : List Argument) :
    List.Forall₂
      (Json.Fields.Corresponds fun key => Option.Rel (Argument.Yields arguments related key))
      ((compiled.findings captures arguments).map fun found => (found.1.id, found.2.value))
      ((other.findings others arguments).map fun found => (found.1.id, found.2.value)) := by
  simp only [findings, List.map_map, List.forall₂_map_left_iff, List.forall₂_map_right_iff]
  refine List.forall₂_same.mpr ?_
  rintro ⟨n, argument⟩ member
  have declared := Argument.mem_numbered_iff.mp member
  exact ⟨rfl, (find_corresponds same corresponding n argument).2.imp fun _ _ texts =>
    ⟨n, argument, declared, rfl, texts⟩⟩

/-- Captures that correspond lead to outcomes that do. -/
theorem extract_corresponds {message message' : String}
    (same : compiled.template = other.template)
    (matched : Option.Rel (Corresponding related) (compiled.pattern.captures? message.toList)
      (other.pattern.captures? message'.toList)) (arguments : List Argument) :
    (compiled.extract arguments message).Corresponds (Argument.Yields arguments related)
      (other.extract arguments message') := by
  unfold extract
  generalize compiled.pattern.captures? message.toList = captures? at matched ⊢
  generalize other.pattern.captures? message'.toList = others? at matched ⊢
  cases matched with
  | none => exact .mismatch
  | @some captures others corresponding =>
    dsimp only
    rw [← findings, ← findings, flatMap_findings_congr same corresponding,
      find?_findings_congr same corresponding]
    generalize Option.map _ (List.find? _ (other.findings others arguments)) = missing
    split
    next first rest _ => exact .inconsistent first rest missing
    next =>
      cases missing with
      | some id => exact .incomplete id
      | none =>
        exact .complete (Json.Fields.forall₂_sort (forall₂_findings same corresponding arguments))

end Compiled

end ChatCommand
