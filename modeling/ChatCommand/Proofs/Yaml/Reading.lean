import ChatCommand.Manifest.Yaml
import ChatCommand.Proofs.Json.Reading
import Mathlib.Data.List.Forall2

/-!
# Reading nodes that hold data

A node without tags holds the data of a value if its lists and records are those of the value and
its scalars are spelled so that they mean the scalars of the value. Reading such a node as data of
a type follows no alias, and what it yields depends on the value only.

## Main definitions

- `Yaml.Node.holds`: whether a node holds the data of a value.
- `Yaml.Reading.Yields`: a reader yields a result for all nodes that hold a value.
- `Yaml.Reading.Steps`: fields are handed one after the other to a step.

## Main results

- `Yaml.Reading.yields_list`, `Yaml.Reading.yields_record`: lists and records of what can be read.
- `Yaml.Reading.content_of_holds`: any simple value is read as it is.
-/

namespace ChatCommand.Yaml

/-- Whether a scalar without a tag means a value by its spelling. -/
def scalarMeans (style : Style) (text : String) : Json → Bool
  | .null => style = .plain && Meaning.of text = .null
  | .bool b => style = .plain && Meaning.of text = .bool b
  | .number (.whole n) => style = .plain && Meaning.of text = .whole n
  | .number (.real x) => style = .plain && Meaning.of text = .real x
  | .text s => text = s && (style ≠ .plain || Meaning.of text = .text)
  | .array _ | .object _ => false

/-- Whether a value is neither a list nor an object. -/
def isScalar : Json → Bool
  | .array _ | .object _ => false
  | _ => true

namespace Node

/-- Whether a node holds the data of a value, without tags and aliases. -/
def holds : Node → Json → Bool
  | .scalar style tag text, value => tag.isNone && scalarMeans style text value
  | .sequence tag items, .array values => tag.isNone && holdsItems items values
  | .mapping tag entries, .object fields => tag.isNone && holdsFields entries fields
  | _, _ => false
where
  /-- Whether nodes hold the data of items one by one. -/
  holdsItems : List Node → List Json → Bool
    | [], [] => true
    | node :: nodes, value :: values => node.holds value && holdsItems nodes values
    | _, _ => false
  /-- Whether nodes hold the data of fields one by one, keys and values. -/
  holdsFields : List (Node × Node) → List (String × Json) → Bool
    | [], [] => true
    | (keyNode, node) :: entries, (key, value) :: fields =>
      keyNode.holds (.text key) && node.holds value && holdsFields entries fields
    | _, _ => false

theorem holdsItems_iff {nodes : List Node} {values : List Json} :
    holds.holdsItems nodes values = true ↔
      List.Forall₂ (fun node value => node.holds value = true) nodes values := by
  induction nodes generalizing values with
  | nil => cases values <;> simp [holds.holdsItems]
  | cons node nodes ih => cases values <;> simp [holds.holdsItems, ih]

theorem holdsFields_iff {entries : List (Node × Node)} {fields : List (String × Json)} :
    holds.holdsFields entries fields = true ↔
      List.Forall₂ (fun entry field => entry.1.holds (.text field.1) = true ∧
        entry.2.holds field.2 = true) entries fields := by
  induction entries generalizing fields with
  | nil => cases fields <;> simp [holds.holdsFields]
  | cons entry entries ih => cases fields <;> simp [holds.holdsFields, ih]

variable {node : Node}

theorem eq_scalar_of_holds {value : Json} (scalar : isScalar value = true)
    (holds : node.holds value = true) :
    ∃ style text, node = .scalar style none text ∧ scalarMeans style text value = true := by
  cases node with
  | scalar style tag text =>
    obtain ⟨untagged, means⟩ := (Bool.and_eq_true _ _).mp holds
    obtain rfl := Option.isNone_iff_eq_none.mp untagged
    exact ⟨style, text, rfl, means⟩
  | _ =>
    cases value with
    | array items => cases scalar
    | object fields => cases scalar
    | _ => cases holds

theorem eq_sequence_of_holds {values : List Json} (holds : node.holds (.array values) = true) :
    ∃ items, node = .sequence none items ∧
      List.Forall₂ (fun item value => item.holds value = true) items values := by
  cases node with
  | sequence tag items =>
    obtain ⟨untagged, same⟩ := (Bool.and_eq_true _ _).mp holds
    obtain rfl := Option.isNone_iff_eq_none.mp untagged
    exact ⟨items, rfl, holdsItems_iff.mp same⟩
  | scalar style tag text => exact absurd ((Bool.and_eq_true _ _).mp holds).2 Bool.false_ne_true
  | _ => cases holds

theorem eq_mapping_of_holds {fields : List (String × Json)}
    (holds : node.holds (.object fields) = true) :
    ∃ entries, node = .mapping none entries ∧
      List.Forall₂ (fun entry field => entry.1.holds (.text field.1) = true ∧
        entry.2.holds field.2 = true) entries fields := by
  cases node with
  | mapping tag entries =>
    obtain ⟨untagged, same⟩ := (Bool.and_eq_true _ _).mp holds
    obtain rfl := Option.isNone_iff_eq_none.mp untagged
    exact ⟨entries, rfl, holdsFields_iff.mp same⟩
  | scalar style tag text => exact absurd ((Bool.and_eq_true _ _).mp holds).2 Bool.false_ne_true
  | _ => cases holds

theorem eq_text_of_holds {s : String} (holds : node.holds (.text s) = true) :
    ∃ style, node = .scalar style none s := by
  obtain ⟨style, text, rfl, means⟩ := eq_scalar_of_holds rfl holds
  simp only [scalarMeans, Bool.and_eq_true, decide_eq_true_eq] at means
  obtain ⟨rfl, -⟩ := means
  exact ⟨style, rfl⟩

theorem eq_bool_of_holds {b : Bool} (holds : node.holds (.bool b) = true) :
    ∃ text, node = .scalar .plain none text ∧ Meaning.of text = .bool b := by
  obtain ⟨style, text, rfl, means⟩ := eq_scalar_of_holds rfl holds
  simp only [scalarMeans, Bool.and_eq_true, decide_eq_true_eq] at means
  obtain ⟨rfl, means⟩ := means
  exact ⟨text, rfl, means⟩

end Node

/-! ### Meanings -/

namespace Meaning

theorem ofInteger?_ne_bool (n : Int) (b : Bool) : ofInteger? n ≠ some (.bool b) := by
  unfold ofInteger?
  split_ifs
  all_goals nofun

theorem number?_ne_bool (text : String) (b : Bool) : number? text ≠ some (.bool b) := by
  unfold number?
  split_ifs
  case neg =>
    split
    all_goals
      intro same
      obtain ⟨x, -, other⟩ := Option.map_eq_some_iff.mp same
      cases other
  all_goals nofun

/-- No number is a truth value. -/
theorem bool?_of_eq_bool {text : String} {b : Bool} (means : Meaning.of text = .bool b) :
    bool? text = some b := by
  unfold Meaning.of at means
  split at means
  next => contradiction
  next =>
    split at means
    next found =>
      cases means
      exact found
    -- Whatever else the spelling means is a number or a text.
    next =>
      split at means
      next whole =>
        obtain ⟨n, -, found⟩ := Option.bind_eq_some_iff.mp whole
        exact absurd (means ▸ found) (ofInteger?_ne_bool n b)
      next =>
        split at means
        next => contradiction
        next =>
          cases found : number? text with
          | none =>
            rw [found] at means
            cases means
          | some meaning =>
            rw [found] at means
            exact absurd (found.trans (congrArg some means)) (number?_ne_bool text b)

theorem filled_of_ne_null {text : String} (means : Meaning.of text ≠ .null) :
    (text.isEmpty || isNull text) = false := by
  refine Bool.eq_false_iff.mpr fun empty => means ?_
  unfold Meaning.of
  rw [if_pos empty]

end Meaning

theorem ne_null_of_scalarMeans {style : Style} {text : String} {value : Json}
    (present : value ≠ .null) (means : scalarMeans style text value = true)
    (plain : style = .plain) : Meaning.of text ≠ .null := by
  subst plain
  intro null
  cases value with
  | null => exact present rfl
  | number n => cases n <;> simp [scalarMeans, null] at means
  | _ => simp [scalarMeans, null] at means

namespace Reading

variable {α β : Type} {document : Document} {read : Node → Reading α} {value : Json} {a : α}

/-- The reader yields a result for every node that holds a value, and follows no alias. -/
def Yields (read : Node → Reading α) (value : Json) (a : α) : Prop :=
  ∀ ⦃node⦄, node.holds value = true → read node = pure a

theorem resolve_of_holds {node : Node} (holds : node.holds value = true) :
    resolve document node = pure node := by
  cases node with
  | scalar style tag text => rfl
  | sequence tag items => rfl
  | mapping tag entries => rfl
  | _ => cases value <;> cases holds

/-- The value of a field that has not come yet is read. -/
theorem Yields.field {next : Option α → Reading β} {b : β} (yields : Yields read value a)
    (continued : next (some a) = pure b) :
    Yields (fun node => fill none read node >>= next) value b := by
  intro node holds
  show (some <$> read node) >>= next = pure b
  rw [yields holds, map_pure, pure_bind, continued]

theorem yields_text (s : String) : Yields (text document) (.text s) s := by
  intro node holds
  obtain ⟨style, rfl⟩ := Node.eq_text_of_holds holds
  rfl

theorem yields_boolean (b : Bool) : Yields (boolean document) (.bool b) b := by
  intro node holds
  obtain ⟨text, rfl, means⟩ := Node.eq_bool_of_holds holds
  unfold boolean
  rw [resolve_of_holds holds, pure_bind]
  simp [Meaning.bool?_of_eq_bool means]

/-- What is there is read by the given reader. -/
theorem yields_optional (present : value ≠ .null) (yields : Yields read value a) :
    Yields (optional document read) value (some a) := by
  intro node holds
  have inner : some <$> read node = pure (some a) := by rw [yields holds, map_pure]
  unfold optional
  rw [resolve_of_holds holds, pure_bind]
  cases node with
  | scalar style tag text =>
    obtain ⟨untagged, means⟩ := (Bool.and_eq_true _ _).mp holds
    obtain rfl := Option.isNone_iff_eq_none.mp untagged
    -- A plain scalar that spells null would have made the value null.
    have given : (style = .plain && (text.isEmpty || Meaning.isNull text)) = false := by
      by_cases plain : style = .plain
      · rw [Meaning.filled_of_ne_null (ne_null_of_scalarMeans present means plain), Bool.and_false]
      · simp [plain]
    simp only [given, Bool.false_eq_true, if_false]
    exact inner
  | sequence tag items => exact inner
  | mapping tag entries => exact inner
  | _ => cases value <;> cases holds

/-! ### Lists -/

theorem mapM_of_holds {γ : Type} {encode : γ → Json} {result : γ → α} {as : List γ}
    {items : List Node}
    (same : List.Forall₂ (fun item value => item.holds value = true) items (as.map encode))
    (each : ∀ a ∈ as, Yields read (encode a) (result a)) :
    items.mapM read = pure (as.map result) := by
  induction as generalizing items with
  | nil =>
    cases same
    rfl
  | cons a as ih =>
    cases same with
    | cons here others =>
      obtain ⟨own, rest⟩ := List.forall_mem_cons.mp each
      rw [List.mapM_cons, own here, pure_bind, ih others rest, pure_bind, List.map_cons]

/-- A list is read if its items are. -/
theorem yields_list {encode : α → Json} {as : List α}
    (each : ∀ a ∈ as, Yields read (encode a) a) :
    Yields (list document read) (.array (as.map encode)) as := by
  intro node holds
  obtain ⟨items, rfl, same⟩ := Node.eq_sequence_of_holds holds
  have run : items.mapM read = pure (as.map id) := mapM_of_holds same each
  unfold list
  rw [resolve_of_holds holds, pure_bind]
  simpa using run

/-! ### Records -/

section Records

variable {σ : Type} {step : σ → String → Node → Reading σ} {start last : σ} {fields : Json.Fields}

/-- The step takes the fields one after the other, from one state to another. -/
inductive Steps (step : σ → String → Node → Reading σ) : σ → Json.Fields → σ → Prop
  | nil {state : σ} : Steps step state [] state
  | cons {state mid last : σ} {key : String} {value : Json} {rest : Json.Fields}
    (yields : Yields (step state key) value mid) (others : Steps step mid rest last) :
    Steps step state ((key, value) :: rest) last

theorem Steps.append {mid : σ} {others : Json.Fields} (first : Steps step start fields mid)
    (second : Steps step mid others last) : Steps step start (fields ++ others) last := by
  induction first with
  | nil => exact second
  | cons yields _ ih => exact .cons yields (ih second)

theorem fields_of_steps {entries : List (Node × Node)} (steps : Steps step start fields last)
    (same : List.Forall₂ (fun entry field => entry.1.holds (.text field.1) = true ∧
      entry.2.holds field.2 = true) entries fields) :
    Reading.fields document step start entries = pure last := by
  unfold Reading.fields
  induction steps generalizing entries with
  | nil =>
    cases same
    rfl
  | @cons state mid last key value rest yields _ ih =>
    cases same with
    | cons here others =>
      rw [List.foldlM_cons, yields_text key here.1, pure_bind, yields here.2, pure_bind, ih others]

/-- A record is read from its fields if the steps lead to a state that makes it. -/
theorem yields_record {ofFields : List (Node × Node) → Reading α} {next : σ → Reading α}
    (steps : Steps step start fields last)
    (unfolded : ∀ entries, ofFields entries = Reading.fields document step start entries >>= next)
    (made : next last = pure a) : Yields (record document ofFields) (.object fields) a := by
  intro node holds
  obtain ⟨entries, rfl, same⟩ := Node.eq_mapping_of_holds holds
  unfold record
  rw [resolve_of_holds holds, pure_bind]
  show ofFields entries = pure a
  rw [unfolded, fields_of_steps steps same, pure_bind, made]

end Records

/-! ### Any value -/

theorem scalar_of_scalarMeans {style : Style} {text : String}
    (scalar : isScalar value = true) (means : scalarMeans style text value = true) :
    Reading.scalar style none text = some (.ofJson value) := by
  cases value with
  | array items => cases scalar
  | object fields => cases scalar
  | text s =>
    simp only [scalarMeans, Bool.and_eq_true, Bool.or_eq_true, decide_eq_true_eq] at means
    obtain ⟨rfl, either⟩ := means
    unfold Reading.scalar
    split
    next => contradiction
    next =>
      split
      next plain =>
        rw [either.resolve_left fun other => other plain]
        rfl
      next => rfl
  | number n =>
    cases n
    all_goals
      simp only [scalarMeans, Bool.and_eq_true, decide_eq_true_eq] at means
      obtain ⟨rfl, means⟩ := means
      simp [Reading.scalar, means, meant, Content.ofJson]
  | _ =>
    simp only [scalarMeans, Bool.and_eq_true, decide_eq_true_eq] at means
    obtain ⟨rfl, means⟩ := means
    simp [Reading.scalar, means, meant, Content.ofJson]

theorem content_scalar {levels : Nat} (scalar : isScalar value = true) :
    Yields (content document levels) value (.ofJson value) := by
  intro node holds
  obtain ⟨style, text, rfl, means⟩ := Node.eq_scalar_of_holds scalar holds
  unfold content
  rw [resolve_of_holds holds, pure_bind]
  simp only [scalar_of_scalarMeans scalar means]
  rfl

theorem ofItems_eq_map (values : List Json) :
    Content.ofJson.ofItems values = values.map Content.ofJson := by
  induction values with
  | nil => rfl
  | cons value values ih => rw [Content.ofJson.ofItems, ih, List.map_cons]

theorem content_array {levels : Nat} {values : List Json}
    (each : ∀ value ∈ values, Yields (content document levels) value (.ofJson value)) :
    Yields (content document (levels + 1)) (.array values) (.ofJson (.array values)) := by
  intro node holds
  obtain ⟨items, rfl, same⟩ := Node.eq_sequence_of_holds holds
  rw [← List.map_id values] at same
  have run := mapM_of_holds same each
  unfold content
  rw [resolve_of_holds holds, pure_bind]
  show Content.list <$> items.mapM (content document levels) = _
  rw [run, map_pure, ← ofItems_eq_map]
  rfl

theorem mapM_content {levels : Nat} {fields : Json.Fields} {entries : List (Node × Node)}
    (same : List.Forall₂ (fun entry field => entry.1.holds (.text field.1) = true ∧
      entry.2.holds field.2 = true) entries fields)
    (each : ∀ field ∈ fields, Yields (content document levels) field.2 (.ofJson field.2)) :
    (entries.mapM fun entry => do
      return (← content document levels entry.1, ← content document levels entry.2)) =
        pure (Content.ofJson.ofFields fields) := by
  induction fields generalizing entries with
  | nil =>
    cases same
    rfl
  | cons field fields ih =>
    cases same with
    | @cons entry _ entries _ here others =>
      obtain ⟨own, rest⟩ := List.forall_mem_cons.mp each
      have key : content document levels entry.1 = pure (.text field.1) :=
        content_scalar rfl here.1
      rw [List.mapM_cons, key, pure_bind, own here.2, pure_bind, pure_bind, ih others rest,
        pure_bind]
      rfl

theorem content_object {levels : Nat} {fields : Json.Fields}
    (each : ∀ field ∈ fields, Yields (content document levels) field.2 (.ofJson field.2)) :
    Yields (content document (levels + 1)) (.object fields) (.ofJson (.object fields)) := by
  intro node holds
  obtain ⟨entries, rfl, same⟩ := Node.eq_mapping_of_holds holds
  unfold content
  rw [resolve_of_holds holds, pure_bind]
  show Content.record <$> _ = _
  rw [mapM_content same each, map_pure]
  rfl

/-- A simple value is read as it is. -/
theorem content_of_simple : ∀ {levels : Nat} {value : Json}, value.Simple levels →
    Yields (content document levels) value (.ofJson value)
  | _, .null, _ | _, .bool _, _ | _, .number _, _ | _, .text _, _ => content_scalar rfl
  | _ + 1, .array _, simple =>
    content_array fun value member => content_of_simple (simple value member)
  | _ + 1, .object _, simple =>
    content_object fun field member => content_of_simple (simple field member)

end Reading

end ChatCommand.Yaml
