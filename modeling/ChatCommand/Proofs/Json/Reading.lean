import ChatCommand.Proofs.Json.Scanning
import Mathlib.Data.List.Forall2

/-!
# Reading what is spelled

A reader that is put in front of a spelling of a value takes exactly the spelling off, with the
spaces in front of it, whatever the spaces between its parts are. What follows must not go on with
the number that a spelling may end in.

## Main definitions

- `Json.Reader.Takes`: a reader takes the texts of some set off and gives a result.
- `Json.Reader.Reads`: a reader gives a result for every spelling of a value.
- `Json.Reader.Steps`: fields are handed one after the other to a step.
- `Json.Simple`: values with bounded nesting, in which all numbers are whole ones of 64 bits.

## Main results

- `Json.Reader.reads_list`, `Json.Reader.reads_record`: lists and records of what can be read.
- `Json.Reader.readAll_of_reads`: a whole text is read.
- `Json.parse_of_spells`: a simple value is read back from every spelling.
-/

namespace ChatCommand.Json

open Text (Within OpensOutside)

variable {α β : Type} {spaces rest more : List Char} {seen : Bool} {c : Char}

namespace Reader

/-! ### Readers of spellings -/

/-- The reader takes each of the texts off, with the spaces in front of it, and gives a result. -/
def Takes (reader : Reader α) (spells : List Char → Prop) (a : α) : Prop :=
  ∀ ⦃text⦄, spells text → ∀ (seen : Bool) {spaces rest}, Within isSpace spaces →
    OpensOutside isNumeric rest →
    ∃ seen', reader ⟨spaces ++ (text ++ rest), seen⟩ = .ok (a, ⟨rest, seen'⟩)

theorem Takes.bind {reader : Reader α} {spells : List Char → Prop} {a : α} {next : α → Reader β}
    {b : β} (takes : Takes reader spells a)
    (continued : ∀ cursor, next a cursor = .ok (b, cursor)) :
    Takes (reader >>= next) spells b := by
  intro text spelled seen spaces rest spaced ended
  obtain ⟨seen', run⟩ := takes spelled seen spaced ended
  exact ⟨seen', (bind_of_ok run).trans (continued _)⟩

/-- How the texts of a value open. -/
def Opens (value : Json) (text : List Char) : Prop :=
  ∃ c more, text = c :: more ∧ isSpace c = false ∧ c ≠ ']' ∧ (value = .null ∨ c ≠ 'n')

/-- The reader gives a result for every spelling of a value. -/
structure Reads (reader : Reader α) (value : Json) (a : α) : Prop where
  opens : ∀ {text}, value.Spells text → Opens value text
  takes : Takes reader value.Spells a

theorem opens_text (s : String) : ∀ {text}, Spells (.text s) text → Opens (.text s) text := by
  rintro text ⟨⟩
  exact ⟨'"', quoteBehind s, toList_stringLiteral s, by decide, by decide, .inr (by decide)⟩

theorem toList_bool (b : Bool) : (if b then "true" else "false").toList =
    if b then ['t', 'r', 'u', 'e'] else ['f', 'a', 'l', 's', 'e'] := by
  cases b
  all_goals rfl

theorem opens_bool (b : Bool) : ∀ {text}, Spells (.bool b) text → Opens (.bool b) text := by
  rintro text ⟨⟩
  rw [toList_bool]
  cases b with
  | true => exact ⟨'t', ['r', 'u', 'e'], rfl, by decide, by decide, .inr (by decide)⟩
  | false => exact ⟨'f', ['a', 'l', 's', 'e'], rfl, by decide, by decide, .inr (by decide)⟩

theorem opens_array (items : List Json) :
    ∀ {text}, Spells (.array items) text → Opens (.array items) text := by
  rintro text ⟨⟩
  exact ⟨'[', _, rfl, by decide, by decide, .inr (by decide)⟩

theorem opens_object (fields : Fields) :
    ∀ {text}, Spells (.object fields) text → Opens (.object fields) text := by
  rintro text ⟨⟩
  exact ⟨'\x7b', _, rfl, by decide, by decide, .inr (by decide)⟩

theorem reads_string (expected : String) (s : String) :
    Reads (string expected) (.text s) s where
  opens := opens_text s
  takes := by
    rintro text ⟨⟩ seen spaces rest spaced -
    rw [toList_stringLiteral, List.cons_append]
    unfold string
    rw [skipSpaces_bind _ spaced (by decide)]
    exact ⟨false, stringBody_run s⟩

theorem reads_boolean (b : Bool) : Reads boolean (.bool b) b where
  opens := opens_bool b
  takes := by
    rintro text ⟨⟩ seen spaces rest spaced -
    rw [toList_bool]
    unfold boolean
    cases b with
    | true =>
      rw [if_pos rfl, List.cons_append, skipSpaces_bind _ spaced (by decide)]
      exact ⟨false, word_bind ['r', 'u', 'e'] fun _ => pure true⟩
    | false =>
      rw [if_neg Bool.false_ne_true, List.cons_append, skipSpaces_bind _ spaced (by decide)]
      exact ⟨false, word_bind ['a', 'l', 's', 'e'] fun _ => pure false⟩

/-- What is there is read by the given reader. -/
theorem reads_optional {inner : Reader α} {value : Json} {a : α} (present : value ≠ .null)
    (reads : Reads inner value a) : Reads (optional inner) value (some a) where
  opens := reads.opens
  takes := by
    intro text spelled seen spaces rest spaced ended
    obtain ⟨c, more, opened, solid, -, either⟩ := reads.opens spelled
    -- Nothing but null opens with an `n`.
    have other : c ≠ 'n' := either.resolve_left present
    obtain ⟨seen', run⟩ := reads.takes spelled true within_nil ended
    rw [opened, List.cons_append, List.nil_append] at run
    rw [opened, List.cons_append]
    unfold optional
    rw [skipSpaces_bind _ spaced solid]
    refine ⟨seen', (congrFun ?_ _).trans (map_of_ok run)⟩
    split
    next same => exact absurd (Option.some.inj same) other
    next => rfl

/-! ### Lists -/

theorem moreItems_run {first : Bool} {gap text : List Char} {value : Json} (apart : Gap first gap)
    (opens : Opens value text) :
    moreItems first ⟨gap ++ (text ++ rest), seen⟩ = .ok (true, ⟨text ++ rest, true⟩) := by
  obtain ⟨c, more, rfl, solid, other, -⟩ := opens
  rw [List.cons_append]
  unfold moreItems
  cases first with
  | true =>
    have spaced := gap_true_iff.mp apart
    rw [skipSpaces_bind _ spaced solid]
    refine congrFun (?_ : _ = (pure true : Reader Bool)) _
    split
    next => contradiction
    next same => exact absurd (Option.some.inj same) other
    next => rfl
  | false =>
    obtain ⟨before, after, rfl, spaced, behind⟩ := gap_false_iff.mp apart
    rw [List.append_assoc, List.cons_append]
    refine (skipSpaces_bind _ (c := ',') spaced (by decide)).trans ?_
    -- What is left is what the reader does behind the comma.
    show (if false = true then _ else if ',' = ',' then _ else _ : Reader Bool) _ = _
    rw [if_neg Bool.false_ne_true, if_pos rfl, eat_bind]
    rw [skipSpaces_bind _ behind solid]
    refine congrFun (?_ : _ = (pure true : Reader Bool)) _
    split
    next same => exact absurd (Option.some.inj same) other
    next => rfl
    next => contradiction

theorem moreItems_end (first : Bool) (spaced : Within isSpace spaces) :
    moreItems first ⟨spaces ++ ']' :: rest, seen⟩ = .ok (false, ⟨']' :: rest, true⟩) :=
  skipSpaces_bind _ (c := ']') spaced (by decide)

/-- Things that follow have a comma or the end in front of them. -/
theorem opensOutside_listed {spells : α → List Char → Prop} {as : List α} {text : List Char}
    (listed : Listed spells false as text) (ended : isNumeric c = false) :
    OpensOutside isNumeric (text ++ c :: rest) := by
  have spaces_first {spaces : List Char} {c : Char} {rest : List Char}
      (spaced : Within isSpace spaces) (ended : isNumeric c = false) :
      OpensOutside isNumeric (spaces ++ c :: rest) := by
    cases spaces with
    | nil => exact ended
    | cons d spaces =>
      have space := spaced d List.mem_cons_self
      simp only [isSpace, Bool.or_eq_true, beq_iff_eq] at space
      show isNumeric d = false
      rcases space with ((rfl | rfl) | rfl) | rfl
      all_goals decide
  cases listed with
  | nil spaced => exact spaces_first spaced ended
  | cons apart spelled others =>
    obtain ⟨before, after, rfl, spaced, -⟩ := gap_false_iff.mp apart
    rw [List.append_assoc, List.append_assoc, List.cons_append]
    exact spaces_first spaced (by decide)

theorem itemsFrom_run {item : Reader α} {first : Bool} {values : List Json} {as : List α}
    {inside : List Char} {fuel : Nat} (listed : Listed Spells first values inside)
    (each : List.Forall₂ (Reads item) values as) (enough : values.length < fuel) (done : List α) :
    itemsFrom item fuel first done ⟨inside ++ ']' :: rest, seen⟩ =
      .ok (done.reverse ++ as, ⟨']' :: rest, true⟩) := by
  -- The induction is on the spelling; the fuel only has to last longer than the items.
  induction listed generalizing fuel as done seen with
  | nil spaced =>
    cases each
    cases fuel with
    | zero => contradiction
    | succ fuel =>
      unfold itemsFrom
      rw [bind_of_ok (moreItems_end _ spaced), List.append_nil]
      rfl
  | @cons first value values gap text more apart spelled others ih =>
    cases each with
    | @cons _ a _ as reads each =>
      cases fuel with
      | zero => contradiction
      | succ fuel =>
        have ahead : moreItems first ⟨gap ++ (text ++ (more ++ ']' :: rest)), seen⟩ = _ :=
          moreItems_run apart (reads.opens spelled)
        -- The spaces are gone already, and the next comma or the end stops a number.
        obtain ⟨seen', taken⟩ := reads.takes spelled true within_nil
          (opensOutside_listed others (by decide : isNumeric ']' = false))
        unfold itemsFrom
        rw [List.append_assoc, List.append_assoc, bind_of_ok ahead, if_pos rfl]
        refine (bind_of_ok taken).trans ?_
        rw [ih each (Nat.lt_of_succ_lt_succ enough), List.reverse_cons, List.append_assoc]
        rfl

/-- Nothing that is listed is spelled by nothing, so there are no more things than characters. -/
theorem length_le_of_listed {spells : α → List Char → Prop} {first : Bool} {as : List α}
    {text : List Char} (listed : Listed spells first as text)
    (filled : ∀ a ∈ as, ∀ {text}, spells a text → text ≠ []) : as.length ≤ text.length := by
  induction listed with
  | nil => exact Nat.zero_le _
  | @cons first a as gap text more apart spelled others ih =>
    obtain ⟨own, rest⟩ := List.forall_mem_cons.mp filled
    have some_there := List.length_pos_iff.mpr (own spelled)
    have later := ih rest
    simp only [List.length_cons, List.length_append]
    omega

theorem closedBy_run {inside : Reader α} {finish : Reader Unit} {cursor mid behind : Cursor} {a : α}
    (run : inside cursor = .ok (a, mid)) (closed : finish mid = .ok ((), behind)) :
    closedBy finish inside cursor = .ok (a, behind) := by
  unfold closedBy
  rw [run]
  dsimp only
  rw [closed]

/-- The items of a list and its end are taken off if each item is. -/
theorem items_run {item : Reader α} {encode : α → Json} {as : List α} {inside : List Char}
    (listed : Listed Spells true (as.map encode) inside)
    (each : ∀ a ∈ as, Reads item (encode a) a) :
    closedBy endList (items item) ⟨inside ++ ']' :: rest, seen⟩ = .ok (as, ⟨rest, false⟩) := by
  have filled : ∀ value ∈ as.map encode, ∀ {text}, Spells value text → text ≠ [] := by
    rintro value member text spelled rfl
    obtain ⟨a, listed, rfl⟩ := List.mem_map.mp member
    obtain ⟨c, more, opened, -⟩ := (each a listed).opens spelled
    cases opened
  have enough : (as.map encode).length < (inside ++ ']' :: rest).length + 1 := by
    have bound := length_le_of_listed listed filled
    rw [List.length_append]
    omega
  have every : List.Forall₂ (Reads item) (as.map encode) as :=
    List.forall₂_map_left_iff.mpr (List.forall₂_same.mpr each)
  exact closedBy_run (itemsFrom_run listed every enough []) rfl

/-- A list is read if its items are. -/
theorem reads_list {item : Reader α} {encode : α → Json} {as : List α}
    (each : ∀ a ∈ as, Reads item (encode a) a) :
    Reads (list item) (.array (as.map encode)) as where
  opens := opens_array _
  takes := by
    intro text spelled seen spaces rest spaced _
    cases spelled with
    | array listed =>
      rw [List.cons_append, List.append_assoc]
      unfold list
      rw [skipSpaces_bind _ spaced (by decide)]
      exact ⟨false, items_run listed each⟩

/-! ### Records -/

/-- The step takes the fields one after the other, from one state to another. -/
inductive Steps {σ : Type} (step : σ → String → Reader σ) : σ → Fields → σ → Prop
  | nil {state : σ} : Steps step state [] state
  | cons {state mid last : σ} {key : String} {value : Json} {rest : Fields}
    (takes : Takes (step state key) (SpellsBehindKey value) mid)
    (others : Steps step mid rest last) :
    Steps step state ((key, value) :: rest) last

theorem Steps.append {σ : Type} {step : σ → String → Reader σ} {state mid last : σ}
    {fields others : Fields} (first : Steps step state fields mid)
    (second : Steps step mid others last) : Steps step state (fields ++ others) last := by
  induction first with
  | nil => exact second
  | cons takes _ ih => exact .cons takes (ih second)

/-- Behind a key a value is read after the colon. -/
theorem Takes.behindKey {reader : Reader α} {value : Json} {a : α}
    (takes : Takes reader value.Spells a) :
    Takes (do colon; reader) (SpellsBehindKey value) a := by
  rintro text ⟨before, after, spelling, rfl, spacedBefore, spacedAfter, spelled⟩ seen spaces rest
    spaced ended
  have run : colon ⟨spaces ++ before ++ ':' :: (after ++ (spelling ++ rest)), seen⟩ =
      .ok ((), ⟨after ++ (spelling ++ rest), false⟩) :=
    skipSpaces_bind _ (c := ':') (List.forall_mem_append.mpr ⟨spaced, spacedBefore⟩) (by decide)
  obtain ⟨seen', taken⟩ := takes spelled false spacedAfter ended
  refine ⟨seen', ?_⟩
  rw [List.append_assoc, List.cons_append, List.append_assoc, ← List.append_assoc spaces,
    bind_of_ok run, taken]

/-- The value of a field that has not come yet is read. -/
theorem Reads.field {reader : Reader α} {value : Json} {a : α} {next : α → Reader β} {b : β}
    (reads : Reads reader value a) (name : String)
    (continued : ∀ cursor, next a cursor = .ok (b, cursor)) :
    Takes (fill name none reader >>= next) (SpellsBehindKey value) b :=
  reads.takes.behindKey.bind continued

theorem moreFields_run {first : Bool} {gap : List Char} (apart : Gap first gap) :
    moreFields first ⟨gap ++ '"' :: more, seen⟩ = .ok (true, ⟨'"' :: more, true⟩) := by
  cases first with
  | true =>
    have spaced := gap_true_iff.mp apart
    exact skipSpaces_bind _ (c := '"') spaced (by decide)
  | false =>
    obtain ⟨before, after, rfl, spaced, behind⟩ := gap_false_iff.mp apart
    rw [List.append_assoc, List.cons_append]
    refine (skipSpaces_bind _ (c := ',') spaced (by decide)).trans ?_
    show (if false = true then _ else if ',' = ',' then _ else _ : Reader Bool) _ = _
    rw [if_neg Bool.false_ne_true, if_pos rfl, eat_bind]
    exact skipSpaces_bind _ (c := '"') behind (by decide)

theorem moreFields_end (first : Bool) (spaced : Within isSpace spaces) :
    moreFields first ⟨spaces ++ '\x7d' :: rest, seen⟩ = .ok (false, ⟨'\x7d' :: rest, true⟩) :=
  skipSpaces_bind _ (c := '\x7d') spaced (by decide)

theorem fieldsFrom_run {σ : Type} {step : σ → String → Reader σ} {first : Bool} {fields : Fields}
    {state last : σ} {inside : List Char} {fuel : Nat}
    (listed : Listed (SpellsField Spells) first fields inside)
    (steps : Steps step state fields last) (enough : fields.length < fuel) :
    fieldsFrom step fuel first state ⟨inside ++ '\x7d' :: rest, seen⟩ =
      .ok (last, ⟨'\x7d' :: rest, true⟩) := by
  -- On the fields as they are listed, with fuel for each of them.
  induction listed generalizing fuel state seen with
  | nil spaced =>
    cases steps
    cases fuel with
    | zero => contradiction
    | succ fuel =>
      unfold fieldsFrom
      rw [bind_of_ok (moreFields_end _ spaced)]
      rfl
  | @cons first field fields gap text more apart spelled others ih =>
    cases steps with
    | @cons _ mid _ key value _ takes steps =>
      cases fuel with
      | zero => contradiction
      | succ fuel =>
        obtain ⟨behind, rfl, bare⟩ := spelled.exists_behindKey
        obtain ⟨seen', taken⟩ := takes bare false within_nil
          (opensOutside_listed others (by decide : isNumeric '\x7d' = false))
        have named : stringBody ⟨quoteBehind key ++ (behind ++ (more ++ '\x7d' :: rest)), false⟩ =
            .ok (key, ⟨behind ++ (more ++ '\x7d' :: rest), false⟩) := stringBody_run key
        unfold fieldsFrom
        simp only [List.append_assoc, List.cons_append]
        rw [bind_of_ok (moreFields_run apart), if_pos rfl, eat_bind]
        refine (bind_of_ok named).trans ((bind_of_ok taken).trans ?_)
        exact ih steps (Nat.lt_of_succ_lt_succ enough)

theorem fields_run {σ : Type} {step : σ → String → Reader σ} {fields : Fields} {start last : σ}
    {inside : List Char} (listed : Listed (SpellsField Spells) true fields inside)
    (steps : Steps step start fields last) :
    Reader.fields step start ⟨inside ++ '\x7d' :: rest, seen⟩ =
      .ok (last, ⟨'\x7d' :: rest, true⟩) := by
  have filled : ∀ field ∈ fields, ∀ {text}, SpellsField Spells field text → text ≠ [] := by
    rintro ⟨key, value⟩ - text spelled rfl
    obtain ⟨behind, opened, -⟩ := spelled.exists_behindKey
    cases opened
  have enough : fields.length < (inside ++ '\x7d' :: rest).length + 1 := by
    have bound := length_le_of_listed listed filled
    rw [List.length_append]
    omega
  exact fieldsFrom_run listed steps enough

/-- A record is read from its fields if the steps lead to a state that makes it. -/
theorem reads_record {σ : Type} {step : σ → String → Reader σ} {start last : σ} {fields : Fields}
    {next : σ → Reader α} {a : α} (expected : String) (ofItems : Reader α)
    (steps : Steps step start fields last) (made : ∀ cursor, next last cursor = .ok (a, cursor)) :
    Reads (record expected (Reader.fields step start >>= next) ofItems) (.object fields) a where
  opens := opens_object fields
  takes := by
    intro text spelled seen spaces rest spaced _
    cases spelled with
    | object listed =>
      rw [List.cons_append, List.append_assoc]
      unfold record
      rw [skipSpaces_bind _ spaced (by decide)]
      exact ⟨false, closedBy_run ((bind_of_ok (fields_run listed steps)).trans (made _)) rfl⟩

/-! ### Whole texts -/

theorem readAll_of_reads {reader : Reader α} {value : Json} {a : α} {text : String}
    (reads : Reads reader value a) (spelled : value.Spells text.toList) :
    readAll reader text = .ok a := by
  have ended : OpensOutside isNumeric [] := trivial
  obtain ⟨seen', taken⟩ := reads.takes spelled false within_nil ended
  rw [List.nil_append, List.append_nil] at taken
  unfold readAll
  rw [bind_of_ok taken]
  rfl

/-! ### Any value -/

section AnyValue

variable {levels : Nat}

theorem reads_null : Reads (value levels) .null .null where
  opens := by
    rintro text ⟨⟩
    exact ⟨'n', ['u', 'l', 'l'], rfl, by decide, by decide, .inl rfl⟩
  takes := by
    rintro text ⟨⟩ seen spaces rest spaced -
    have written : "null".toList = ['n', 'u', 'l', 'l'] := rfl
    rw [written, List.cons_append]
    unfold value
    rw [skipSpaces_bind _ spaced (by decide)]
    exact ⟨false, word_bind ['u', 'l', 'l'] fun _ => pure Json.null⟩

theorem reads_bool (b : Bool) : Reads (value levels) (.bool b) (.bool b) where
  opens := opens_bool b
  takes := by
    rintro text ⟨⟩ seen spaces rest spaced -
    rw [toList_bool]
    unfold value
    cases b with
    | true =>
      rw [if_pos rfl, List.cons_append, skipSpaces_bind _ spaced (by decide)]
      exact ⟨false, word_bind ['r', 'u', 'e'] fun _ => pure (Json.bool true)⟩
    | false =>
      rw [if_neg Bool.false_ne_true, List.cons_append, skipSpaces_bind _ spaced (by decide)]
      exact ⟨false, word_bind ['a', 'l', 's', 'e'] fun _ => pure (Json.bool false)⟩

theorem reads_text (s : String) : Reads (value levels) (.text s) (.text s) where
  opens := opens_text s
  takes := by
    rintro text ⟨⟩ seen spaces rest spaced -
    rw [toList_stringLiteral, List.cons_append]
    unfold value
    rw [skipSpaces_bind _ spaced (by decide)]
    exact ⟨false, map_of_ok (stringBody_run s)⟩

theorem ne_of_isDigit {d e : Char} (digit : d.isDigit = true) (other : e.isDigit = false) :
    d ≠ e := by
  rintro rfl
  exact Bool.false_ne_true (other.symm.trans digit)

theorem isSpace_of_isDigit {d : Char} (digit : d.isDigit = true) : isSpace d = false := by
  unfold isSpace
  simp only [Bool.or_eq_false_iff, beq_eq_false_iff_ne]
  exact ⟨⟨⟨ne_of_isDigit digit rfl, ne_of_isDigit digit rfl⟩, ne_of_isDigit digit rfl⟩,
    ne_of_isDigit digit rfl⟩

/-- A value that opens with a digit is a number. -/
theorem value_of_digit {d : Char} (digit : d.isDigit = true) (spaced : Within isSpace spaces) :
    value levels ⟨spaces ++ d :: more, seen⟩ =
      (Json.number <$> number false) ⟨d :: more, true⟩ := by
  unfold value
  refine (skipSpaces_bind _ spaced (isSpace_of_isDigit digit)).trans (congrFun ?_ _)
  -- All other characters that the reader knows are no digits.
  split
  case h_1 => contradiction
  case h_9 same =>
    cases same
    rw [if_pos digit]
  all_goals
    next same => exact absurd (Option.some.inj same) (ne_of_isDigit digit rfl)

theorem render_natCast (n : Nat) : (Number.whole n).render.toList = Nat.toDigits 10 n :=
  Nat.toList_repr

theorem render_negSucc (n : Nat) :
    (Number.whole (Int.negSucc n)).render.toList = '-' :: Nat.toDigits 10 (n + 1) := by
  have written : (Number.whole (Int.negSucc n)).render = "-" ++ toString (n + 1) := rfl
  have digits : (toString (n + 1)).toList = Nat.toDigits 10 (n + 1) := Nat.toList_repr
  rw [written, String.toList_append, digits]
  rfl

theorem exists_toDigits_eq (n : Nat) :
    ∃ d digits, Nat.toDigits 10 n = d :: digits ∧ d.isDigit = true := by
  have filled : Nat.toDigits 10 n ≠ [] := Nat.toDigits_ne_nil
  obtain ⟨d, digits, written⟩ := List.exists_cons_of_ne_nil filled
  have first : d ∈ Nat.toDigits 10 n := written ▸ List.mem_cons_self
  exact ⟨d, digits, written, Nat.isDigit_of_mem_toDigits (by decide) (by decide) first⟩

theorem reads_natCast {n : Nat} (fits : n ≤ maxWord) :
    Reads (value levels) (.ofInt n) (.ofInt n) where
  opens := by
    rintro text ⟨⟩
    obtain ⟨d, digits, written, digit⟩ := exists_toDigits_eq n
    rw [render_natCast]
    exact ⟨d, digits, written, isSpace_of_isDigit digit, ne_of_isDigit digit rfl,
      .inr (ne_of_isDigit digit rfl)⟩
  takes := by
    rintro text ⟨⟩ seen spaces rest spaced ended
    obtain ⟨d, digits, written, digit⟩ := exists_toDigits_eq n
    have run : number false ⟨Nat.toDigits 10 n ++ rest, true⟩ = .ok (.whole n, ⟨rest, true⟩) :=
      number_run false fits ended
    rw [written, List.cons_append] at run
    rw [render_natCast, written, List.cons_append, value_of_digit digit spaced]
    exact ⟨true, map_of_ok run⟩

theorem reads_negSucc {n : Nat} (fits : n < Nat.pow 2 63) :
    Reads (value levels) (.ofInt (Int.negSucc n)) (.ofInt (Int.negSucc n)) where
  opens := by
    rintro text ⟨⟩
    exact ⟨'-', _, render_negSucc n, by decide, by decide, .inr (by decide)⟩
  takes := by
    rintro text ⟨⟩ seen spaces rest spaced ended
    have word : n + 1 ≤ maxWord := Nat.le_trans fits (by decide)
    have run : number true ⟨Nat.toDigits 10 (n + 1) ++ rest, false⟩ =
        .ok (.whole (Int.negSucc n), ⟨rest, true⟩) := by
      rw [number_run true word ended]
      unfold wholeOrReal
      rw [if_neg (by decide), if_pos (by simpa using Nat.succ_le_of_lt fits)]
      rfl
    rw [render_negSucc, List.cons_append]
    unfold value
    rw [skipSpaces_bind _ spaced (by decide)]
    exact ⟨true, map_of_ok run⟩

end AnyValue

/-- Whether a whole number has 64 bits, with or without a sign. -/
def FitsWord : Number → Prop
  | .whole (.ofNat n) => n ≤ maxWord
  | .whole (.negSucc n) => n < Nat.pow 2 63
  | .real _ => False

theorem reads_number {levels : Nat} {n : Number} (fits : FitsWord n) :
    Reads (value levels) (.number n) (.number n) := by
  cases n with
  | whole n =>
    cases n with
    | ofNat n => exact reads_natCast fits
    | negSucc n => exact reads_negSucc fits
  | real x => cases fits

section Nested

variable {levels : Nat}

theorem reads_array {entries : List Json}
    (each : ∀ entry ∈ entries, Reads (value levels) entry entry) :
    Reads (value (levels + 1)) (.array entries) (.array entries) where
  opens := opens_array entries
  takes := by
    intro text spelled seen spaces rest spaced _
    cases spelled with
    | array listed =>
      rw [← List.map_id entries] at listed
      rw [List.cons_append, List.append_assoc]
      unfold value
      rw [skipSpaces_bind _ spaced (by decide)]
      exact ⟨false, map_of_ok (items_run listed each)⟩

/-- Keeps a field that has any value. -/
def keepField (levels : Nat) (done : Fields) (key : String) : Reader Fields := do
  colon
  let entry ← value levels
  pure ((key, entry) :: done)

theorem steps_keepField {fields : Fields} (done : Fields)
    (each : ∀ field ∈ fields, Reads (value levels) field.2 field.2) :
    Steps (keepField levels) done fields (fields.reverse ++ done) := by
  induction fields generalizing done with
  | nil => exact .nil
  | cons field fields ih =>
    obtain ⟨key, entry⟩ := field
    obtain ⟨reads, others⟩ := List.forall_mem_cons.mp each
    have takes : Takes (keepField levels done key) (SpellsBehindKey entry) ((key, entry) :: done) :=
      (reads.takes.bind fun _ => rfl).behindKey
    rw [List.reverse_cons, List.append_assoc]
    exact .cons takes (ih _ others)

theorem reads_object {entries : Fields}
    (each : ∀ entry ∈ entries, Reads (value levels) entry.2 entry.2) :
    Reads (value (levels + 1)) (.object entries) (.object entries) where
  opens := opens_object entries
  takes := by
    intro text spelled seen spaces rest spaced _
    cases spelled with
    | @object _ inside listed =>
      have run : (do
          let kept ← closedBy endObject (Reader.fields (keepField levels) [])
          pure (Json.object kept.reverse) : Reader Json) ⟨inside ++ '\x7d' :: rest, false⟩ =
            .ok (.object entries, ⟨rest, false⟩) := by
        rw [bind_of_ok (closedBy_run (fields_run listed (steps_keepField [] each)) rfl),
          List.append_nil, List.reverse_reverse]
        rfl
      rw [List.cons_append, List.append_assoc]
      unfold value
      rw [skipSpaces_bind _ spaced (by decide)]
      exact ⟨false, run⟩

end Nested

end Reader

/-- At most the given number of lists and objects are nested in the value, and all its numbers are
whole ones of 64 bits. -/
def Simple : Nat → Json → Prop
  | _, .null | _, .bool _ | _, .text _ => True
  | _, .number n => Reader.FitsWord n
  | 0, .array _ | 0, .object _ => False
  | levels + 1, .array items => ∀ item ∈ items, item.Simple levels
  | levels + 1, .object fields => ∀ field ∈ fields, field.2.Simple levels

namespace Reader

/-- A simple value is read as itself. -/
theorem reads_value : ∀ {levels : Nat} {whole : Json}, whole.Simple levels →
    Reads (value levels) whole whole
  | _, .null, _ => reads_null
  | _, .bool b, _ => reads_bool b
  | _, .number n, simple => reads_number (by simpa only [Simple] using simple)
  | _, .text s, _ => reads_text s
  | _ + 1, .array _, simple => reads_array fun entry member => reads_value (simple entry member)
  | _ + 1, .object _, simple => reads_object fun entry member => reads_value (simple entry member)

end Reader

/-- A simple value is read back from every text that spells it. -/
theorem parse_of_spells {value : Json} {text : String} (simple : value.Simple Reader.maxLevels)
    (spelled : value.Spells text.toList) : parse text = .ok value :=
  Reader.readAll_of_reads (Reader.reads_value simple) spelled

end ChatCommand.Json
