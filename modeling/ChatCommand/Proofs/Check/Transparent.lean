import ChatCommand.Check.Compound
import ChatCommand.Proofs.Check.Regular
import Mathlib

/-!
# Results that are written and read back

Between its two phases the erased form of a check holds a JSON value in place of what was read. It
answers as the check itself does whenever this value is read back as what was written and the result
can be written as well. Texts, truth values and numbers are always read back, and so are lists of
them and values that may be absent; a whole number is read back when it has 64 bits.

## Main definitions

- `JsonForm.Writable`, `JsonForm.ReadsBack`: values that survive being written.
- `JsonForm.Plain`: types all of whose values are read back.
- `Check.Transparent`: the erased form of a check answers as the check does.

## Main results

- `Check.transparent_of_readsBack`: when a check and its erased form give the same answer.
- `JsonForm.Plain.readsBack`, `JsonForm.readsBack_int_iff`: what is read back.
- `Check.erasure_law`: both together.
-/

namespace ChatCommand

namespace JsonForm

variable {α : Type} [JsonForm α]

/-- There is a JSON value that the value is written as. -/
def Writable (a : α) : Prop := ∃ value, encode? a = some value

/-- The value is written as a JSON value that is read as the same value again. -/
def ReadsBack (a : α) : Prop := ∃ value, encode? a = some value ∧ decode value = .ok a

theorem ReadsBack.writable {a : α} (back : ReadsBack a) : Writable a :=
  back.imp fun _ => And.left

theorem encode_eq_ok {a : α} {value : Json} (written : encode? a = some value) :
    encode a = .ok value := by
  unfold encode
  rw [written]

/-! ### Whole numbers -/

theorem fitsJson_iff {n : Int} : fitsJson n = true ↔ -(2 ^ 63) ≤ n ∧ n < 2 ^ 64 := by
  unfold fitsJson
  rw [Bool.and_eq_true, decide_eq_true_eq, decide_eq_true_eq]
  rfl

/-- A whole number is read back when a JSON number has room for it. -/
theorem readsBack_int_iff {n : Int} : ReadsBack n ↔ -(2 ^ 63) ≤ n ∧ n < 2 ^ 64 := by
  rw [← fitsJson_iff]
  constructor
  · rintro ⟨value, written, -⟩
    by_contra outside
    have unwritten : encode? n = none := if_neg outside
    rw [unwritten] at written
    contradiction
  · intro fits
    exact ⟨.ofInt n, if_pos fits, rfl⟩

theorem decodeWord_ofInt (expected : String) {size n : Nat} (small : n < size) :
    decodeWord expected size (.ofInt n) = .ok n := by
  have fits : 0 ≤ (n : Int) ∧ (n : Int) < size := ⟨n.cast_nonneg, Int.ofNat_lt.mpr small⟩
  unfold decodeWord
  exact if_pos fits

theorem readsBack_uint32 (n : UInt32) : ReadsBack n := by
  refine ⟨.ofInt n.toNat, rfl, ?_⟩
  show UInt32.ofNat <$> decodeWord "u32" UInt32.size (.ofInt n.toNat) = .ok n
  rw [decodeWord_ofInt _ n.toNat_lt_size]
  exact congrArg Except.ok n.ofNat_toNat

theorem readsBack_uint64 (n : UInt64) : ReadsBack n := by
  refine ⟨.ofInt n.toNat, rfl, ?_⟩
  show UInt64.ofNat <$> decodeWord "u64" UInt64.size (.ofInt n.toNat) = .ok n
  rw [decodeWord_ofInt _ n.toNat_lt_size]
  exact congrArg Except.ok n.ofNat_toNat

/-! ### Lists and absent values -/

theorem readsBack_list {items : List α} (each : ∀ item ∈ items, ReadsBack item) :
    ReadsBack items := by
  have values : ∃ values, items.mapM encode? = some values ∧ values.mapM decode = .ok items := by
    induction items with
    | nil => exact ⟨[], rfl, rfl⟩
    | cons item rest ih =>
      obtain ⟨⟨value, written, read⟩, others⟩ := List.forall_mem_cons.mp each
      obtain ⟨values, writtenRest, readRest⟩ := ih others
      refine ⟨value :: values, ?_, ?_⟩
      · rw [List.mapM_cons, written, writtenRest]
        rfl
      · rw [List.mapM_cons, read, readRest]
        rfl
  obtain ⟨values, written, read⟩ := values
  refine ⟨.array values, ?_, read⟩
  show Json.array <$> items.mapM encode? = _
  rw [written]
  rfl

instance : NeverNull Binary64 := ⟨fun _ => nofun⟩

instance : NeverNull (List α) := by
  constructor
  intro items written
  obtain ⟨values, -, same⟩ := Option.map_eq_some_iff.mp written
  contradiction

theorem readsBack_none : ReadsBack (none : Option α) := ⟨.null, rfl, rfl⟩

theorem readsBack_some [NeverNull α] {a : α} (back : ReadsBack a) : ReadsBack (some a) := by
  obtain ⟨value, written, read⟩ := back
  refine ⟨value, written, ?_⟩
  have readInside : decode value = (some <$> decode value : Except Mismatch (Option α)) := by
    -- Nothing but `null` is read as an absent value, and the value is not written as that.
    cases value with
    | null => exact absurd written (NeverNull.encode?_ne a)
    | _ => rfl
  rw [readInside, read]
  rfl

/-- An absent value beside a value that is itself absent is written just like that value. -/
theorem not_readsBack_some_none : ¬ ReadsBack (some none : Option (Option α)) := by
  rintro ⟨value, written, read⟩
  obtain rfl : .null = value := Option.some.inj written
  exact absurd (Except.ok.inj read) nofun

/-- The types of texts, truth values, numbers in binary64, and words, of lists of such values, and
of such values that may be absent. None allows a value to be absent in two ways. -/
inductive Plain : (mayBeAbsent : Bool) → (α : Type) → [JsonForm α] → Prop where
  | text : Plain false String
  | truth : Plain false Bool
  | real : Plain false Binary64
  | word32 : Plain false UInt32
  | word64 : Plain false UInt64
  | list {mayBeAbsent : Bool} {α : Type} [JsonForm α] (item : Plain mayBeAbsent α) :
      Plain false (List α)
  | optional {α : Type} [JsonForm α] (value : Plain false α) : Plain true (Option α)

theorem Plain.neverNull {mayBeAbsent : Bool} (plain : Plain mayBeAbsent α)
    (present : mayBeAbsent = false) : NeverNull α := by
  cases plain with
  | text | truth | real | word32 | word64 | list => infer_instance
  | optional => contradiction

/-- All values of a plain type are read back. -/
theorem Plain.readsBack {mayBeAbsent : Bool} (plain : Plain mayBeAbsent α) (a : α) :
    ReadsBack a := by
  induction plain with
  | text => exact ⟨.text a, rfl, rfl⟩
  | truth => exact ⟨.bool a, rfl, rfl⟩
  | real => exact ⟨.number (.real a), rfl, rfl⟩
  | word32 => exact readsBack_uint32 a
  | word64 => exact readsBack_uint64 a
  | list _ ih => exact readsBack_list fun item _ => ih item
  | optional value ih =>
    have := value.neverNull rfl
    cases a with
    | none => exact readsBack_none
    | some a => exact readsBack_some (ih a)

end JsonForm

/-! ### Erased checks -/

namespace Check

open JsonForm (encode encode? decode ReadsBack Writable Plain encode_eq_ok)

variable {α : Type} [JsonForm α] {check : Check α} {input : Option Json}

/-- On an input, the erased form of the check gives the check's value, written as a JSON value, or
the check's failure. -/
structure Transparent (check : Check α) (input : Option Json) : Prop where
  accepted : ∀ a, check.run input = .ok a →
    ∃ value, encode? a = some value ∧ check.erase.run input = .ok value
  rejected : ∀ failure, check.run input = .error failure →
    check.erase.run input = .error failure

theorem readBack_eq_ok (subject : String) {value : Json} {a : α} (read : decode value = .ok a) :
    readBack subject value = .ok a := by
  unfold readBack
  rw [read]

/-- An input that is not read is rejected by both forms alike. -/
theorem run_erase_of_error {failure : Failure} (unread : check.transform input = .error failure) :
    check.erase.run input = .error failure := by
  apply run_of_unread
  show check.transform input >>= encode = _
  rw [unread]
  rfl

/-- The erased form refines what was read and read back. -/
theorem run_erase_of_readsBack {a : α} (read : check.transform input = .ok a)
    (back : ReadsBack a) : check.erase.run input = check.run input >>= encode := by
  obtain ⟨value, written, same⟩ := back
  show (check.transform input >>= encode >>= fun value =>
      readBack check.name value >>= fun a => check.refineOwn a >>= encode) =
    (check.transform input >>= check.refineOwn) >>= encode
  rw [read]
  show (encode a >>= fun value =>
    readBack check.name value >>= fun a => check.refineOwn a >>= encode) = _
  rw [encode_eq_ok written]
  show (readBack check.name value >>= fun a => check.refineOwn a >>= encode) = _
  rw [readBack_eq_ok check.name same]
  rfl

theorem transparent_of_readsBack
    (between : ∀ a, check.transform input = .ok a → ReadsBack a)
    (after : ∀ a, check.run input = .ok a → Writable a) : check.Transparent input := by
  cases read : check.transform input with
  | error failure =>
    have unread := run_of_unread read
    refine ⟨fun a accepted => ?_, fun other rejected => ?_⟩
    · rw [unread] at accepted
      contradiction
    · obtain rfl : failure = other := Except.error.inj (unread.symm.trans rejected)
      exact run_erase_of_error read
  | ok a =>
    have erased := run_erase_of_readsBack read (between a read)
    refine ⟨fun refined accepted => ?_, fun failure rejected => ?_⟩
    · obtain ⟨value, written⟩ := after refined accepted
      refine ⟨value, written, ?_⟩
      rw [erased, accepted]
      exact encode_eq_ok written
    · rw [erased, rejected]
      rfl

/-- Erasing a check of a plain type changes none of its answers. -/
theorem transparent_of_plain {mayBeAbsent : Bool} (plain : Plain mayBeAbsent α) (check : Check α)
    (input : Option Json) : check.Transparent input :=
  transparent_of_readsBack (fun a _ => plain.readsBack a) fun a _ => (plain.readsBack a).writable

/-- The erased form of a check of a plain type accepts what the check accepts. -/
theorem run_erase_eq_ok_iff {mayBeAbsent : Bool} (plain : Plain mayBeAbsent α) {value : Json} :
    check.erase.run input = .ok value ↔
      ∃ a, check.run input = .ok a ∧ encode? a = some value := by
  obtain ⟨accepted, rejected⟩ := transparent_of_plain plain check input
  cases answer : check.run input with
  | error failure => simp [rejected failure answer]
  | ok a =>
    obtain ⟨written, encoded, same⟩ := accepted a answer
    simp [same, encoded]

/-- The erased form of a check answers as the check does, provided that what is read can be read
back and the result can be written. Values of plain types can always be read back, and whole numbers
when they have 64 bits. -/
theorem erasure_law :
    (∀ {α : Type} [JsonForm α] (check : Check α) (input : Option Json),
      (∀ a, check.transform input = .ok a → ReadsBack a) →
      (∀ a, check.run input = .ok a → Writable a) → check.Transparent input) ∧
    (∀ {mayBeAbsent : Bool} {α : Type} [JsonForm α],
      Plain mayBeAbsent α → ∀ a : α, ReadsBack a) ∧
    ∀ n : Int, ReadsBack n ↔ -(2 ^ 63) ≤ n ∧ n < 2 ^ 64 :=
  ⟨fun _ _ => transparent_of_readsBack, fun plain => plain.readsBack,
    fun _ => JsonForm.readsBack_int_iff⟩

/-- At most two whole numbers. -/
def pair : Check (List Int) :=
  ((array integer).validate fun items =>
    if items.length ≤ 2 then none
    else some fun subject => subject ++ " must have at most two entries").named "Pair"

/-- The numbers survive the erasure, and the rule about their list still speaks of its subject. -/
theorem erasure_law_pair :
    (∀ a, pair.transform (some (.array [.ofInt 1, .ofInt (-2), .ofInt 3])) = .ok a →
      ReadsBack a) ∧
    (∀ a, pair.run (some (.array [.ofInt 1, .ofInt (-2), .ofInt 3])) = .ok a → Writable a) ∧
    pair.erase.run (some (.array [.ofInt 1, .ofInt (-2), .ofInt 3])) =
      .error (.invalidValue "Pair must have at most two entries") := by
  have between : ∀ a, pair.transform (some (.array [.ofInt 1, .ofInt (-2), .ofInt 3])) = .ok a →
      ReadsBack a := by
    intro a read
    obtain rfl : [1, -2, 3] = a := Except.ok.inj read
    exact JsonForm.readsBack_list fun n member => JsonForm.readsBack_int_iff.mpr (by grind)
  have rejected : pair.run (some (.array [.ofInt 1, .ofInt (-2), .ofInt 3])) =
      .error (.invalidValue "Pair must have at most two entries") := by rfl
  have after : ∀ a, pair.run (some (.array [.ofInt 1, .ofInt (-2), .ofInt 3])) = .ok a →
      Writable a := by
    intro a accepted
    rw [rejected] at accepted
    contradiction
  exact ⟨between, after, (erasure_law.1 pair _ between after).rejected _ rejected⟩

end Check

end ChatCommand
