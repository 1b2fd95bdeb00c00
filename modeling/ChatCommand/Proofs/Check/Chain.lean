import ChatCommand.Check.Erasure
import ChatCommand.Check.Refinement

/-!
# Chains of attachments

Names, rules, normalisations, preparations and erasures are attached to a check one after the other,
and each attachment wraps what was there before. A chain of them is told here by what happens to a
value on its way: preparations come before the reading, the last one first; an erasure writes what
was read and reads it back for the refinement; and then the refinements run in the order in which
they were attached, up to the first one that fails. Names take no part in any of this. The last one
is the subject of every message.

## Main definitions

- `Check.Attachment`, `Check.Chain`: what is attached to a check, one or several.
- `Chain.nameLast`: the chain without its names, and the last of these at the end.
- `Chain.enter`: the value at which the refinements of a chain start.
- `Chain.replay`: the refinements of a chain, one after the other.
- `Chain.StopsWith`: the first refinement that fails.

## Main results

- `Chain.apply_nameLast`: only the last name counts.
- `Chain.run_apply`: a chain tells what happens to a value.
- `Chain.replay_eq_error_iff`: the first refinement that fails is the one reported.
-/

namespace ChatCommand.Check

attribute [ext] Check

/-- The checks differ in their names at most. -/
structure Alike {α : Type} (one two : Check α) : Prop where
  transform_eq : one.transform = two.transform
  refine_eq : one.refine = two.refine

theorem Alike.refl {α : Type} (check : Check α) : Alike check check := ⟨rfl, rfl⟩

/-- What can be attached to a check of one type, which becomes a check of another type. -/
inductive Attachment : Type → Type → Type 1 where
  | named {α : Type} (name : String) : Attachment α α
  | validate {α : Type} (rule : α → Option Violation) : Attachment α α
  | normalize {α : Type} (normal : α → α) : Attachment α α
  | before {α : Type} (prepare : Json → Json) : Attachment α α
  | erase {α : Type} [JsonForm α] : Attachment α Json

namespace Attachment

variable {α β : Type}

/-- The check with the attachment. -/
def apply : Attachment α β → Check α → Check β
  | .named name, check => check.named name
  | .validate rule, check => check.validate rule
  | .normalize normal, check => check.normalize normal
  | .before prepare, check => check.before prepare
  | @erase _ _, check => check.erase

/-- The name that is attached. -/
def name? : Attachment α β → Option String
  | .named name => some name
  | _ => none

/-- What is done to an input before it is read. -/
def prepare : Attachment α β → Json → Json
  | .before prepare => prepare
  | _ => id

/-- What a value that was read is handed on as. -/
def write : Attachment α β → α → Except Failure β
  | .named _ | .validate _ | .normalize _ | .before _ => .ok
  | @erase _ _ => JsonForm.encode

/-- The value that was read, taken back from what it was handed on as. -/
def readBack (subject : String) : Attachment α β → β → Except Failure α
  | .named _ | .validate _ | .normalize _ | .before _ => .ok
  | @erase _ _ => Check.readBack subject

/-- What is done to a value that all earlier refinements have passed on. -/
def replay (subject : String) : Attachment α β → α → Except Failure β
  | .named _ | .before _ => .ok
  | .validate rule => fun value =>
    match rule value with
    | none => .ok value
    | some violation => .error (.invalidValue (violation subject))
  | .normalize normal => fun value => .ok (normal value)
  | @erase _ _ => JsonForm.encode

/-- A rule is broken, or a value cannot be written. -/
inductive Fails (subject : String) : {α β : Type} → Attachment α β → α → Failure → Prop where
  | broken {α : Type} {rule : α → Option Violation} {value : α} {violation : Violation}
      (breaks : rule value = some violation) :
      Fails subject (.validate rule) value (.invalidValue (violation subject))
  | unwritten {α : Type} [JsonForm α] {value : α} {failure : Failure}
      (fails : JsonForm.encode value = .error failure) : Fails subject .erase value failure

theorem name_apply (attachment : Attachment α β) (check : Check α) :
    (attachment.apply check).name = attachment.name?.getD check.name := by
  cases attachment <;> rfl

theorem transform_apply (attachment : Attachment α β) (check : Check α) (input : Option Json) :
    (attachment.apply check).transform input =
      check.transform (input.map attachment.prepare) >>= attachment.write := by
  cases attachment with
  | before prepare => exact (bind_pure _).symm
  | named | validate | normalize =>
    show check.transform input = check.transform (input.map id) >>= Except.ok
    rw [Option.map_id, id]
    exact (bind_pure _).symm
  | erase =>
    show check.transform input >>= JsonForm.encode =
      check.transform (input.map id) >>= JsonForm.encode
    rw [Option.map_id, id]

theorem refine_apply (attachment : Attachment α β) (check : Check α) (subject : String)
    (value : β) :
    (attachment.apply check).refine subject value =
      attachment.readBack subject value >>= check.refine subject >>=
        attachment.replay subject := by
  cases attachment with
  | named | before => exact (bind_pure _).symm
  | validate rule => rfl
  | normalize normal =>
    show (check.refine subject value).map normal =
      check.refine subject value >>= fun value => .ok (normal value)
    cases check.refine subject value <;> rfl
  | erase => exact (bind_assoc _ _ _).symm

theorem replay_eq_error_iff {subject : String} {attachment : Attachment α β} {value : α}
    {failure : Failure} :
    attachment.replay subject value = .error failure ↔ attachment.Fails subject value failure := by
  cases attachment with
  | named | before | normalize => exact ⟨nofun, nofun⟩
  | validate rule =>
    constructor
    · intro fails
      cases broken : rule value with
      | none => simp [replay, broken] at fails
      | some violation =>
        obtain rfl : .invalidValue (violation subject) = failure := by
          simpa [replay, broken] using fails
        exact .broken broken
    · rintro ⟨breaks⟩
      simp [replay, breaks]
  | erase =>
    constructor
    · exact .unwritten
    · rintro (- | fails)
      exact fails

theorem apply_alike (attachment : Attachment α β) {one two : Check α} (alike : Alike one two) :
    Alike (attachment.apply one) (attachment.apply two) := by
  constructor
  · funext input
    rw [transform_apply, transform_apply, alike.transform_eq]
  · funext subject value
    rw [refine_apply, refine_apply, alike.refine_eq]

end Attachment

/-- What is attached to a check one after the other, from the first attachment on. -/
inductive Chain : Type → Type → Type 1 where
  | nil {α : Type} : Chain α α
  | cons {α β γ : Type} (first : Attachment α β) (rest : Chain β γ) : Chain α γ

namespace Chain

variable {α β γ : Type}

/-- The check with all attachments. -/
def apply : {α β : Type} → Chain α β → Check α → Check β
  | _, _, .nil, check => check
  | _, _, .cons first rest, check => rest.apply (first.apply check)

/-- The attachments of two chains. -/
def append : {α β γ : Type} → Chain α β → Chain β γ → Chain α γ
  | _, _, _, .nil, chain => chain
  | _, _, _, .cons first rest, chain => .cons first (rest.append chain)

/-! ### Names -/

/-- The last name that is attached. -/
def lastName? : {α β : Type} → Chain α β → Option String
  | _, _, .nil => none
  | _, _, .cons first rest => rest.lastName?.or first.name?

/-- The chain without the names. -/
def withoutNames : {α β : Type} → Chain α β → Chain α β
  | _, _, .nil => .nil
  | _, _, .cons (.named _) rest => rest.withoutNames
  | _, _, .cons first rest => .cons first rest.withoutNames

/-- The chain without the names, and the last of these at the end. -/
def nameLast (chain : Chain α β) : Chain α β :=
  match chain.lastName? with
  | none => chain.withoutNames
  | some name => chain.withoutNames.append (.cons (.named name) .nil)

/-- The name that a check has with the chain: the subject of its messages. -/
def subject (chain : Chain α β) (check : Check α) : String := chain.lastName?.getD check.name

/-! ### The way of a value -/

/-- What is done to an input before it is read, the last preparation first. -/
def prepare : {α β : Type} → Chain α β → Json → Json
  | _, _, .nil => id
  | _, _, .cons first rest => first.prepare ∘ rest.prepare

/-- What a value that was read is handed on as. -/
def write : {α β : Type} → Chain α β → α → Except Failure β
  | _, _, .nil => .ok
  | _, _, .cons first rest => fun value => first.write value >>= rest.write

/-- The value that was read, taken back from what it was handed on as. -/
def readBack (subject : String) : {α β : Type} → Chain α β → β → Except Failure α
  | _, _, .nil => .ok
  | _, _, .cons first rest => fun value => rest.readBack subject value >>= first.readBack subject

/-- The refinements of the chain, in the order in which they were attached. -/
def replay (subject : String) : {α β : Type} → Chain α β → α → Except Failure β
  | _, _, .nil => .ok
  | _, _, .cons first rest => fun value => first.replay subject value >>= rest.replay subject

/-- The value at which the refinements of the chain start: the check has read it from the prepared
input, all erasures have written it, it was read back, and the check's own refinement has passed. -/
def enter (chain : Chain α β) (check : Check α) (input : Option Json) : Except Failure α := do
  let read ← check.transform (input.map chain.prepare)
  let written ← chain.write read
  let back ← chain.readBack (chain.subject check) written
  check.refine (chain.subject check) back

/-- All refinements of a chain up to one pass, and this one fails. -/
def StopsWith (subject : String) (chain : Chain α γ) (value : α) (failure : Failure) : Prop :=
  ∃ (β β' : Type) (passed : Chain α β) (failing : Attachment β β') (rest : Chain β' γ)
    (reached : β), chain = passed.append (.cons failing rest) ∧
      passed.replay subject value = .ok reached ∧ failing.Fails subject reached failure

/-! ### What a chain does to a check -/

theorem name_apply (chain : Chain α β) (check : Check α) :
    (chain.apply check).name = chain.subject check := by
  induction chain with
  | nil => rfl
  | cons first rest ih =>
    rw [apply, ih]
    unfold subject
    rw [first.name_apply, lastName?]
    cases rest.lastName? <;> rfl

theorem transform_apply (chain : Chain α β) (check : Check α) (input : Option Json) :
    (chain.apply check).transform input =
      check.transform (input.map chain.prepare) >>= chain.write := by
  induction chain generalizing input with
  | nil =>
    show check.transform input = check.transform (input.map id) >>= Except.ok
    rw [Option.map_id, id]
    exact (bind_pure _).symm
  | cons first rest ih =>
    -- What is attached first stands next to the check: its preparation comes last.
    rw [apply, ih, first.transform_apply, Option.map_map, bind_assoc]
    rfl

theorem refine_apply (chain : Chain α β) (check : Check α) (subject : String) (value : β) :
    (chain.apply check).refine subject value =
      chain.readBack subject value >>= check.refine subject >>= chain.replay subject := by
  induction chain with
  | nil => exact (bind_pure _).symm
  | cons first rest ih =>
    rw [apply, ih]
    simp only [first.refine_apply, readBack, replay, bind_assoc]

/-- A check with a chain leads a value to the refinements of the chain and through these. -/
theorem run_apply (chain : Chain α β) (check : Check α) (input : Option Json) :
    (chain.apply check).run input =
      chain.enter check input >>= chain.replay (chain.subject check) := by
  simp only [run, refineOwn, enter, name_apply, transform_apply, refine_apply, bind_assoc]

/-! ### Only the last name counts -/

theorem apply_append (chain : Chain α β) (more : Chain β γ) (check : Check α) :
    (chain.append more).apply check = more.apply (chain.apply check) := by
  induction chain with
  | nil => rfl
  | cons first rest ih => exact ih more (first.apply check)

theorem lastName?_withoutNames (chain : Chain α β) : chain.withoutNames.lastName? = none := by
  induction chain with
  | nil => rfl
  | cons first rest ih => cases first <;> simp [withoutNames, lastName?, Attachment.name?, ih]

/-- Nothing but the names is told apart by leaving out names. -/
theorem alike_withoutNames (chain : Chain α β) {one two : Check α} (alike : Alike one two) :
    Alike (chain.apply one) (chain.withoutNames.apply two) := by
  induction chain with
  | nil => exact alike
  | cons first rest ih =>
    cases first with
    | named name => exact ih ⟨alike.transform_eq, alike.refine_eq⟩
    | validate | normalize | before | erase => exact ih (Attachment.apply_alike _ alike)

/-- Only the last of the names counts, and it may as well be attached at the end. -/
theorem apply_nameLast (chain : Chain α β) (check : Check α) :
    chain.nameLast.apply check = chain.apply check := by
  obtain ⟨transform_eq, refine_eq⟩ := chain.alike_withoutNames (Alike.refl check)
  unfold nameLast
  split
  next unnamed =>
    ext1
    · rw [name_apply, name_apply, subject, subject, lastName?_withoutNames, unnamed]
    · exact transform_eq.symm
    · exact refine_eq.symm
  next name last =>
    rw [apply_append]
    ext1
    · rw [chain.name_apply, subject, last]
      rfl
    · exact transform_eq.symm
    · exact refine_eq.symm

/-! ### The first refinement that fails -/

theorem replay_append (subject : String) (chain : Chain α β) (more : Chain β γ) (value : α) :
    (chain.append more).replay subject value =
      chain.replay subject value >>= more.replay subject := by
  induction chain with
  | nil => rfl
  | cons first rest ih =>
    show first.replay subject value >>= (rest.append more).replay subject =
      first.replay subject value >>= rest.replay subject >>= more.replay subject
    rw [bind_assoc, funext (ih more)]

theorem replay_eq_error_iff {subject : String} {chain : Chain α β} {value : α}
    {failure : Failure} :
    chain.replay subject value = .error failure ↔ chain.StopsWith subject value failure := by
  constructor
  · intro fails
    -- The attachment that fails is the first one, or it is found in the rest, behind the first one.
    induction chain with
    | nil => contradiction
    | cons first rest ih =>
      change first.replay subject value >>= rest.replay subject = .error failure at fails
      cases passed : first.replay subject value with
      | error own =>
        rw [passed] at fails
        obtain rfl := Except.error.inj fails
        exact ⟨_, _, .nil, first, rest, value, rfl, rfl,
          Attachment.replay_eq_error_iff.mp passed⟩
      | ok next =>
        rw [passed] at fails
        obtain ⟨_, _, before, failing, behind, reached, rfl, reaches, fails⟩ := ih fails
        refine ⟨_, _, .cons first before, failing, behind, reached, rfl, ?_, fails⟩
        show first.replay subject value >>= before.replay subject = _
        rw [passed]
        exact reaches
  · rintro ⟨_, _, passed, failing, rest, reached, rfl, reaches, fails⟩
    rw [replay_append, reaches]
    show failing.replay subject reached >>= rest.replay subject = .error failure
    rw [Attachment.replay_eq_error_iff.mpr fails]
    rfl

/-- Only the last of the names in a chain counts: it is the name of the check, and the subject of
all messages. The refinements run in the order in which they were attached, and the first one that
fails is reported. -/
theorem chain_law (chain : Chain α β) (check : Check α) :
    chain.apply check = chain.nameLast.apply check ∧
    (chain.apply check).name = chain.subject check ∧
    ∀ input,
      (chain.apply check).run input =
        chain.enter check input >>= chain.replay (chain.subject check) ∧
      ∀ failure, (chain.apply check).run input = .error failure ↔
        chain.enter check input = .error failure ∨ ∃ value,
          chain.enter check input = .ok value ∧
            chain.StopsWith (chain.subject check) value failure := by
  refine ⟨(chain.apply_nameLast check).symm, chain.name_apply check, fun input =>
    ⟨chain.run_apply check input, fun failure => ?_⟩⟩
  rw [run_apply]
  cases chain.enter check input with
  | error own =>
    show Except.error own = Except.error failure ↔ _
    simp
  | ok value =>
    show chain.replay (chain.subject check) value = .error failure ↔ _
    simp [replay_eq_error_iff]

/-- The rule is about a text, and it speaks of the name that came after it and after the erasure. -/
example : ((cons (.named "Word") (cons (.validate (Rule.length (.inclusive none (some 3))))
    (cons .erase (cons (.named "Code") nil)))).apply string).run (some (.text "long")) =
      .error (.invalidValue "Code must be at most 3 characters long") := rfl

end Chain

end ChatCommand.Check
