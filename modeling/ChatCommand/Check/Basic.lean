import ChatCommand.Check.Failure

/-!
# Checks

A check turns a value that may be missing into a value of its own type, or fails. It works in two
phases: the transformation reads the value, and the refinement judges and normalises what was
read. Messages of the refinement name their subject, which is the name that the check has in
the end.

## Main definitions

- `Check`: checks that yield values of a type.
- `Check.run`: both phases.
- `Check.validate`, `Check.normalize`: one more refinement.
- `Check.before`: a preparation of the value.
- `Check.convert`: a check of a narrower type on top of another.
- `Check.named`: another name, which becomes the subject of all messages.
-/

namespace ChatCommand

/-- A sentence about a rule that a value breaks, for a given subject. -/
abbrev Violation := String → String

/-- A check that yields values of type `α`. -/
structure Check (α : Type) where
  name : String
  /-- Reads a value, which may be missing. -/
  transform : Option Json → Except Failure α
  /-- Judges and normalises a value, for a given subject. -/
  refine : String → α → Except Failure α

namespace Check

variable {α β : Type}

/-- A check whose refinement accepts everything. -/
def ofTransform (name : String) (transform : Option Json → Except Failure α) : Check α :=
  ⟨name, transform, fun _ value => .ok value⟩

/-- The second phase alone. -/
def refineOwn (check : Check α) (value : α) : Except Failure α := check.refine check.name value

/-- Both phases. -/
def run (check : Check α) (input : Option Json) : Except Failure α := do
  let value ← check.transform input
  check.refineOwn value

/-- The same check under another name. -/
def named (name : String) (check : Check α) : Check α := { check with name }

/-- Adds a rule to the refinement. -/
def validate (rule : α → Option Violation) (check : Check α) : Check α :=
  { check with
    refine := fun subject value => do
      let value ← check.refine subject value
      match rule value with
      | none => .ok value
      | some violation => .error (.invalidValue (violation subject)) }

/-- Adds a normalisation to the refinement. -/
def normalize (normal : α → α) (check : Check α) : Check α :=
  { check with refine := fun subject value => (check.refine subject value).map normal }

/-- Prepares a value that is present before it is read. -/
def before (prepare : Json → Json) (check : Check α) : Check α :=
  { check with transform := fun input => check.transform (input.map prepare) }

/-- A check that converts what another one yields. A conversion that fails names the new check
as its subject. -/
def convert (name : String) (conversion : α → Except Violation β) (check : Check α) : Check β :=
  ofTransform name fun input => do
    let value ← check.run input
    match conversion value with
    | .ok converted => .ok converted
    | .error violation => .error (.invalidValue (violation name))

/-- The check with its results marked as present. An absent value passes the refinement. -/
def liftSome (check : Check α) : Check (Option α) where
  name := check.name
  transform input := (check.transform input).map some
  refine subject
    | some value => (check.refine subject value).map some
    | none => .ok none

@[simp]
theorem run_ofTransform (name : String) (transform : Option Json → Except Failure α)
    (input : Option Json) : (ofTransform name transform).run input = transform input := by
  show (transform input >>= fun value => .ok value) = _
  cases transform input <;> rfl

theorem run_of_read {check : Check α} {input : Option Json} {value : α}
    (read : check.transform input = .ok value) : check.run input = check.refineOwn value := by
  simp [run, read, Bind.bind, Except.bind]

theorem run_of_unread {check : Check α} {input : Option Json} {failure : Failure}
    (unread : check.transform input = .error failure) : check.run input = .error failure := by
  simp [run, unread, Bind.bind, Except.bind]

theorem run_convert_eq_ok_iff {α β : Type} {name : String} {conversion : α → Except Violation β}
    {check : Check α} {input : Option Json} {converted : β} :
    (check.convert name conversion).run input = .ok converted ↔
      ∃ value, check.run input = .ok value ∧ conversion value = .ok converted := by
  unfold convert
  rw [run_ofTransform]
  cases check.run input with
  | error failure => simp [Bind.bind, Except.bind]
  | ok value => cases answer : conversion value <;> simp [Bind.bind, Except.bind, answer]

/-- What a check yields passes a further rule when it does not break it. -/
theorem run_validate_eq_ok_iff {rule : α → Option Violation} {check : Check α}
    {input : Option Json} {value : α} :
    (check.validate rule).run input = .ok value ↔
      check.run input = .ok value ∧ rule value = none := by
  unfold run refineOwn validate
  cases check.transform input with
  | error failure => simp [Bind.bind, Except.bind]
  | ok read =>
    simp only [Bind.bind, Except.bind]
    cases check.refine check.name read with
    | error failure => simp
    | ok refined => cases broken : rule refined <;> grind

theorem run_normalize (normal : α → α) (check : Check α) (input : Option Json) :
    (check.normalize normal).run input = (check.run input).map normal := by
  unfold run refineOwn normalize
  cases check.transform input <;> rfl

@[simp]
theorem name_named (name : String) (check : Check α) : (check.named name).name = name := rfl

@[simp]
theorem transform_named (name : String) (check : Check α) :
    (check.named name).transform = check.transform := rfl

@[simp]
theorem refine_named (name : String) (check : Check α) :
    (check.named name).refine = check.refine := rfl

end Check

end ChatCommand
