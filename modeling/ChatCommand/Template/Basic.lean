/-!
# Templates

A template is the shape of a command's messages: a sequence of segments. A literal stands for
itself, an argument for any non-empty text, and a key-off block for its content or nothing,
depending on whether its optional argument is supplied. Arguments are known by their ordinal in
the list of declared arguments, counted from one.

## Main definitions

- `Template`: sequences of segments.
- `Template.referenced`, `Template.keyedOff`: the arguments used and those that own a block.
- `Template.blockCount`: how many blocks an argument owns.
-/

namespace ChatCommand

/-- A sequence of segments, in the order of the message. -/
inductive Template where
  /-- No segment. -/
  | nil
  /-- The active prefix of commands, then the rest. -/
  | sigil (rest : Template)
  /-- A text that stands for itself, then the rest. -/
  | literal (text : List Char) (rest : Template)
  /-- The text of an argument, then the rest. -/
  | argument (ordinal : Nat) (rest : Template)
  /-- A block that is there only with its optional argument, then the rest. -/
  | keyOff (ordinal : Nat) (content rest : Template)
  deriving DecidableEq, Repr, Inhabited

namespace Template

/-- The number of segments at the top level. -/
def length : Template → Nat
  | nil => 0
  | sigil rest | literal _ rest | argument _ rest | keyOff _ _ rest => rest.length + 1

/-- One sequence after another. -/
def append : Template → Template → Template
  | nil, other => other
  | sigil rest, other => sigil (rest.append other)
  | literal text rest, other => literal text (rest.append other)
  | argument n rest, other => argument n (rest.append other)
  | keyOff n content rest, other => keyOff n content (rest.append other)

instance : Append Template := ⟨append⟩

/-- The segments of a sequence in reverse order, then another sequence. The contents of blocks
keep their order. -/
def reverseOnto : Template → Template → Template
  | nil, other => other
  | sigil rest, other => rest.reverseOnto (sigil other)
  | literal text rest, other => rest.reverseOnto (literal text other)
  | argument n rest, other => rest.reverseOnto (argument n other)
  | keyOff n content rest, other => rest.reverseOnto (keyOff n content other)

/-- The segments of a sequence in reverse order. -/
def reverse (template : Template) : Template := template.reverseOnto nil

/-- The ordinals of the arguments in the order of their occurrences, at every depth. -/
def referenced : Template → List Nat
  | nil => []
  | sigil rest | literal _ rest => rest.referenced
  | argument n rest => n :: rest.referenced
  | keyOff _ content rest => content.referenced ++ rest.referenced

/-- The owners of the blocks in the order in which the blocks open, at every depth. -/
def blockOwners : Template → List Nat
  | nil => []
  | sigil rest | literal _ rest | argument _ rest => rest.blockOwners
  | keyOff n content rest => n :: (content.blockOwners ++ rest.blockOwners)

/-- The ordinals of the arguments that own a block, each once, in the order in which their first
blocks open. -/
def keyedOff (template : Template) : List Nat :=
  template.blockOwners.foldl (fun found n => if n ∈ found then found else found ++ [n]) []

/-- The number of blocks that an argument owns. -/
def blockCount (template : Template) (n : Nat) : Nat := template.blockOwners.count n

/-- Each argument that owns a block, with the number of its blocks, in increasing order. -/
def blockCounts (template : Template) : List (Nat × Nat) :=
  (template.keyedOff.mergeSort (· ≤ ·)).map fun n => (n, template.blockCount n)

/-! ### Order of segments -/

@[simp]
theorem nil_append (other : Template) : nil ++ other = other := rfl

@[simp]
theorem append_nil (template : Template) : template ++ nil = template := by
  induction template with
  | nil => rfl
  | sigil rest ih => exact congrArg sigil ih
  | literal text rest ih => exact congrArg (literal text) ih
  | argument n rest ih => exact congrArg (argument n) ih
  | keyOff n content rest _ ih => exact congrArg (keyOff n content) ih

theorem append_assoc (a b c : Template) : a ++ b ++ c = a ++ (b ++ c) := by
  induction a with
  | nil => rfl
  | sigil rest ih => exact congrArg sigil ih
  | literal text rest ih => exact congrArg (literal text) ih
  | argument n rest ih => exact congrArg (argument n) ih
  | keyOff n content rest _ ih => exact congrArg (keyOff n content) ih

theorem reverseOnto_eq (template other : Template) :
    template.reverseOnto other = template.reverse ++ other := by
  induction template generalizing other with
  | nil => rfl
  | sigil rest ih =>
    simp only [reverse, reverseOnto]
    rw [ih, ih (sigil nil), append_assoc]
    rfl
  | literal text rest ih =>
    simp only [reverse, reverseOnto]
    rw [ih, ih (literal text nil), append_assoc]
    rfl
  | argument n rest ih =>
    simp only [reverse, reverseOnto]
    rw [ih, ih (argument n nil), append_assoc]
    rfl
  | keyOff n content rest _ ih =>
    simp only [reverse, reverseOnto]
    rw [ih, ih (keyOff n content nil), append_assoc]
    rfl

theorem reverseOnto_reverseOnto (template other last : Template) :
    (template.reverseOnto other).reverseOnto last = other.reverseOnto (template ++ last) := by
  induction template generalizing other with
  | nil => rfl
  | sigil rest ih => exact ih (sigil other)
  | literal text rest ih => exact ih (literal text other)
  | argument n rest ih => exact ih (argument n other)
  | keyOff n content rest _ ih => exact ih (keyOff n content other)

@[simp]
theorem reverse_reverse (template : Template) : template.reverse.reverse = template :=
  (reverseOnto_reverseOnto template nil nil).trans (append_nil template)

end Template

end ChatCommand
