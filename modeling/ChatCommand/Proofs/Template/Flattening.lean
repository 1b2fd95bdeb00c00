import ChatCommand.Proofs.Template.Uses

/-!
# Flattened templates

Once it is settled for every block whether it is there, a template comes down to a sequence of
literals and arguments. With many blocks there are many such sequences. Whether one of them ends in
an argument, and whether none of them has two arguments side by side, can still be told in one pass
from left to right that carries a single truth value: whether an argument may stand directly before
the next segment.

## Main definitions

- `Item`, `Template.Flattens`: what a template comes down to.
- `Item.Separated`, `Template.ArgumentsSeparated`: literal text between any two arguments.
- `Template.endsInArgument`, `Template.KeepsApart`: the answers of one pass.

## Main results

- `exists_flattens`, `endsInArgument_of_flattens`: the truth value carried is exact.
- `keepsApart_iff`, `argumentsSeparated_iff`: the pass finds no two arguments side by side just when
  there is text between any two of them, whichever blocks are there.
-/

namespace ChatCommand.Template

/-- A part of a template without blocks. -/
inductive Item where
  | sigil
  | literal (text : List Char)
  | argument (ordinal : Nat)
  deriving DecidableEq, Repr

namespace Item

def isArgument : Item → Bool
  | argument _ => true
  | _ => false

/-- The literal text of an item. -/
def text : Item → List Char
  | literal text => text
  | _ => []

/-- Between any two successive arguments there is some literal text. -/
def Separated (items : List Item) : Prop :=
  ∀ front m middle n back, items = front ++ argument m :: (middle ++ argument n :: back) →
    (∀ item ∈ middle, item.isArgument = false) → middle.flatMap text ≠ []

/-- Whether a sequence ends in an argument; an empty one ends as what stands before it. -/
def endsInArgument (before : Bool) (items : List Item) : Bool :=
  items.foldl (fun _ item => item.isArgument) before

/-- No argument stands directly behind another one, nor opens the sequence when there is one
before it. -/
def Apart : Bool → List Item → Prop
  | _, [] => True
  | before, item :: items =>
    (item.isArgument = true → before = false) ∧ Apart item.isArgument items

variable {before : Bool} {items front back : List Item}

theorem endsInArgument_append :
    endsInArgument before (front ++ back) = endsInArgument (endsInArgument before front) back :=
  List.foldl_append

theorem apart_append :
    Apart before (front ++ back) ↔
      Apart before front ∧ Apart (endsInArgument before front) back := by
  induction front generalizing before with
  | nil => simp [Apart, endsInArgument]
  | cons item front ih =>
    simp only [List.cons_append, Apart, ih, and_assoc]
    rfl

/-- A sequence that ends in an argument has one for its last item. -/
theorem exists_getLast?_eq (ends : endsInArgument false items = true) :
    ∃ n, items.getLast? = some (argument n) := by
  rcases List.eq_nil_or_concat items with rfl | ⟨front, item, rfl⟩
  · contradiction
  · rw [List.concat_eq_append, endsInArgument_append] at ends
    cases item with
    | sigil | literal => contradiction
    | argument n => exact ⟨n, by simp⟩

/-- With less before it a sequence stays fine. -/
theorem Apart.mono {other : Bool} (le : before = true → other = true)
    (apart : Apart other items) : Apart before items := by
  cases items with
  | nil => trivial
  | cons item items =>
    refine ⟨fun isArgument => Bool.eq_false_iff.mpr fun standing => ?_, apart.2⟩
    exact Bool.eq_false_iff.mp (apart.1 isArgument) (le standing)

theorem Separated.of_cons {item : Item} (separated : Separated (item :: items)) :
    Separated items := by
  rintro front m middle n back rfl
  exact separated (item :: front) m middle n back rfl

/-- Arguments side by side have no text between them. -/
theorem Separated.apart (separated : Separated items) : Apart false items := by
  induction items with
  | nil => trivial
  | cons item items ih =>
    refine ⟨fun _ => rfl, ?_⟩
    have later := ih separated.of_cons
    cases item with
    | sigil | literal => exact later
    | argument m =>
      cases items with
      | nil => trivial
      | cons next items =>
        refine ⟨fun isArgument => ?_, later.2⟩
        cases next with
        | sigil | literal => contradiction
        | argument n => exact absurd rfl (separated [] m [] n items rfl nofun)

/-- When all that is no argument has a text, arguments not side by side have some text between
them. -/
theorem Apart.separated (apart : Apart false items)
    (filled : ∀ item ∈ items, item.isArgument = false → item.text ≠ []) : Separated items := by
  rintro front m middle n back rfl noArgument
  have between := (apart_append.mp apart).2.2
  have ends := (apart_append.mp between).2.1 rfl
  cases middle with
  | nil => contradiction
  | cons item middle =>
    have member : item ∈ front ++ argument m :: (item :: middle ++ argument n :: back) := by simp
    have text := filled item member (noArgument item List.mem_cons_self)
    simp [text]

end Item

/-! ### What a template comes down to -/

/-- The template comes down to the items when some of its blocks are there and the others are
not. -/
inductive Flattens : Template → List Item → Prop
  | nil : Flattens nil []
  | sigil {rest : Template} {items : List Item} (after : Flattens rest items) :
      Flattens (sigil rest) (.sigil :: items)
  | literal {text : List Char} {rest : Template} {items : List Item}
      (after : Flattens rest items) : Flattens (literal text rest) (.literal text :: items)
  | argument {n : Nat} {rest : Template} {items : List Item} (after : Flattens rest items) :
      Flattens (argument n rest) (.argument n :: items)
  /-- The block is there. -/
  | present {n : Nat} {content rest : Template} {inside items : List Item}
      (within : Flattens content inside) (after : Flattens rest items) :
      Flattens (keyOff n content rest) (inside ++ items)
  /-- The block is missing, and with it all blocks inside it. -/
  | absent {n : Nat} {content rest : Template} {items : List Item}
      (after : Flattens rest items) : Flattens (keyOff n content rest) items

/-- Whichever blocks are there, some literal text stands between any two successive arguments. -/
def ArgumentsSeparated (template : Template) : Prop :=
  ∀ items, template.Flattens items → Item.Separated items

/-! ### One pass -/

/-- Whether an argument may stand directly behind a template, when one may stand directly before
it or not. -/
def endsInArgument (before : Bool) : Template → Bool
  | nil => before
  | sigil rest | literal _ rest => rest.endsInArgument false
  | argument _ rest => rest.endsInArgument true
  | keyOff _ content rest => rest.endsInArgument (before || content.endsInArgument before)

/-- No argument is found where another one may stand directly before it. -/
def KeepsApart (before : Bool) : Template → Prop
  | nil => True
  | sigil rest | literal _ rest => rest.KeepsApart false
  | argument _ rest => before = false ∧ rest.KeepsApart true
  | keyOff _ content rest =>
    content.KeepsApart before ∧ rest.KeepsApart (before || content.endsInArgument before)

variable {before : Bool} {template other : Template} {items : List Item}

theorem endsInArgument_append :
    (template ++ other).endsInArgument before =
      other.endsInArgument (template.endsInArgument before) := by
  induction template generalizing before with
  | nil => rfl
  | sigil rest ih => exact ih
  | literal text rest ih => exact ih
  | argument n rest ih => exact ih
  | keyOff n content rest _ ih => exact ih

theorem keepsApart_append :
    (template ++ other).KeepsApart before ↔
      template.KeepsApart before ∧ other.KeepsApart (template.endsInArgument before) := by
  induction template generalizing before with
  | nil => exact (iff_of_eq (true_and _)).symm
  | sigil rest ih => exact ih
  | literal text rest ih => exact ih
  | argument n rest ih => exact (and_congr_right fun _ => ih).trans and_assoc.symm
  | keyOff n content rest _ ih => exact (and_congr_right fun _ => ih).trans and_assoc.symm

/-- What may end in an argument may do so with more before it. -/
theorem endsInArgument_mono {standing : Bool} (le : before = true → standing = true)
    (ends : template.endsInArgument before = true) : template.endsInArgument standing = true := by
  induction template generalizing before standing with
  | nil => exact le ends
  | sigil rest _ => exact ends
  | literal text rest _ => exact ends
  | argument n rest _ => exact ends
  | keyOff n content rest ihContent ihRest =>
    refine ihRest (fun carried => ?_) ends
    rw [Bool.or_eq_true] at carried ⊢
    exact carried.imp le (ihContent le)

/-! ### The pass is exact -/

/-- The truth value carried is that of some choice of blocks. -/
theorem exists_flattens (before : Bool) (template : Template) :
    ∃ items, template.Flattens items ∧
      Item.endsInArgument before items = template.endsInArgument before := by
  induction template generalizing before with
  | nil => exact ⟨[], .nil, rfl⟩
  | sigil rest ih =>
    obtain ⟨items, after, ends⟩ := ih false
    exact ⟨_, .sigil after, ends⟩
  | literal text rest ih =>
    obtain ⟨items, after, ends⟩ := ih false
    exact ⟨_, .literal after, ends⟩
  | argument n rest ih =>
    obtain ⟨items, after, ends⟩ := ih true
    exact ⟨_, .argument after, ends⟩
  | keyOff n content rest ihContent ihRest =>
    obtain ⟨items, after, ends⟩ := ihRest (before || content.endsInArgument before)
    -- With an argument before it the block may be missing, else its content decides.
    cases before with
    | true => exact ⟨items, .absent after, ends⟩
    | false =>
      obtain ⟨inside, within, endsInside⟩ := ihContent false
      refine ⟨inside ++ items, .present within after, ?_⟩
      rw [Item.endsInArgument_append, endsInside]
      exact ends

/-- No choice of blocks ends in an argument unless the truth value carried says so. -/
theorem endsInArgument_of_flattens (flattens : template.Flattens items)
    (ends : Item.endsInArgument before items = true) : template.endsInArgument before = true := by
  induction flattens generalizing before with
  | nil => exact ends
  | sigil _ ih => exact ih ends
  | literal _ ih => exact ih ends
  | argument _ ih => exact ih ends
  | @present _ content rest _ _ _ _ ihWithin ihAfter =>
    rw [Item.endsInArgument_append] at ends
    show rest.endsInArgument (before || content.endsInArgument before) = true
    refine endsInArgument_mono (fun standing => ?_) (ihAfter ends)
    rw [ihWithin standing, Bool.or_true]
  | @absent _ content rest _ _ ihAfter =>
    show rest.endsInArgument (before || content.endsInArgument before) = true
    refine endsInArgument_mono (fun standing => ?_) (ihAfter ends)
    rw [standing, Bool.true_or]

/-- The pass finds no two arguments side by side just when there are none, whichever blocks are
there. -/
theorem keepsApart_iff :
    template.KeepsApart before ↔ ∀ items, template.Flattens items → Item.Apart before items := by
  induction template generalizing before with
  | nil =>
    refine ⟨fun _ items flattens => ?_, fun _ => trivial⟩
    cases flattens
    trivial
  | sigil rest ih =>
    refine ih.trans ⟨fun apart items flattens => ?_, fun apart items after => ?_⟩
    · cases flattens with
      | sigil after => exact ⟨nofun, apart _ after⟩
    · exact (apart _ (.sigil after)).2
  | literal text rest ih =>
    refine ih.trans ⟨fun apart items flattens => ?_, fun apart items after => ?_⟩
    · cases flattens with
      | literal after => exact ⟨nofun, apart _ after⟩
    · exact (apart _ (.literal after)).2
  | argument n rest ih =>
    constructor
    · rintro ⟨first, others⟩ items flattens
      cases flattens with
      | argument after => exact ⟨fun _ => first, ih.mp others _ after⟩
    · intro apart
      refine ⟨?_, ih.mpr fun items after => (apart _ (.argument after)).2⟩
      -- Any choice for the rest will do.
      obtain ⟨items, after, -⟩ := exists_flattens true rest
      exact (apart _ (.argument after)).1 rfl
  | keyOff n content rest ihContent ihRest =>
    simp only [KeepsApart, ihContent, ihRest]
    constructor
    · rintro ⟨inner, later⟩ items flattens
      cases flattens with
      | present within after =>
        refine Item.apart_append.mpr ⟨inner _ within, (later _ after).mono fun ends => ?_⟩
        rw [endsInArgument_of_flattens within ends, Bool.or_true]
      | absent after =>
        refine (later _ after).mono fun standing => ?_
        rw [standing, Bool.true_or]
    · intro apart
      constructor
      · intro inside within
        obtain ⟨items, after, -⟩ := exists_flattens before rest
        exact (Item.apart_append.mp (apart _ (.present within after))).1
      · intro items after
        -- Behind an argument leave the block out; otherwise let its content end as the flag says.
        cases before with
        | true => exact apart _ (.absent after)
        | false =>
          obtain ⟨inside, within, ends⟩ := exists_flattens false content
          rw [Bool.false_or, ← ends]
          exact (Item.apart_append.mp (apart _ (.present within after))).2

/-- In a template without the prefix whose literals are not empty, every item has a text or is an
argument. -/
theorem text_ne_nil_of_flattens (plain : template.sigilCount = 0)
    (normal : template.NormalLiterals) (flattens : template.Flattens items) :
    ∀ item ∈ items, item.isArgument = false → item.text ≠ [] := by
  induction flattens with
  | nil => exact List.forall_mem_nil _
  | sigil => contradiction
  | literal _ ih =>
    obtain ⟨filled, -, normal⟩ := normal
    exact List.forall_mem_cons.mpr ⟨fun _ => filled, ih plain normal⟩
  | argument _ ih => exact List.forall_mem_cons.mpr ⟨nofun, ih plain normal⟩
  | present _ _ ihWithin ihAfter =>
    obtain ⟨plainInside, plainAfter⟩ := Nat.add_eq_zero_iff.mp plain
    exact List.forall_mem_append.mpr
      ⟨ihWithin plainInside normal.1, ihAfter plainAfter normal.2⟩
  | absent _ ihAfter => exact ihAfter (Nat.add_eq_zero_iff.mp plain).2 normal.2

/-- Behind the prefix, there is text between any two arguments just when the pass finds no two of
them side by side. -/
theorem argumentsSeparated_iff (plain : template.sigilCount = 0)
    (normal : template.NormalLiterals) :
    (sigil template).ArgumentsSeparated ↔ template.KeepsApart false := by
  rw [keepsApart_iff]
  constructor
  · intro separated items flattens
    exact (separated _ (.sigil flattens)).of_cons.apart
  · rintro apart _ (- | @⟨_, items, flattens⟩)
    rintro (- | ⟨item, front⟩) m middle n back same
    · exact absurd (List.cons.inj same).1 nofun
    · exact (apart items flattens).separated (text_ne_nil_of_flattens plain normal flattens)
        front m middle n back (List.cons.inj same).2

end ChatCommand.Template
