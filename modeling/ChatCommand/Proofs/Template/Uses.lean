import ChatCommand.Argument
import ChatCommand.Template.Basic

/-!
# Uses of arguments in a template

What a template says about its arguments does not depend on the order of its segments: where an
argument is used, which blocks are around it, which arguments own blocks. Neighbouring literals
stay neighbours when a sequence is reversed. So a sequence that is collected latest segment first
can be judged before it is turned around.

## Main definitions

- `Template.uses`: the occurrences of arguments, each with the owners of the blocks around it.
- `Template.sigilCount`: how often the prefix occurs.
- `Template.NormalLiterals`: literals are non-empty and not side by side.
- `Template.WellFormed`: the rules that hold of every template that was read.
-/

namespace ChatCommand.Template

/-- An occurrence of an argument. -/
structure Use where
  ordinal : Nat
  /-- The owners of the blocks around it, the innermost first. -/
  scope : List Nat
  deriving DecidableEq, Repr

/-- The occurrences of arguments in a sequence that stands inside the blocks of `scope`. -/
def uses (scope : List Nat) : Template → List Use
  | nil => []
  | sigil rest | literal _ rest => rest.uses scope
  | argument n rest => ⟨n, scope⟩ :: rest.uses scope
  | keyOff n content rest => content.uses (n :: scope) ++ rest.uses scope

/-- How often the prefix occurs, at every depth. -/
def sigilCount : Template → Nat
  | nil => 0
  | sigil rest => rest.sigilCount + 1
  | literal _ rest | argument _ rest => rest.sigilCount
  | keyOff _ content rest => content.sigilCount + rest.sigilCount

/-- Whether a sequence opens with a literal. -/
def startsWithLiteral : Template → Bool
  | literal _ _ => true
  | _ => false

/-- At every depth, no literal is empty and no two literals are neighbours. -/
def NormalLiterals : Template → Prop
  | nil => True
  | sigil rest | argument _ rest => rest.NormalLiterals
  | literal text rest => text ≠ [] ∧ rest.startsWithLiteral = false ∧ rest.NormalLiterals
  | keyOff _ content rest => content.NormalLiterals ∧ rest.NormalLiterals

/-- The rules for templates over declared arguments. -/
structure WellFormed (arguments : List Argument) (template : Template) : Prop where
  /-- The prefix comes first and nowhere else. -/
  opens : ∃ body, template = sigil body ∧ body.sigilCount = 0
  /-- Every ordinal belongs to a declared argument. -/
  declared : ∀ n, n ∈ template.referenced ∨ n ∈ template.blockOwners →
    1 ≤ n ∧ n ≤ arguments.length
  /-- No argument is used twice. -/
  once : template.referenced.Nodup
  /-- Only optional arguments own blocks. -/
  owners : ∀ n ∈ template.blockOwners, ∃ argument,
    Argument.withOrdinal? arguments n = some argument ∧ argument.optional = true
  /-- An optional argument is used only beneath a block of its own. -/
  inside : ∀ occurrence ∈ template.uses [], ∀ argument,
    Argument.withOrdinal? arguments occurrence.ordinal = some argument →
      argument.optional = true → occurrence.ordinal ∈ occurrence.scope
  /-- A required argument is used only beneath no block. -/
  outside : ∀ occurrence ∈ template.uses [], ∀ argument,
    Argument.withOrdinal? arguments occurrence.ordinal = some argument →
      argument.optional = false → occurrence.scope = []
  literals : template.NormalLiterals

theorem WellFormed.exists_of_used {arguments : List Argument} {template : Template} {n : Nat}
    (wellFormed : template.WellFormed arguments) (used : n ∈ template.referenced) :
    ∃ argument, Argument.withOrdinal? arguments n = some argument := by
  obtain ⟨positive, bound⟩ := wellFormed.declared n (.inl used)
  unfold Argument.withOrdinal?
  rw [if_neg (by omega), List.getElem?_eq_getElem (by omega)]
  exact ⟨_, rfl⟩

/-- The occurrences are those of the arguments referenced, whatever blocks are around. -/
@[simp]
theorem map_ordinal_uses (template : Template) (scope : List Nat) :
    (template.uses scope).map Use.ordinal = template.referenced := by
  induction template generalizing scope with
  | nil => rfl
  | sigil rest ih => simpa [uses, referenced] using ih scope
  | literal text rest ih => simpa [uses, referenced] using ih scope
  | argument n rest ih => simp [uses, referenced, ih]
  | keyOff n content rest ihContent ihRest => simp [uses, referenced, ihContent, ihRest]

/-- An argument is referenced when it occurs, whatever blocks are around. -/
theorem mem_referenced_iff {template : Template} {scope : List Nat} {n : Nat} :
    n ∈ template.referenced ↔ ∃ around, ⟨n, around⟩ ∈ template.uses scope := by
  rw [← map_ordinal_uses template scope, List.mem_map]
  constructor
  · rintro ⟨⟨n, around⟩, member, rfl⟩
    exact ⟨around, member⟩
  · rintro ⟨around, member⟩
    exact ⟨_, member, rfl⟩

/-- The blocks around an occurrence are those of the template inside the ones around this. -/
theorem exists_scope_of_mem_uses {template : Template} {scope : List Nat} {occurrence : Use}
    (member : occurrence ∈ template.uses scope) :
    ∃ inner, occurrence.scope = inner ++ scope ∧ ∀ n ∈ inner, n ∈ template.blockOwners := by
  induction template generalizing scope with
  | nil => contradiction
  | sigil rest ih => exact ih member
  | literal text rest ih => exact ih member
  | argument n rest ih =>
    rcases List.mem_cons.mp member with rfl | member
    · exact ⟨[], rfl, nofun⟩
    · exact ih member
  | keyOff n content rest ihContent ihRest =>
    rcases List.mem_append.mp member with member | member
    · obtain ⟨inner, around, owners⟩ := ihContent member
      refine ⟨inner ++ [n], by rw [around, List.append_assoc]; rfl, fun m inside => ?_⟩
      rcases List.mem_append.mp inside with inside | own
      · exact List.mem_cons_of_mem n (List.mem_append_left _ (owners m inside))
      · exact List.mem_cons.mpr (.inl (List.mem_singleton.mp own))
    · obtain ⟨inner, around, owners⟩ := ihRest member
      exact ⟨inner, around, fun m inside =>
        List.mem_cons_of_mem n (List.mem_append_right _ (owners m inside))⟩

/-- An occurrence around which there are no further blocks does not stand inside one. -/
theorem mem_uses_of_keyOff {content rest : Template} {scope : List Nat} {m n : Nat}
    (member : ⟨n, scope⟩ ∈ (keyOff m content rest).uses scope) : ⟨n, scope⟩ ∈ rest.uses scope := by
  refine (List.mem_append.mp member).resolve_left fun inside => ?_
  obtain ⟨inner, around, -⟩ := exists_scope_of_mem_uses inside
  have lengths := congrArg List.length around
  simp only [List.length_append, List.length_cons] at lengths
  omega

/-- An optional argument that is used owns a block. -/
theorem WellFormed.mem_blockOwners_of_used {arguments : List Argument} {template : Template}
    {argument : Argument} {n : Nat} (wellFormed : template.WellFormed arguments)
    (declared : Argument.withOrdinal? arguments n = some argument)
    (optional : argument.optional = true) (used : n ∈ template.referenced) :
    n ∈ template.blockOwners := by
  obtain ⟨scope, member⟩ := mem_referenced_iff.mp used
  obtain ⟨inner, around, owners⟩ := exists_scope_of_mem_uses member
  rw [List.append_nil] at around
  exact owners n (around ▸ wellFormed.inside _ member argument declared optional)

/-- A required argument that is used stands outside all blocks. -/
theorem WellFormed.mem_uses_of_used {arguments : List Argument} {template : Template}
    {argument : Argument} {n : Nat} (wellFormed : template.WellFormed arguments)
    (declared : Argument.withOrdinal? arguments n = some argument)
    (required : argument.optional = false) (used : n ∈ template.referenced) :
    ⟨n, []⟩ ∈ template.uses [] := by
  obtain ⟨scope, member⟩ := mem_referenced_iff.mp used
  obtain rfl : scope = [] := wellFormed.outside _ member argument declared required
  exact member

/-- The arguments that own a block are the owners of the blocks. -/
theorem mem_keyedOff_iff {template : Template} {n : Nat} :
    n ∈ template.keyedOff ↔ n ∈ template.blockOwners := by
  have general (owners found : List Nat) :
      n ∈ owners.foldl (fun found m => if m ∈ found then found else found ++ [m]) found ↔
        n ∈ found ∨ n ∈ owners := by
    induction owners generalizing found with
    | nil => simp
    | cons m owners ih =>
      rw [List.foldl_cons, ih, List.mem_cons]
      split
      next known =>
        constructor
        · exact Or.imp_right .inr
        · rintro (earlier | rfl | later)
          · exact .inl earlier
          · exact .inl known
          · exact .inr later
      next => rw [List.mem_append, List.mem_singleton, or_assoc]
  exact (general template.blockOwners []).trans (by simp)

/-! ### Reversed sequences -/

theorem sigilCount_reverseOnto (template other : Template) :
    (template.reverseOnto other).sigilCount = template.sigilCount + other.sigilCount := by
  induction template generalizing other with
  | nil => simp [reverseOnto, sigilCount]
  | sigil rest ih => simp only [reverseOnto, sigilCount, ih]; omega
  | literal text rest ih => simp only [reverseOnto, sigilCount, ih]
  | argument n rest ih => simp only [reverseOnto, sigilCount, ih]
  | keyOff n content rest _ ih => simp only [reverseOnto, sigilCount, ih]; omega

theorem uses_reverseOnto (template other : Template) (scope : List Nat) :
    ((template.reverseOnto other).uses scope).Perm
      (template.uses scope ++ other.uses scope) := by
  induction template generalizing other with
  | nil => exact .refl _
  | sigil rest ih => exact ih (sigil other)
  | literal text rest ih => exact ih (literal text other)
  | argument n rest ih => exact (ih (argument n other)).trans List.perm_middle
  | keyOff n content rest _ ih =>
    refine (ih (keyOff n content other)).trans ?_
    simp only [uses]
    rw [← List.append_assoc]
    exact List.perm_append_comm.append_right _

theorem blockOwners_reverseOnto (template other : Template) :
    (template.reverseOnto other).blockOwners.Perm
      (template.blockOwners ++ other.blockOwners) := by
  induction template generalizing other with
  | nil => exact .refl _
  | sigil rest ih => exact ih (sigil other)
  | literal text rest ih => exact ih (literal text other)
  | argument n rest ih => exact ih (argument n other)
  | keyOff n content rest _ ih =>
    refine (ih (keyOff n content other)).trans ?_
    simp only [blockOwners, List.cons_append, List.append_assoc]
    refine List.perm_middle.trans (.cons n ?_)
    rw [← List.append_assoc, ← List.append_assoc]
    exact List.perm_append_comm.append_right _

theorem normalLiterals_reverseOnto {template other : Template}
    (normal : template.NormalLiterals) (otherNormal : other.NormalLiterals)
    (apart : template.startsWithLiteral = true → other.startsWithLiteral = false) :
    (template.reverseOnto other).NormalLiterals := by
  induction template generalizing other with
  | nil => exact otherNormal
  | sigil rest ih => exact ih normal otherNormal (fun _ => rfl)
  | literal text rest ih =>
    obtain ⟨filled, separate, restNormal⟩ := normal
    refine ih restNormal ⟨filled, apart rfl, otherNormal⟩ ?_
    rw [separate]
    exact nofun
  | argument n rest ih => exact ih normal otherNormal (fun _ => rfl)
  | keyOff n content rest _ ih => exact ih normal.2 ⟨normal.1, otherNormal⟩ (fun _ => rfl)

@[simp]
theorem sigilCount_reverse (template : Template) :
    template.reverse.sigilCount = template.sigilCount :=
  sigilCount_reverseOnto template nil

theorem uses_reverse (template : Template) (scope : List Nat) :
    (template.reverse.uses scope).Perm (template.uses scope) := by
  simpa [reverse, uses] using uses_reverseOnto template nil scope

theorem referenced_reverse (template : Template) :
    template.reverse.referenced.Perm template.referenced := by
  simpa using (uses_reverse template []).map Use.ordinal

theorem blockOwners_reverse (template : Template) :
    template.reverse.blockOwners.Perm template.blockOwners := by
  simpa [reverse, blockOwners] using blockOwners_reverseOnto template nil

theorem NormalLiterals.reverse {template : Template} (normal : template.NormalLiterals) :
    template.reverse.NormalLiterals :=
  normalLiterals_reverseOnto normal trivial (fun _ => rfl)

end ChatCommand.Template
