import ChatCommand.Proofs.Pattern.Foremost
import ChatCommand.Proofs.Pattern.WrittenForm
import ChatCommand.Proofs.Template.Scoping
import Mathlib

/-!
# Names of groups

The name of a group tells its kind and its numbers, as decimal digits do not go on beyond the
character between two numbers. The blocks of an argument are numbered from one in the order in which
they open, an outer one before those inside it, and each number is given once. An argument is used
once only in a template that was read, so no two groups of its pattern have one name.

## Main definitions

- `Expression.names`: the names of groups in the order in which these open.
- `Compiled.GroupsNamed`: which groups there are, how they are named, and in which order.

## Main results

- `Group.name_injective`: different groups have different names.
- `Template.filterMap_block?_groups`: the blocks in the order in which they open.
- `Template.nodup_groups_numbered`: no group occurs twice.
- `groupsNamed_of_parse`: the groups of a template that was read.
-/

namespace ChatCommand

/-! ### Names -/

namespace Group

/-- The owner of a block and its number, for a group that is a block. -/
def block? : Group → Option (Nat × Nat)
  | argument _ => none
  | keyOff n k => some (n, k)

/-- Digits before a character that is none are taken off as a whole. -/
theorem toDigits_append_inj {m n : Nat} {rest behind : List Char}
    (same : Nat.toDigits 10 m ++ '_' :: rest = Nat.toDigits 10 n ++ '_' :: behind) :
    m = n ∧ rest = behind := by
  have outside (text : List Char) : Text.OpensOutside Char.isDigit ('_' :: text) := by
    show Char.isDigit '_' = false
    decide
  obtain ⟨digits, others⟩ := Text.run_append_inj (Text.within_toDigits m) (Text.within_toDigits n)
    (outside rest) (outside behind) same
  exact ⟨Text.toDigits_inj digits, (List.cons.inj others).2⟩

theorem name_injective : Function.Injective name := by
  intro one other same
  cases one with
  | argument m =>
    cases other with
    | argument n =>
      have digits : m.repr = n.repr := (String.append_right_inj _).mp same
      exact congrArg argument (Nat.repr_injective digits)
    | keyOff n k =>
      -- The two kinds of names differ in their first characters.
      replace same := congrArg (·.toList.head?) same
      simp [name] at same
  | keyOff m j =>
    cases other with
    | argument n =>
      replace same := congrArg (·.toList.head?) same
      simp [name] at same
    | keyOff n k =>
      have numbers : toString m ++ ("_" ++ toString j) = toString n ++ ("_" ++ toString k) := by
        simp only [name, String.append_assoc] at same
        exact (String.append_right_inj _).mp same
      have digits : Nat.toDigits 10 m ++ '_' :: Nat.toDigits 10 j =
          Nat.toDigits 10 n ++ '_' :: Nat.toDigits 10 k := by
        simpa using congrArg String.toList numbers
      obtain ⟨rfl, count⟩ := toDigits_append_inj digits
      exact congrArg (keyOff m) (Text.toDigits_inj count)

end Group

/-! ### The order in which groups open -/

namespace Expression

/-- The names of the groups in the order in which these open. -/
def names : Expression → List String
  | done => []
  | start rest | stop rest | char _ rest | something rest => rest.names
  | group name _ content rest => name :: (content.names ++ rest.names)

theorem names_foldr_char (chars : List Char) (rest : Expression) :
    (chars.foldr char rest).names = rest.names := by
  induction chars with
  | nil => rfl
  | cons c chars ih => exact ih

/-- A pattern is written with the names of its groups. -/
theorem names_expression (pattern : Pattern) (next : Expression) :
    (pattern.expression next).names = pattern.groups.map Group.name ++ next.names := by
  induction pattern generalizing next with
  | done => rfl
  | text chars rest ih =>
    simp only [Pattern.expression, Pattern.groups, names_foldr_char, ih]
  | capture n rest ih => simp [Pattern.expression, Pattern.groups, names, ih]
  | block n k content rest ihContent ihRest =>
    simp [Pattern.expression, Pattern.groups, names, ihContent, ihRest]

end Expression

namespace Template

variable {sigilText : List Char} {template : Template} {earlier : List Nat}

/-- Each entry with its number among the equal ones, those of an earlier list counted as well. -/
def ranked (earlier : List Nat) : List Nat → List (Nat × Nat)
  | [] => []
  | n :: rest => (n, earlier.count n + 1) :: ranked (earlier ++ [n]) rest

theorem ranked_append (earlier front back : List Nat) :
    ranked earlier (front ++ back) = ranked earlier front ++ ranked (earlier ++ front) back := by
  induction front generalizing earlier with
  | nil => simp [ranked]
  | cons n front ih => simp [ranked, ih]

theorem ranked_eq_mapIdx (earlier entries : List Nat) :
    ranked earlier entries = entries.mapIdx fun index n =>
      (n, (earlier ++ entries.take (index + 1)).count n) := by
  induction entries generalizing earlier with
  | nil => rfl
  | cons n entries ih => simp [ranked, List.mapIdx_cons, ih]

/-- The blocks open in the order of their owners, each with its number among those of its owner. -/
theorem filterMap_block?_groups (template : Template) (earlier : List Nat) :
    (template.numbered sigilText earlier).groups.filterMap Group.block? =
      ranked earlier template.blockOwners := by
  induction template generalizing earlier with
  | nil => rfl
  | sigil rest ih => exact ih earlier
  | literal text rest ih => exact ih earlier
  | argument n rest ih => exact ih earlier
  | keyOff n content rest ihContent ihRest =>
    have behind := ranked_append (earlier ++ [n]) content.blockOwners rest.blockOwners
    simp [numbered, Pattern.groups, blockOwners, ranked, Group.block?, ihContent, ihRest, behind]

/-- With no argument used twice, no group of the pattern occurs twice. -/
theorem nodup_groups_numbered (once : template.referenced.Nodup) :
    (template.numbered sigilText earlier).groups.Nodup := by
  induction template generalizing earlier with
  | nil => exact .nil
  | sigil rest ih => exact ih once
  | literal text rest ih => exact ih once
  | argument n rest ih =>
    obtain ⟨fresh, once⟩ := List.nodup_cons.mp once
    exact List.nodup_cons.mpr ⟨argument_mem_groups_iff.not.mpr fresh, ih once⟩
  | keyOff n content rest ihContent ihRest =>
    obtain ⟨onceInside, onceBehind, apart⟩ := List.nodup_append.mp once
    refine List.nodup_cons.mpr ⟨fun member => ?_, List.nodup_append.mpr
      ⟨ihContent onceInside, ihRest onceBehind, fun group inside other behind same => ?_⟩⟩
    · -- All blocks of the argument behind this opening have greater numbers.
      rcases List.mem_append.mp member with inside | behind
      · have := (keyOff_mem_groups_iff.mp inside).1
        simp at this
      · have := (keyOff_mem_groups_iff.mp behind).1
        simp at this
    · subst same
      cases group with
      | argument m =>
        exact apart m (argument_mem_groups_iff.mp inside) m (argument_mem_groups_iff.mp behind) rfl
      | keyOff m k =>
        -- The numbers of an argument's blocks behind this one go on from those inside it.
        have below := (keyOff_mem_groups_iff.mp inside).2
        have above := (keyOff_mem_groups_iff.mp behind).1
        rw [← List.singleton_append, ← List.append_assoc, List.count_append] at above
        omega

theorem opens_nil_iff {n k : Nat} : template.Opens [] n k ↔ 1 ≤ k ∧ k ≤ template.blockCount n := by
  unfold Opens blockCount
  rw [List.count_nil, Nat.zero_add]
  exact Iff.rfl

/-- The walk that numbers the blocks passes all of them. -/
theorem count_snd_number (template : Template) (n : Nat) :
    (template.number sigilText []).2.count n = template.blockCount n := by
  have walked : (template.number sigilText []).2 = template.blockOwners.reverse :=
    congrArg Prod.snd (number_eq template [])
  rw [walked, List.count_reverse]
  rfl

/-- Each argument that owns a block is listed with the number of its blocks. -/
theorem mem_blockCounts_iff {n k : Nat} :
    (n, k) ∈ template.blockCounts ↔ 1 ≤ k ∧ k = template.blockCount n := by
  unfold blockCounts
  rw [List.mem_map]
  constructor
  · rintro ⟨m, listed, same⟩
    obtain ⟨rfl, rfl⟩ := Prod.mk.inj same
    rw [List.mem_mergeSort, mem_keyedOff_iff] at listed
    exact ⟨List.count_pos_iff.mpr listed, rfl⟩
  · rintro ⟨positive, rfl⟩
    refine ⟨n, ?_, rfl⟩
    rw [List.mem_mergeSort, mem_keyedOff_iff]
    exact List.count_pos_iff.mp positive

end Template

/-! ### Templates that were read -/

/-- How the groups of a compiled command are named: one group for each argument that is used, and
one for each block, with the number that it has among the blocks of its argument. -/
structure Compiled.GroupsNamed (compiled : Compiled) : Prop where
  distinct : (compiled.pattern.groups.map Group.name).Nodup
  mem_iff : ∀ name, name ∈ compiled.pattern.groups.map Group.name ↔
    (∃ n ∈ compiled.template.referenced, name = "arg_" ++ toString n) ∨
      ∃ n k, 1 ≤ k ∧ k ≤ compiled.template.blockCount n ∧
        name = "keyoff_" ++ toString n ++ "_" ++ toString k
  /-- The blocks are numbered in the order in which they open, an outer one before those inside. -/
  blocks_eq : compiled.pattern.groups.filterMap Group.block? =
    compiled.template.blockOwners.mapIdx fun index n =>
      (n, (compiled.template.blockOwners.take (index + 1)).count n)
  /-- The walk that numbers the blocks counts all blocks of each argument, and so they are
  listed. -/
  counted : ∀ n, (compiled.template.number compiled.sigil.toList []).2.count n =
    compiled.template.blockCount n
  listed : ∀ n k, (n, k) ∈ compiled.template.blockCounts ↔
    1 ≤ k ∧ k = compiled.template.blockCount n
  /-- The written form has the same groups in the same order. -/
  written : ∃ expression, Expression.read? compiled.source.toList = some expression ∧
    expression.names = compiled.pattern.groups.map Group.name

/-- The groups of a template that was read are all named differently, one for each argument used and
one for each block, in the order in which they open. -/
theorem groupsNamed_of_parse {arguments : List Argument} {source : String} {template : Template}
    (read : Template.parse arguments source = .ok template)
    (sigil : String) : Compiled.GroupsNamed ⟨sigil, template⟩ := by
  have once := (Template.wellFormed_of_parse read).once
  have numbered : (Compiled.pattern ⟨sigil, template⟩).groups =
      (template.numbered sigil.toList []).groups :=
    congrArg Pattern.groups (Template.toPattern_eq sigil template)
  -- What is said of the groups is read off the template, with its blocks numbered.
  refine ⟨?_, fun name => ?_, ?_, Template.count_snd_number template,
    fun _ _ => Template.mem_blockCounts_iff, _, Expression.read?_render _, ?_⟩
  · -- Different groups with one name are ruled out by the name, equal groups by the template.
    rw [numbered]
    exact (Template.nodup_groups_numbered once).map Group.name_injective
  · rw [numbered, List.mem_map]
    constructor
    · rintro ⟨group, member, rfl⟩
      cases group with
      | argument n => exact .inl ⟨n, Template.argument_mem_groups_iff.mp member, rfl⟩
      | keyOff n k =>
        have opens := Template.keyOff_mem_groups_iff.mp member
        obtain ⟨positive, bound⟩ := Template.opens_nil_iff.mp opens
        exact .inr ⟨n, k, positive, bound, rfl⟩
    · rintro (⟨n, used, rfl⟩ | ⟨n, k, positive, bound, rfl⟩)
      · exact ⟨.argument n, Template.argument_mem_groups_iff.mpr used, rfl⟩
      · have opens := Template.opens_nil_iff.mpr ⟨positive, bound⟩
        exact ⟨.keyOff n k, Template.keyOff_mem_groups_iff.mpr opens, rfl⟩
  · rw [numbered, Template.filterMap_block?_groups, Template.ranked_eq_mapIdx]
    rfl
  · show ((Compiled.pattern ⟨sigil, template⟩).expression (.stop .done)).names = _
    rw [Expression.names_expression]
    simp [Expression.names]

/-- Three blocks of one argument, the second inside the first. -/
theorem groupsNamed_of_parse_nested :
    ∃ template, Template.parse [.required "user" "User", .ofOptional "mode" "Mode"]
        "<prefix>warn $1{opt $2}[ in mode{opt $2}[ $2]]{opt $2}[, quietly]" = .ok template ∧
      Compiled.GroupsNamed ⟨"!", template⟩ ∧
      (Compiled.pattern ⟨"!", template⟩).groups.map Group.name =
        ["arg_1", "keyoff_2_1", "keyoff_2_2", "arg_2", "keyoff_2_3"] := by
  let template : Template := .sigil <| .literal "warn ".toList <| .argument 1 <|
    .keyOff 2 (.literal " in mode".toList <|
      .keyOff 2 (.literal " ".toList <| .argument 2 .nil) .nil) <|
    .keyOff 2 (.literal ", quietly".toList .nil) .nil
  have read : Template.parse [.required "user" "User", .ofOptional "mode" "Mode"]
      "<prefix>warn $1{opt $2}[ in mode{opt $2}[ $2]]{opt $2}[, quietly]" = .ok template := by cbv
  exact ⟨template, read, groupsNamed_of_parse read "!", by cbv⟩

end ChatCommand
