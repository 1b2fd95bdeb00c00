import ChatCommand.Pattern.Limits
import ChatCommand.Proofs.Compiled.Binding
import ChatCommand.Proofs.Pattern.Delimited
import ChatCommand.Proofs.Template.Adjacency

/-!
# Texts that were put in are extracted again

A command whose arguments are all required and all used has a template without blocks. When texts
are put in for the arguments, the message splits into these texts, and no other split comes first as
long as no literal turns up before its place. So the texts are extracted as they were put in.

## Main results

- `Template.WellFormed.blockOwners_eq_nil`: required arguments own no blocks.
- `Compiled.extract_of_captured`: what is extracted when every required argument is captured.
- `extract_of_delimited`: what is extracted when delimited texts are put in.
-/

namespace ChatCommand

open Json.Fields (get? keys)
open Pattern (textOf?)
open Template (Mark)

variable {sigil source message : String} {arguments : List Argument} {compiled : Compiled}
  {texts : Nat → List Char}

theorem Template.WellFormed.blockOwners_eq_nil {template : Template}
    (wellFormed : template.WellFormed arguments)
    (required : ∀ argument ∈ arguments, argument.optional = false) :
    template.blockOwners = [] := by
  rw [List.eq_nil_iff_forall_not_mem]
  intro n owner
  obtain ⟨argument, declared, optional⟩ := wellFormed.owners n owner
  have member : argument ∈ arguments := Argument.mem_iff_exists_withOrdinal?.mpr ⟨n, declared⟩
  rw [required argument member] at optional
  contradiction

/-- When all arguments are required and a text is captured for each, these texts are extracted. -/
theorem Compiled.extract_of_captured {captures : List Pattern.Capture}
    (required : ∀ argument ∈ arguments, argument.optional = false)
    (distinct : (arguments.map Argument.id).Nodup)
    (matched : compiled.pattern.captures? message.toList = some captures)
    (captured : ∀ n argument, Argument.withOrdinal? arguments n = some argument →
      textOf? captures (.argument n) = some (texts n)) :
    ∃ values, compiled.extract arguments message = .complete values ∧
      (keys values).Perm (arguments.map Argument.id) ∧
      ∀ n argument, Argument.withOrdinal? arguments n = some argument →
        get? argument.id values = some (some (String.ofList (texts n))) := by
  have found (n : Nat) (argument : Argument)
      (declared : Argument.withOrdinal? arguments n = some argument) :
      compiled.find captures n argument = ⟨[], some (String.ofList (texts n))⟩ := by
    have member := Argument.mem_iff_exists_withOrdinal?.mpr ⟨n, declared⟩
    rw [Compiled.find_of_required (required argument member), captured n argument declared]
    rfl
  have complete : compiled.Complete captures arguments := by
    intro n argument declared
    rw [found n argument declared]
    exact ⟨rfl, fun _ => rfl⟩
  refine ⟨_, Compiled.extract_eq_complete_iff.mpr ⟨captures, matched, complete, rfl⟩, ?_, ?_⟩
  · exact Compiled.keys_sort_findings_perm distinct
  · intro n argument declared
    rw [Compiled.get?_yielded distinct rfl declared, found n argument declared]

/-- The texts put in for required arguments are extracted again, with no other value, when the
literal behind each of them but the last is not found before its place. -/
theorem extract_of_delimited [Pattern.Builder]
    (required : ∀ argument ∈ arguments, argument.optional = false)
    (distinct : (arguments.map Argument.id).Nodup)
    (compiles : compile sigil arguments source = .ok compiled)
    (used : ∀ n, 1 ≤ n → n ≤ arguments.length → n ∈ compiled.template.referenced)
    (filled : ∀ n, 1 ≤ n → n ≤ arguments.length → texts n ≠ [])
    (delimited : compiled.template.Delimited texts) :
    ∃ written values,
      compiled.template.fill sigil.toList (fun n => some (texts n)) (fun _ _ => false) [] =
          some written ∧
        compiled.extract arguments (String.ofList (written.map Mark.char)) = .complete values ∧
        (keys values).Perm (arguments.map Argument.id) ∧
        ∀ n argument, Argument.withOrdinal? arguments n = some argument →
          get? argument.id values = some (some (String.ofList (texts n))) := by
  obtain ⟨rfl, read, -⟩ := compile_eq_ok_iff.mp compiles
  have wellFormed := Template.wellFormed_of_parse read
  -- Only optional arguments own blocks, so there are none.
  have solid := wellFormed.blockOwners_eq_nil required
  obtain ⟨body, shape, apart⟩ := Template.keepsApart_of_parse read
  obtain ⟨sigil, template⟩ := compiled
  obtain rfl : template = .sigil body := shape
  obtain ⟨_, same, plain⟩ := wellFormed.opens
  obtain rfl := Template.sigil.inj same
  have nonempty : ∀ n ∈ body.referenced, texts n ≠ [] := by
    intro n member
    obtain ⟨positive, bound⟩ := wellFormed.declared n (.inl member)
    exact filled n positive bound
  obtain ⟨written, captures, wrote, fits, captured⟩ := Template.captures?_of_delimited nonempty
    (Template.delimited_sigil_iff.mp delimited) plain solid apart fun _ _ => false
  have matched : (Compiled.pattern ⟨sigil, .sigil body⟩).captures?
      (String.ofList (written.map Mark.char)).toList = some captures := by
    rw [String.toList_ofList]
    exact fits
  have given (n : Nat) (argument : Argument)
      (declared : Argument.withOrdinal? arguments n = some argument) :
      textOf? captures (.argument n) = some (texts n) := by
    obtain ⟨positive, bound⟩ := Template.bounds_of_withOrdinal? declared
    exact captured n (used n positive bound)
  obtain ⟨values, extracted⟩ := Compiled.extract_of_captured required distinct matched given
  exact ⟨written, values, wrote, extracted⟩

/-! ### A payment -/

/-- A name over two lines that ends as the literal behind it begins, and a note that has this
literal inside. -/
def payTexts (n : Nat) : List Char := if n = 1 then "Ann\n -".toList else "a -> b".toList

open scoped Pattern.Limits in
/-- Both texts come back, although the literal is found inside the second one. -/
theorem extract_of_delimited_pay : ∃ compiled values,
    compile "!" [.required "who" "User", .required "note" "Note"] "<prefix>pay $1 -> $2" =
      .ok compiled ∧
    compiled.extract [.required "who" "User", .required "note" "Note"]
      "!pay Ann\n - -> a -> b" = .complete values ∧
    get? "who" values = some (some "Ann\n -") ∧ get? "note" values = some (some "a -> b") := by
  have compiles : compile "!" [.required "who" "User", .required "note" "Note"]
      "<prefix>pay $1 -> $2" = .ok ⟨"!", .sigil (.literal "pay ".toList (.argument 1
        (.literal " -> ".toList (.argument 2 .nil))))⟩ :=
    compile_eq_ok_iff.mpr ⟨rfl, by cbv, by decide⟩
  have early : ∀ place < (payTexts 1).length, 0 < place → ¬ " -> ".toList.map Text.fold <+:
      ((payTexts 1 ++ " -> ".toList).map Text.fold).drop place := by decide
  have delimited : Template.Delimited payTexts (.sigil (.literal "pay ".toList (.argument 1
      (.literal " -> ".toList (.argument 2 .nil))))) := by
    rw [Template.delimited_sigil_iff, Template.delimited_literal_iff,
      Template.delimited_argument_iff, Template.delimited_literal_iff,
      Template.delimited_argument_iff]
    refine ⟨?_, ?_, Template.delimited_nil⟩
    · intro text after shape _ place positive inside
      obtain ⟨rfl, -⟩ := Template.literal.inj shape
      exact early place inside positive
    · intro text after shape
      contradiction
  have used (n : Nat) (low : 1 ≤ n) (high : n ≤ 2) : n ∈ [1, 2] := by
    simp
    omega
  have filled (n : Nat) : payTexts n ≠ [] := by
    unfold payTexts
    split <;> decide
  obtain ⟨written, values, wrote, extracted, -, texts⟩ := extract_of_delimited
    (by simp [Argument.required]) (by decide) compiles used (fun n _ _ => filled n) delimited
  have message : String.ofList (written.map Mark.char) = "!pay Ann\n - -> a -> b" := by
    obtain rfl := Option.some.inj wrote
    rfl
  exact ⟨_, values, compiles, message ▸ extracted, texts 1 _ rfl, texts 2 _ rfl⟩

end ChatCommand
