import ChatCommand.Pattern.Basic

/-!
# Numbers of blocks

The pattern of a template numbers the blocks of each argument while it walks through the template.
Told which blocks opened earlier, each part of the template can be numbered on its own.

## Main results

- `Template.number_eq`: the walk gives each part its numbered form.
- `Template.toPattern_eq`: the pattern of a template is its numbered form with no block before it.
-/

namespace ChatCommand.Template

variable {sigilText : List Char} {n : Nat} {content rest : Template}

/-- The pattern of a template that stands behind the blocks of the given owners. -/
def numbered (sigilText : List Char) (earlier : List Nat) : Template → Pattern
  | nil => .done
  | sigil rest => .text sigilText (rest.numbered sigilText earlier)
  | literal text rest => .text text (rest.numbered sigilText earlier)
  | argument n rest => .capture n (rest.numbered sigilText earlier)
  | keyOff n content rest =>
    .block n (earlier.count n + 1) (content.numbered sigilText (earlier ++ [n]))
      (rest.numbered sigilText (earlier ++ n :: content.blockOwners))

/-- The walk keeps the owners of the blocks passed, the latest first. -/
theorem number_eq (template : Template) (earlier : List Nat) :
    template.number sigilText earlier.reverse =
      (template.numbered sigilText earlier, (earlier ++ template.blockOwners).reverse) := by
  induction template generalizing earlier with
  | nil => simp [number, numbered, blockOwners]
  | sigil rest ih => simp only [number, numbered, blockOwners, ih]
  | literal text rest ih => simp only [number, numbered, blockOwners, ih]
  | argument n rest ih => simp only [number, numbered, blockOwners, ih]
  | keyOff n content rest ihContent ihRest =>
    have inside := ihContent (earlier ++ [n])
    rw [List.reverse_append, List.append_assoc] at inside
    change content.number sigilText (n :: earlier.reverse) = _ at inside
    have after := ihRest (earlier ++ ([n] ++ content.blockOwners))
    simp only [number, inside, after, List.count_reverse]
    simp [numbered, blockOwners]

theorem toPattern_eq (sigilText : String) (template : Template) :
    template.toPattern sigilText = template.numbered sigilText.toList [] :=
  congrArg Prod.fst (number_eq template [])

end ChatCommand.Template
