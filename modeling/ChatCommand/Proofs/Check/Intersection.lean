import ChatCommand.Check.Compound
import ChatCommand.Check.Erasure
import ChatCommand.Check.Union
import ChatCommand.Proofs.Check.Trail
import ChatCommand.Proofs.Json.Sorted
import ChatCommand.Text.Ascii

/-!
# Intersections of objects

An intersection of two checks that yield objects yields the fields of both objects, and where both
have a field it is the second one's that counts. Several intersections can be grouped in any way:
the fields of the last check that has a key count, and when some of the checks reject an input, the
explanations of all that do come one after the other. The grouping shows in the names of the members
on the paths only.

## Main definitions

- `ObjectCheck`: checks that yield objects.
- `Check.Overlays`: the fields of one object over those of another one.
- `Failure.withoutMembers`: a failure as seen from keys and positions only.

## Main results

- `Check.mergeFields_assoc`, `Check.mergeFields_self`: merging fields.
- `Failure.joined_assoc`, `Failure.mapError_joined`: merging results.
- `ObjectCheck.intersectObjects_law`: intersections of checks that yield objects.
-/

namespace ChatCommand

/-! ### Fields of several objects -/

namespace Check

open Json.Fields (get? Ordered)

variable {first second third output : Json.Fields} {key : String}

/-- The fields are those of one object, and beside them those of another one that have other
keys. -/
structure Overlays (lower upper output : Json.Fields) : Prop where
  ordered : Ordered output
  get?_eq : ∀ key, get? key output = (get? key upper).or (get? key lower)

theorem get?_reverse (ordered : Ordered first) : get? key first.reverse = get? key first :=
  (Json.Fields.get?_eq_of_perm (List.reverse_perm first).symm ordered.nodup).symm

theorem overlays_mergeFields (ordered : Ordered first) (orderedToo : Ordered second) :
    Overlays first second (mergeFields first second) where
  ordered := Json.Fields.ordered_foldl_insert ordered
  get?_eq key := by
    unfold mergeFields
    rw [Json.Fields.get?_foldl_insert, get?_reverse orderedToo]

/-- There is one way to lay the fields of one object over those of another one. -/
theorem Overlays.eq_mergeFields (overlays : Overlays first second output)
    (ordered : Ordered first) (orderedToo : Ordered second) :
    output = mergeFields first second := by
  have merged := overlays_mergeFields ordered orderedToo
  apply overlays.ordered.ext merged.ordered
  intro key
  rw [overlays.get?_eq, merged.get?_eq]

theorem mergeFields_assoc (one : Ordered first) (two : Ordered second) (three : Ordered third) :
    mergeFields (mergeFields first second) third =
      mergeFields first (mergeFields second third) := by
  have left := overlays_mergeFields one two
  have right := overlays_mergeFields two three
  have whole := overlays_mergeFields left.ordered three
  refine Overlays.eq_mergeFields ⟨whole.ordered, fun key => ?_⟩ one right.ordered
  rw [whole.get?_eq, left.get?_eq, right.get?_eq, Option.or_assoc]

theorem mergeFields_self (ordered : Ordered first) : mergeFields first first = first :=
  (Overlays.eq_mergeFields ⟨ordered, fun _ => Option.or_self.symm⟩ ordered ordered).symm

end Check

/-! ### Failures of several checks -/

/-- The explanation with keys and positions only on its path. -/
def Explanation.withoutMembers (explanation : Explanation) : Explanation :=
  { explanation with path := explanation.place }

namespace Failure

variable {α β γ : Type}

/-- The failure with keys and positions only on the paths. -/
def withoutMembers (failure : Failure) : Failure :=
  { failure with information := failure.information.map Explanation.withoutMembers }

@[simp]
theorem withoutMembers_under_member (name : String) (failure : Failure) :
    (failure.under (.member name)).withoutMembers = failure.withoutMembers := by
  simp [withoutMembers, under, Explanation.withoutMembers, Explanation.under, Explanation.place,
    PathStep.isMember, Function.comp_def]

/-- Two results as one: what the values merge to, or else the explanations of all failures, of
which the first one gives the kind. -/
def joined (merge : α → β → γ) : Except Failure α → Except Failure β → Except Failure γ
  | .ok a, .ok b => .ok (merge a b)
  | .ok _, .error failure => .error failure
  | .error failure, .ok _ => .error failure
  | .error failure, .error other =>
    .error ⟨failure.kind, failure.information ++ other.information⟩

theorem joined_eq_ok_iff {merge : α → β → γ} {one : Except Failure α} {two : Except Failure β}
    {c : γ} : joined merge one two = .ok c ↔ ∃ a b, one = .ok a ∧ two = .ok b ∧ merge a b = c := by
  cases one <;> cases two <;> simp [joined]

theorem joined_assoc {merge : α → α → α} {one two three : Except Failure α}
    (assoc : ∀ a b c, one = .ok a → two = .ok b → three = .ok c →
      merge (merge a b) c = merge a (merge b c)) :
    joined merge (joined merge one two) three = joined merge one (joined merge two three) := by
  cases one <;> cases two <;> cases three <;> simp [joined]
  -- Only three values are merged; failures are lists one after the other.
  exact assoc _ _ _ rfl rfl rfl

theorem mapError_joined (merge : α → β → γ) (one : Except Failure α) (two : Except Failure β) :
    (joined merge one two).mapError withoutMembers =
      joined merge (one.mapError withoutMembers) (two.mapError withoutMembers) := by
  cases one <;> cases two <;> simp [joined, Except.mapError, withoutMembers]

theorem mapError_atStep_member (name : String) (result : Except Failure α) :
    (atStep (.member name) result).mapError withoutMembers = result.mapError withoutMembers := by
  cases result <;> simp [atStep, Except.mapError]

theorem mapError_eq_ok_iff {result : Except Failure α} {a : α} :
    result.mapError withoutMembers = .ok a ↔ result = .ok a := by
  cases result <;> simp [Except.mapError]

end Failure

/-! ### Intersections -/

namespace Check

open Failure (joined)

variable {α β γ : Type}

theorem run_intersection (first : Check α) (second : Check β) (merge : α → β → γ)
    (input : Option Json) :
    (intersection first second merge).run input =
      joined merge (Failure.atStep (.member first.name) (first.run input))
        (Failure.atStep (.member second.name) (second.run input)) := by
  unfold intersection
  rw [run_ofTransform]
  cases first.run input <;> cases second.run input <;> rfl

/-- Apart from the members on the paths, an intersection says what its members say. -/
theorem mapError_run_intersection (first : Check α) (second : Check β) (merge : α → β → γ)
    (input : Option Json) :
    ((intersection first second merge).run input).mapError Failure.withoutMembers =
      joined merge ((first.run input).mapError Failure.withoutMembers)
        ((second.run input).mapError Failure.withoutMembers) := by
  simp only [run_intersection, Failure.mapError_joined, Failure.mapError_atStep_member]

theorem run_intersection_eq_ok_iff {first : Check α} {second : Check β} {merge : α → β → γ}
    {input : Option Json} {output : γ} :
    (intersection first second merge).run input = .ok output ↔
      ∃ a b, first.run input = .ok a ∧ second.run input = .ok b ∧ merge a b = output := by
  rw [← Failure.mapError_eq_ok_iff, mapError_run_intersection, Failure.joined_eq_ok_iff]
  simp only [Failure.mapError_eq_ok_iff]

end Check

/-- A check that yields objects: one field a key, in the order of the keys. -/
structure ObjectCheck extends Check Json.Fields where
  ordered : ∀ input output, toCheck.run input = .ok output → Json.Fields.Ordered output

namespace ObjectCheck

open Check (Overlays intersectObjects mergeFields)

/-- The check of a shape. -/
def ofShape (shape : Check.Shape) : ObjectCheck where
  toCheck := .object shape
  ordered input output accepted := by
    rcases input with _ | _ | _ | _ | _ | _ | fields
    case some.object =>
      obtain ⟨entries, -, rfl⟩ := Check.run_object_eq_ok_iff.mp accepted
      exact Json.Fields.ordered_sort _
    all_goals contradiction

variable {first second third : ObjectCheck} {input : Option Json} {output : Json.Fields}

theorem run_intersectObjects_eq_ok_iff :
    (intersectObjects first.toCheck second.toCheck).run input = .ok output ↔
      ∃ lower upper, first.run input = .ok lower ∧ second.run input = .ok upper ∧
        Overlays lower upper output := by
  refine Check.run_intersection_eq_ok_iff.trans ?_
  constructor
  · rintro ⟨lower, upper, accepts, acceptsToo, rfl⟩
    exact ⟨lower, upper, accepts, acceptsToo,
      Check.overlays_mergeFields (first.ordered _ _ accepts) (second.ordered _ _ acceptsToo)⟩
  · rintro ⟨lower, upper, accepts, acceptsToo, overlays⟩
    exact ⟨lower, upper, accepts, acceptsToo, (overlays.eq_mergeFields
      (first.ordered _ _ accepts) (second.ordered _ _ acceptsToo)).symm⟩

/-- The intersection of two checks that yield objects. -/
def inter (first second : ObjectCheck) : ObjectCheck where
  toCheck := intersectObjects first.toCheck second.toCheck
  ordered _ _ accepted := by
    obtain ⟨_, _, _, _, overlays⟩ := run_intersectObjects_eq_ok_iff.mp accepted
    exact overlays.ordered

theorem mapError_run_assoc (first second third : ObjectCheck) (input : Option Json) :
    ((intersectObjects (intersectObjects first.toCheck second.toCheck) third.toCheck).run
        input).mapError Failure.withoutMembers =
      ((intersectObjects first.toCheck (intersectObjects second.toCheck third.toCheck)).run
        input).mapError Failure.withoutMembers := by
  simp only [intersectObjects, Check.mapError_run_intersection]
  apply Failure.joined_assoc
  intro a b c one two three
  exact Check.mergeFields_assoc (first.ordered _ _ (Failure.mapError_eq_ok_iff.mp one))
    (second.ordered _ _ (Failure.mapError_eq_ok_iff.mp two))
    (third.ordered _ _ (Failure.mapError_eq_ok_iff.mp three))

theorem run_intersectObjects_self :
    (intersectObjects first.toCheck first.toCheck).run input = .ok output ↔
      first.run input = .ok output := by
  refine Check.run_intersection_eq_ok_iff.trans ?_
  constructor
  · rintro ⟨lower, upper, accepts, acceptsToo, rfl⟩
    obtain rfl := Except.ok.inj (accepts.symm.trans acceptsToo)
    rwa [Check.mergeFields_self (first.ordered _ _ accepts)]
  · intro accepts
    exact ⟨output, output, accepts, accepts, Check.mergeFields_self (first.ordered _ _ accepts)⟩

/-- The intersection of two checks that yield objects accepts what both accept and lays the fields
that the second one yields over those that the first one yields. Apart from the members on the paths
of failures it does not matter how three checks are grouped, and with itself a check accepts and
yields what it does alone. -/
theorem intersectObjects_law (first second third : ObjectCheck) (input : Option Json) :
    ((∃ output, (intersectObjects first.toCheck second.toCheck).run input = .ok output) ↔
      (∃ lower, first.run input = .ok lower) ∧ ∃ upper, second.run input = .ok upper) ∧
    (∀ output, (intersectObjects first.toCheck second.toCheck).run input = .ok output ↔
      ∃ lower upper, first.run input = .ok lower ∧ second.run input = .ok upper ∧
        Overlays lower upper output) ∧
    ((intersectObjects (intersectObjects first.toCheck second.toCheck) third.toCheck).run
        input).mapError Failure.withoutMembers =
      ((intersectObjects first.toCheck (intersectObjects second.toCheck third.toCheck)).run
        input).mapError Failure.withoutMembers ∧
    ∀ output, (intersectObjects first.toCheck first.toCheck).run input = .ok output ↔
      first.run input = .ok output := by
  refine ⟨?_, fun _ => run_intersectObjects_eq_ok_iff, mapError_run_assoc first second third input,
    fun _ => run_intersectObjects_self⟩
  constructor
  · rintro ⟨output, accepts⟩
    obtain ⟨lower, upper, one, two, -⟩ := run_intersectObjects_eq_ok_iff.mp accepts
    exact ⟨⟨lower, one⟩, upper, two⟩
  · rintro ⟨⟨lower, one⟩, upper, two⟩
    exact ⟨mergeFields lower upper,
      Check.run_intersection_eq_ok_iff.mpr ⟨lower, upper, one, two, rfl⟩⟩

/-- Of a key that both objects have, the second value counts. -/
example : ((ofShape ⟨[("name", Check.string.erase)], some (Check.string, Check.any)⟩).inter
    (ofShape ⟨[("name", (Check.string.normalize Text.lowerAscii).erase)], none⟩)).run
      (some (.object [("name", .text "Vault")])) = .ok [("name", .text "vault")] := rfl

end ObjectCheck

end ChatCommand
