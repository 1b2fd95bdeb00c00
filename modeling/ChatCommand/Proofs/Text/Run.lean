import ChatCommand.Text.Ascii
import ChatCommand.Text.Blank
import Mathlib.Data.List.TakeWhile

/-!
# Runs of characters

A text is cut behind the longest run of characters of some class. The run and what follows it are
told by their own properties: the run holds characters of the class only, and what follows opens
with no such character.

## Main results

- `takeWhile_run`, `dropWhile_run`: a run is taken off as a whole.
- `within_takeWhile`, `opensOutside_dropWhile`: where a text is cut there ends a run.
- `run_append_inj`: a text is a run and what follows it in one way only.
-/

namespace ChatCommand.Text

/-- All characters belong to a class. -/
def Within (inClass : Char → Bool) (text : List Char) : Prop := ∀ c ∈ text, inClass c = true

/-- A text that opens with no character of a class. -/
def OpensOutside (inClass : Char → Bool) : List Char → Prop
  | [] => True
  | c :: _ => inClass c = false

variable {inClass : Char → Bool} {run other rest behind : List Char}

theorem takeWhile_of_opensOutside (outside : OpensOutside inClass rest) :
    rest.takeWhile inClass = [] := by
  cases rest with
  | nil => rfl
  | cons c rest => exact List.takeWhile_cons_of_neg (Bool.eq_false_iff.mp outside)

theorem dropWhile_of_opensOutside (outside : OpensOutside inClass rest) :
    rest.dropWhile inClass = rest := by
  cases rest with
  | nil => rfl
  | cons c rest => exact List.dropWhile_cons_of_neg (Bool.eq_false_iff.mp outside)

theorem takeWhile_run (within : Within inClass run) (outside : OpensOutside inClass rest) :
    (run ++ rest).takeWhile inClass = run := by
  rw [List.takeWhile_append_of_pos within, takeWhile_of_opensOutside outside, List.append_nil]

theorem dropWhile_run (within : Within inClass run) (outside : OpensOutside inClass rest) :
    (run ++ rest).dropWhile inClass = rest := by
  rw [List.dropWhile_append_of_pos within, dropWhile_of_opensOutside outside]

theorem within_takeWhile (inClass : Char → Bool) (text : List Char) :
    Within inClass (text.takeWhile inClass) :=
  fun _ member => List.mem_takeWhile_imp member

theorem opensOutside_dropWhile (inClass : Char → Bool) (text : List Char) :
    OpensOutside inClass (text.dropWhile inClass) := by
  induction text with
  | nil => trivial
  | cons c text ih =>
    rw [List.dropWhile_cons]
    split
    next => exact ih
    next outside => exact Bool.eq_false_iff.mpr outside

theorem OpensOutside.of_append (outside : OpensOutside inClass (run ++ rest)) :
    OpensOutside inClass run := by
  cases run with
  | nil => trivial
  | cons c run => exact outside

/-- A text is cut behind a run of characters of a class. -/
theorem cut_run_iff {text : List Char} :
    text.takeWhile inClass = run ∧ text.dropWhile inClass = rest ↔
      text = run ++ rest ∧ Within inClass run ∧ OpensOutside inClass rest := by
  constructor
  · rintro ⟨rfl, rfl⟩
    exact ⟨List.takeWhile_append_dropWhile.symm, within_takeWhile inClass text,
      opensOutside_dropWhile inClass text⟩
  · rintro ⟨rfl, within, outside⟩
    exact ⟨takeWhile_run within outside, dropWhile_run within outside⟩

/-- A text is a run and what follows it in one way only. -/
theorem run_append_inj (first : Within inClass run) (second : Within inClass other)
    (ends : OpensOutside inClass rest) (stops : OpensOutside inClass behind)
    (same : run ++ rest = other ++ behind) : run = other ∧ rest = behind := by
  obtain ⟨taken, left⟩ := cut_run_iff.mpr ⟨rfl, first, ends⟩
  obtain ⟨again, remains⟩ := cut_run_iff.mpr ⟨same, second, stops⟩
  exact ⟨taken.symm.trans again, left.symm.trans remains⟩

theorem within_toDigits (n : Nat) : Within Char.isDigit (Nat.toDigits 10 n) :=
  fun _ => Nat.isDigit_of_mem_toDigits (by decide) (by decide)

/-! ### Letter case -/

/-- Changing the case of an ASCII letter keeps its size. -/
theorem utf8Size_toLower (c : Char) : c.toLower.utf8Size = c.utf8Size := by
  unfold Char.toLower
  split
  next upper =>
    have small : c.utf8Size = 1 := Char.utf8Size_eq_one_iff.mpr
      (UInt32.le_iff_toNat_le.mpr (Nat.le_trans (UInt32.le_iff_toNat_le.mp upper.2) (by decide)))
    rw [small, Char.utf8Size_eq_one_iff, UInt32.le_iff_toNat_le]
    have low : 65 ≤ c.val.toNat := UInt32.le_iff_toNat_le.mp upper.1
    have high : c.val.toNat ≤ 90 := UInt32.le_iff_toNat_le.mp upper.2
    show (c.val + 32).toNat ≤ 127
    rw [UInt32.toNat_add]
    show (c.val.toNat + 32) % 4294967296 ≤ 127
    omega
  next => rfl

/-- White space has no letter case. -/
theorem toLower_of_isBlank {c : Char} (blank : isBlank c = true) : c.toLower = c := by
  unfold Char.toLower
  split
  next upper =>
    have low : 65 ≤ c.toNat := UInt32.le_iff_toNat_le.mp upper.1
    have high : c.toNat ≤ 90 := UInt32.le_iff_toNat_le.mp upper.2
    simp only [isBlank, Bool.or_eq_true, Bool.and_eq_true, decide_eq_true_eq, beq_iff_eq] at blank
    omega
  next => rfl

end ChatCommand.Text
