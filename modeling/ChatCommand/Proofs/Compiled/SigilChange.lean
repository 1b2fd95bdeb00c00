import ChatCommand.Pattern.Limits
import ChatCommand.Proofs.Compiled.Compilation
import ChatCommand.Proofs.Compiled.Correspondence
import ChatCommand.Proofs.Pattern.FirstSplit
import ChatCommand.Proofs.Template.Scoping
import Mathlib

/-!
# Commands under another prefix

The prefix of a template stands at its beginning and nowhere else, and it is matched character by
character. So a message that begins with the prefix is split as the rest of it is split along the
rest of the template, only further on, and the rest of the template knows nothing of the prefix.

## Main definitions

- `Pattern.Capture.shift`: a capture further on in the message.

## Main results

- `Template.captures?_sigil`: what is captured behind the prefix.
- `extract_append_of_sigils`: what is extracted behind one prefix is extracted behind another.
-/

namespace ChatCommand

open Pattern (Capture textOf?)

namespace Pattern

/-- The same capture when some more characters stand in front. -/
def Capture.shift (count : Nat) (capture : Capture) : Capture :=
  { capture with start := capture.start + count }

@[simp]
theorem textOf?_map_shift (count : Nat) (captures : List Capture) (group : Group) :
    textOf? (captures.map (Capture.shift count)) group = textOf? captures group := by
  unfold textOf?
  rw [List.find?_map, Option.map_map]
  rfl

end Pattern

namespace Template

variable {sigilText : List Char} {template body : Template} {message : List Char}

/-- A template without the prefix has the same pattern under all prefixes. -/
theorem numbered_of_plain (plain : template.sigilCount = 0) (sigilText other : List Char)
    (earlier : List Nat) :
    template.numbered sigilText earlier = template.numbered other earlier := by
  induction template generalizing earlier with
  | nil => rfl
  | sigil rest ih => contradiction
  | literal text rest ih => exact congrArg (Pattern.text text) (ih plain earlier)
  | argument n rest ih => exact congrArg (Pattern.capture n) (ih plain earlier)
  | keyOff n content rest ihContent ihRest =>
    obtain ⟨plainInside, plainAfter⟩ := Nat.add_eq_zero_iff.mp plain
    simp only [numbered, ihContent plainInside, ihRest plainAfter]

/-- A split captures the same when its message stands further on. -/
theorem Split.captures_add (split : Split sigilText template) (earlier : List Nat)
    (place count : Nat) :
    split.captures earlier (place + count) =
      (split.captures earlier place).map (Capture.shift count) := by
  induction split generalizing earlier place with
  | nil => rfl
  | sigil spelled same after ih =>
    simp only [captures, Nat.add_right_comm place count, ih]
  | literal spelled same after ih =>
    simp only [captures, Nat.add_right_comm place count, ih]
  | argument text filled after ih =>
    simp only [captures, Nat.add_right_comm place count, ih, List.map_cons, Capture.shift]
  | present inside after ihInside ihAfter =>
    simp only [captures, Nat.add_right_comm place count, ihInside, ihAfter, List.map_cons,
      List.map_append, Capture.shift]
  | absent after ih => simp only [captures, ih]

/-- Behind the prefix a message is split along the rest of the template. -/
theorem Split.exists_eq_sigil (split : Split sigilText (.sigil body))
    (whole : split.message = sigilText ++ message) :
    ∃ after : Split sigilText body,
      after.message = message ∧ split = .sigil sigilText rfl after := by
  cases split with
  | sigil spelled same after =>
    have sized : spelled.length = sigilText.length := by simpa using congrArg List.length same
    obtain ⟨rfl, behind⟩ := List.append_inj whole sized
    exact ⟨after, behind, rfl⟩

/-- What is captured behind the prefix is what the rest of the template captures there. -/
theorem captures?_sigil (sigil : String) (body : Template) (message : List Char) :
    ((Template.sigil body).toPattern sigil).captures? (sigil.toList ++ message) =
      ((body.toPattern sigil).captures? message).map
        (List.map (Capture.shift sigil.toList.length)) := by
  cases found : (body.toPattern sigil).captures? message with
  | none =>
    rw [Option.map_none, ← Option.not_isSome_iff_eq_none, isSome_captures?_iff]
    rintro ⟨split, whole⟩
    obtain ⟨after, behind, -⟩ := split.exists_eq_sigil whole
    have matched := isSome_captures?_iff.mpr ⟨after, behind⟩
    rw [found] at matched
    contradiction
  | some captures =>
    obtain ⟨inner, behind, rfl, innerFirst⟩ := exists_first_of_captures? found
    have matched := isSome_captures?_iff.mpr
      ⟨.sigil sigil.toList rfl inner, congrArg (sigil.toList ++ ·) behind⟩
    obtain ⟨captures, matched⟩ := Option.isSome_iff_exists.mp matched
    obtain ⟨split, whole, rfl, first⟩ := exists_first_of_captures? matched
    obtain ⟨after, behindToo, rfl⟩ := split.exists_eq_sigil whole
    -- The prefix leaves no choice, so the first split of the whole has the first one behind it.
    have same : after = inner := by
      refine (innerFirst after behindToo).resolve_right fun ahead => ?_
      rcases first (.sigil sigil.toList rfl inner) (congrArg (sigil.toList ++ ·) behind) with
        equal | reverse
      · obtain rfl : inner = after := by injection equal
        exact ahead.asymm ahead
      · exact ahead.asymm reverse
    rw [matched, same, Option.map_some]
    exact congrArg some (inner.captures_add [] 0 sigil.toList.length)

end Template

variable {sigil sigil' source : String} {arguments : List Argument} {compiled compiled' : Compiled}

/-- Behind the prefix of a command, be it one or the other, the same is extracted from the same
text, with the same arguments found wrong or missing. -/
theorem extract_append_of_sigils [Pattern.Builder]
    (compiles : compile sigil arguments source = .ok compiled)
    (compilesToo : compile sigil' arguments source = .ok compiled') (rest : String) :
    compiled.extract arguments (sigil ++ rest) = compiled'.extract arguments (sigil' ++ rest) := by
  obtain ⟨rfl, read, -⟩ := compile_eq_ok_iff.mp compiles
  obtain ⟨rfl, readToo, -⟩ := compile_eq_ok_iff.mp compilesToo
  obtain ⟨body, shape, plain⟩ := (Template.wellFormed_of_parse read).opens
  have same : compiled.template = compiled'.template := Except.ok.inj (read.symm.trans readToo)
  -- Behind either prefix the same groups are captured, each some characters further on.
  have behind (sigil : String) : ((Template.sigil body).toPattern sigil).captures?
      (sigil ++ rest).toList = ((body.toPattern compiled.sigil).captures? rest.toList).map
        (List.map (Capture.shift sigil.toList.length)) := by
    rw [String.toList_append, Template.captures?_sigil, Template.toPattern_eq,
      Template.toPattern_eq, Template.numbered_of_plain plain]
  have matched : Option.Rel (Pattern.Corresponding fun _ => Eq)
      (compiled.pattern.captures? (compiled.sigil ++ rest).toList)
      (compiled'.pattern.captures? (compiled'.sigil ++ rest).toList) := by
    rw [Compiled.pattern, Compiled.pattern, ← same, shape, behind, behind]
    refine (Option.Rel.refl (fun _ => Eq.refl _) _).map ?_
    rintro captures _ rfl group
    rw [Pattern.textOf?_map_shift, Pattern.textOf?_map_shift]
    exact .refl (fun _ => rfl) _
  refine (Compiled.extract_corresponds same matched arguments).eq_of_related_eq ?_
  rintro key text text' ⟨n, argument, -, -, texts⟩
  exact String.toList_inj.mp (or_self_iff.mp texts)

open scoped Pattern.Limits in
/-- A prefix that looks like the end of a group and like the literal behind the argument is as good
as another one. -/
theorem extract_append_of_sigils_odd : ∃ compiled compiled',
    compile "!" [.required "who" "who", .ofOptional "time" "time"]
        "<prefix>mute $1{opt $2}[ for $2]" = .ok compiled ∧
      compile " for )?$" [.required "who" "who", .ofOptional "time" "time"]
        "<prefix>mute $1{opt $2}[ for $2]" = .ok compiled' ∧
      compiled.extract [.required "who" "who", .ofOptional "time" "time"] "!mute Ann for 1h" =
        compiled'.extract [.required "who" "who", .ofOptional "time" "time"]
          " for )?$mute Ann for 1h" ∧
      (compiled'.extract [.required "who" "who", .ofOptional "time" "time"]
        " for )?$mute Ann for 1h").values = [("time", some "1h"), ("who", some "Ann")] := by
  have compiles (sigil : String) (buildable : Pattern.isBuildable (Compiled.pattern ⟨sigil, .sigil
      (.literal "mute ".toList (.argument 1 (.keyOff 2 (.literal " for ".toList (.argument 2 .nil))
        .nil)))⟩) = true) :
      compile sigil [.required "who" "who", .ofOptional "time" "time"]
        "<prefix>mute $1{opt $2}[ for $2]" = .ok ⟨sigil, .sigil (.literal "mute ".toList
          (.argument 1 (.keyOff 2 (.literal " for ".toList (.argument 2 .nil)) .nil)))⟩ :=
    compile_eq_ok_iff.mpr ⟨rfl, by cbv, buildable⟩
  have plain := compiles "!" (by decide)
  have odd := compiles " for )?$" (by decide)
  exact ⟨_, _, plain, odd, extract_append_of_sigils plain odd "mute Ann for 1h", by cbv⟩

end ChatCommand
