import ChatCommand.Compilation
import ChatCommand.Proofs.Pattern.Numbering
import ChatCommand.Proofs.Text.Run

/-!
# The written form of patterns

A regular expression of the kind that patterns are written as has few operators: the two anchors,
the opening of a named group, the lazy repetition of any character, and the closing of a group,
which may make the group optional. A metacharacter that is to stand for itself has a backslash
before it, and every other metacharacter has to be part of an operator. Read in this way, the
written form of a pattern is taken up to its end and yields the tree that was written, whatever
characters the prefix and the literals have.

## Main definitions

- `Expression`: regular expressions as trees.
- `Expression.Sign`, `Expression.Sign.scan?`: the signs that a text consists of.
- `Expression.read?`: the regular expression that a text writes.
- `Template.expression`: a template as a regular expression.

## Main results

- `Expression.Sign.scan?_renderBody`: the signs of a written pattern.
- `Expression.read?_render`: the written form of a pattern is read as its tree.
- `Compiled.read?_source`: a compiled command is written as its template.
-/

namespace ChatCommand

/-- A regular expression, as the sequence of what is written one after the other. -/
inductive Expression where
  /-- The end of the sequence. -/
  | done
  /-- The beginning of the text that is searched, `^`. -/
  | start (rest : Expression)
  /-- The end of that text, `$`. -/
  | stop (rest : Expression)
  /-- A character that stands for itself. -/
  | char (c : Char) (rest : Expression)
  /-- One or more characters of any kind, as few as possible, `.+?`. -/
  | something (rest : Expression)
  /-- A named group, which may be optional. -/
  | group (name : String) (isOptional : Bool) (content rest : Expression)
  deriving DecidableEq, Repr

namespace Expression

/-- A sign that a regular expression is written with. -/
inductive Sign where
  | start
  | stop
  | char (c : Char)
  | something
  | opening (name : String)
  | closing (isOptional : Bool)
  deriving DecidableEq, Repr

/-- Whether a character may be part of a group's name. -/
def isNameChar (c : Char) : Bool := c.isAlphanum || c == '_'

namespace Sign

/-- The sign that starts with `c` before `text`, and what follows it. -/
def cut? (c : Char) (text : List Char) : Option (Sign × List Char) :=
  match c with
  | '^' => some (start, text)
  | '$' => some (stop, text)
  | '\\' =>
    match text with
    | d :: rest => if d ∈ Pattern.metacharacters then some (char d, rest) else none
    | [] => none
  | '.' => (Text.afterExact? ['+', '?'] text).map fun rest => (something, rest)
  | '(' => do
    let inside ← Text.afterExact? ['?', 'P', '<'] text
    let rest ← Text.afterExact? ['>'] (inside.dropWhile isNameChar)
    some (opening (String.ofList (inside.takeWhile isNameChar)), rest)
  | ')' =>
    match Text.afterExact? ['?'] text with
    | some rest => some (closing true, rest)
    | none => some (closing false, text)
  -- All other metacharacters are operators that are not allowed here.
  | c => if c ∈ Pattern.metacharacters then none else some (char c, text)

theorem length_afterExact?_le {opening text rest : List Char}
    (found : Text.afterExact? opening text = some rest) : rest.length ≤ text.length := by
  rw [Text.afterExact?_eq_some_iff] at found
  simp [found]

theorem length_cut?_le {c : Char} {text rest : List Char} {sign : Sign}
    (found : cut? c text = some (sign, rest)) : rest.length ≤ text.length := by
  unfold cut? at found
  split at found
  · obtain ⟨-, rfl⟩ := Prod.mk.inj (Option.some.inj found)
    exact Nat.le_refl _
  · obtain ⟨-, rfl⟩ := Prod.mk.inj (Option.some.inj found)
    exact Nat.le_refl _
  · split at found
    · split at found
      · obtain ⟨-, rfl⟩ := Prod.mk.inj (Option.some.inj found)
        simp
      · contradiction
    · contradiction
  · obtain ⟨behind, after, same⟩ := Option.map_eq_some_iff.mp found
    obtain ⟨-, rfl⟩ := Prod.mk.inj same
    exact length_afterExact?_le after
  · obtain ⟨inside, after, found⟩ := Option.bind_eq_some_iff.mp found
    obtain ⟨behind, closed, same⟩ := Option.bind_eq_some_iff.mp found
    obtain ⟨-, rfl⟩ := Prod.mk.inj (Option.some.inj same)
    have dropped := (List.dropWhile_sublist isNameChar (l := inside)).length_le
    exact (length_afterExact?_le closed).trans (dropped.trans (length_afterExact?_le after))
  · split at found
    next behind after =>
      obtain ⟨-, rfl⟩ := Prod.mk.inj (Option.some.inj found)
      exact length_afterExact?_le after
    next =>
      obtain ⟨-, rfl⟩ := Prod.mk.inj (Option.some.inj found)
      exact Nat.le_refl _
  · split at found
    · contradiction
    · obtain ⟨-, rfl⟩ := Prod.mk.inj (Option.some.inj found)
      exact Nat.le_refl _

/-- The signs of a text, if it consists of such signs. -/
def scan? : List Char → Option (List Sign)
  | [] => some []
  | c :: text =>
    match _found : cut? c text with
    | none => none
    | some (sign, rest) => (sign :: ·) <$> scan? rest
termination_by text => text.length
decreasing_by exact Nat.lt_succ_of_le (length_cut?_le _found)

theorem scan?_nil : scan? [] = some [] := by rw [scan?]

theorem scan?_cons {c : Char} {text rest : List Char} {sign : Sign}
    (found : cut? c text = some (sign, rest)) :
    scan? (c :: text) = (scan? rest).map (sign :: ·) := by
  rw [scan?]
  split
  next none =>
    rw [found] at none
    contradiction
  next other behind same =>
    obtain ⟨rfl, rfl⟩ := Prod.mk.inj (Option.some.inj (found.symm.trans same))
    rfl

end Sign

/-- Nests the signs: the expression up to the first closing of a group that was not opened, and for
each such closing whether it makes the group optional, and the expression behind it. -/
def nest? : List Sign → Option (Expression × List (Bool × Expression))
  | [] => some (done, [])
  | sign :: signs => do
    let (rest, closings) ← nest? signs
    match sign with
    | .start => some (start rest, closings)
    | .stop => some (stop rest, closings)
    | .char c => some (char c rest, closings)
    | .something => some (something rest, closings)
    | .closing isOptional => some (done, (isOptional, rest) :: closings)
    | .opening name =>
      -- What comes next is inside the group, up to the closing.
      match closings with
      | (isOptional, behind) :: closings => some (group name isOptional rest behind, closings)
      | [] => none

/-- The regular expression that a text writes, if it writes one. -/
def read? (text : List Char) : Option Expression := do
  let signs ← Sign.scan? text
  match ← nest? signs with
  | (expression, []) => some expression
  | _ => none

end Expression

/-! ### Written patterns -/

namespace Pattern

open Expression (Sign)

/-- The signs that a pattern is written with. -/
def signs : Pattern → List Sign
  | done => []
  | text chars rest => chars.map .char ++ rest.signs
  | capture n rest =>
    .opening (Group.argument n).name :: .something :: .closing false :: rest.signs
  | block n k content rest =>
    .opening (Group.keyOff n k).name :: (content.signs ++ .closing true :: rest.signs)

/-- A pattern as a regular expression, before what comes next. -/
def expression : Pattern → Expression → Expression
  | done, next => next
  | text chars rest, next => chars.foldr .char (rest.expression next)
  | capture n rest, next =>
    .group (Group.argument n).name false (.something .done) (rest.expression next)
  | block n k content rest, next =>
    .group (Group.keyOff n k).name true (content.expression .done) (rest.expression next)

end Pattern

namespace Expression

open Pattern (metacharacters escapedChar openGroup)
open Text (Within OpensOutside takeWhile_run dropWhile_run)

namespace Sign

/-- An escaped character is read as itself, whatever it is and whatever follows. -/
theorem scan?_escapedChar (c : Char) (text : List Char) :
    scan? (escapedChar c ++ text) = (scan? text).map (char c :: ·) := by
  unfold escapedChar
  split
  next special => exact scan?_cons (if_pos special)
  next plain =>
    apply scan?_cons
    unfold cut?
    split
    -- The operators are metacharacters themselves.
    case h_7 => exact if_neg plain
    all_goals exact absurd (by decide) plain

theorem scan?_flatMap_escapedChar (chars text : List Char) :
    scan? (chars.flatMap escapedChar ++ text) = (scan? text).map (chars.map char ++ ·) := by
  induction chars with
  | nil => simp
  | cons c chars ih =>
    rw [List.flatMap_cons, List.append_assoc, scan?_escapedChar, ih, Option.map_map]
    rfl

theorem within_name (group : Group) : Within isNameChar group.name.toList := by
  have decimal (n : Nat) : Within isNameChar (toString n).toList := by
    intro c member
    have digit : c.isDigit = true := Nat.isDigit_of_mem_toDigits (by decide) (by decide)
      (b := 10) (n := n) (by simpa using member)
    simp [isNameChar, Char.isAlphanum, digit]
  have letters {text : String} (all : text.toList.all isNameChar = true) :
      Within isNameChar text.toList := List.all_eq_true.mp all
  intro c member
  cases group with
  | argument n =>
    simp only [Group.name, String.toList_append, List.mem_append] at member
    rcases member with fixed | digits
    · exact letters (by decide) c fixed
    · exact decimal n c digits
  | keyOff n k =>
    simp only [Group.name, String.toList_append, List.mem_append] at member
    rcases member with ((fixed | digits) | fixed) | digits
    · exact letters (by decide) c fixed
    · exact decimal n c digits
    · exact letters (by decide) c fixed
    · exact decimal k c digits

theorem scan?_openGroup (group : Group) (text : List Char) :
    scan? (openGroup group ++ text) = (scan? text).map (opening group.name :: ·) := by
  unfold openGroup
  rw [List.append_assoc, List.append_assoc]
  apply scan?_cons
  have outside : OpensOutside isNameChar ('>' :: text) := by
    show isNameChar '>' = false
    decide
  have taken := takeWhile_run (within_name group) outside
  have dropped := dropWhile_run (within_name group) outside
  simp [cut?, Text.afterExact?, taken, dropped]

/-- A closing is not optional unless a question mark follows. -/
theorem scan?_closing {text : List Char} (outside : OpensOutside (· == '?') text) :
    scan? (')' :: text) = (scan? text).map (closing false :: ·) := by
  apply scan?_cons
  cases text with
  | nil => rfl
  | cons c text =>
    have other : '?' ≠ c := fun same => by simp [OpensOutside, ← same] at outside
    simp [cut?, Text.afterExact?, other]

/-- What is written for a pattern never opens with a question mark. -/
theorem opensOutside_renderBody (pattern : Pattern) {text : List Char}
    (outside : OpensOutside (· == '?') text) :
    OpensOutside (· == '?') (pattern.renderBody ++ text) := by
  induction pattern with
  | done => exact outside
  | text chars rest ih =>
    cases chars with
    | nil => exact ih
    | cons c chars =>
      simp only [Pattern.renderBody, List.flatMap_cons, escapedChar]
      split
      next => rfl
      next plain =>
        -- A question mark would not be written without a backslash.
        show (c == '?') = false
        rw [beq_eq_false_iff_ne]
        rintro rfl
        exact plain (by decide)
  | capture n rest => rfl
  | block n k content rest => rfl

/-- The signs of a written pattern are those that it was written with. -/
theorem scan?_renderBody (pattern : Pattern) {text : List Char}
    (outside : OpensOutside (· == '?') text) :
    scan? (pattern.renderBody ++ text) = (scan? text).map (pattern.signs ++ ·) := by
  -- The induction is on the pattern, with any text behind that cannot be taken for the end of a
  -- closing.
  induction pattern generalizing text with
  | done => simp [Pattern.renderBody, Pattern.signs]
  | text chars rest ih =>
    simp only [Pattern.renderBody, Pattern.signs, List.append_assoc]
    rw [scan?_flatMap_escapedChar, ih outside, Option.map_map]
    rfl
  | capture n rest ih =>
    have closed := scan?_closing (opensOutside_renderBody rest outside)
    have lazily : scan? ('.' :: '+' :: '?' :: ')' :: (rest.renderBody ++ text)) =
        (scan? (')' :: (rest.renderBody ++ text))).map (something :: ·) := scan?_cons rfl
    simp only [Pattern.renderBody, Pattern.signs, List.append_assoc]
    rw [scan?_openGroup]
    show (scan? ('.' :: '+' :: '?' :: ')' :: (rest.renderBody ++ text))).map _ = _
    rw [lazily, closed, ih outside, Option.map_map, Option.map_map, Option.map_map]
    rfl
  | block n k content rest ihContent ihRest =>
    have inside : OpensOutside (· == '?') (')' :: '?' :: (rest.renderBody ++ text)) := by
      show (')' == '?') = false
      decide
    have closed : scan? (')' :: '?' :: (rest.renderBody ++ text)) =
        (scan? (rest.renderBody ++ text)).map (closing true :: ·) := scan?_cons rfl
    simp only [Pattern.renderBody, Pattern.signs, List.append_assoc]
    rw [scan?_openGroup]
    show (scan? (content.renderBody ++ ')' :: '?' :: (rest.renderBody ++ text))).map _ = _
    rw [ihContent inside, closed, ihRest outside, Option.map_map, Option.map_map, Option.map_map]
    congr 1
    funext signs
    simp

end Sign

theorem nest?_map_char (chars : List Char) (signs : List Sign) :
    nest? (chars.map .char ++ signs) =
      (nest? signs).map fun (rest, closings) => (chars.foldr char rest, closings) := by
  induction chars with
  | nil => simp
  | cons c chars ih =>
    simp only [List.map_cons, List.cons_append, nest?, ih]
    cases nest? signs <;> rfl

/-- The signs of a pattern nest to its tree, before what the signs behind them nest to. -/
theorem nest?_signs (pattern : Pattern) (signs : List Sign) :
    nest? (pattern.signs ++ signs) =
      (nest? signs).map fun (rest, closings) => (pattern.expression rest, closings) := by
  induction pattern generalizing signs with
  | done => simp [Pattern.signs, Pattern.expression]
  | text chars rest ih =>
    simp only [Pattern.signs, Pattern.expression, List.append_assoc]
    rw [nest?_map_char, ih]
    cases nest? signs <;> rfl
  | capture n rest ih =>
    simp only [Pattern.signs, Pattern.expression, List.cons_append, nest?, ih]
    cases nest? signs <;> rfl
  | block n k content rest ihContent ihRest =>
    simp only [Pattern.signs, Pattern.expression, List.cons_append, List.append_assoc, nest?,
      ihContent, ihRest]
    cases nest? signs <;> rfl

/-- The written form of a pattern is read as the pattern between the anchors. -/
theorem read?_render (pattern : Pattern) :
    read? pattern.render.toList = some (.start (pattern.expression (.stop .done))) := by
  have signs : Sign.scan? pattern.render.toList = some (.start :: (pattern.signs ++ [.stop])) := by
    have anchored : Sign.scan? ('^' :: (pattern.renderBody ++ ['$'])) =
        (Sign.scan? (pattern.renderBody ++ ['$'])).map (.start :: ·) := Sign.scan?_cons rfl
    have outside : OpensOutside (· == '?') ['$'] := by
      show ('$' == '?') = false
      decide
    have stopped : Sign.scan? ['$'] = (Sign.scan? []).map (.stop :: ·) := Sign.scan?_cons rfl
    unfold Pattern.render
    rw [String.toList_ofList, List.cons_append, anchored, Sign.scan?_renderBody pattern outside,
      stopped, Sign.scan?_nil]
    rfl
  have nested : nest? (.start :: (pattern.signs ++ [.stop])) =
      some (.start (pattern.expression (.stop .done)), []) := by
    simp only [nest?, nest?_signs]
    rfl
  unfold read?
  rw [signs]
  simp only [Option.bind_eq_bind, Option.bind_some, nested]

end Expression

/-! ### Templates -/

namespace Template

/-- A template as a regular expression, behind the blocks of the given owners and before what comes
next: the prefix and the literals character by character, a named lazy capture for every argument,
and a named optional group for every block, which is numbered among the blocks of its argument. -/
def expression (sigilText : List Char) (earlier : List Nat) : Template → Expression → Expression
  | nil, next => next
  | sigil rest, next => sigilText.foldr .char (rest.expression sigilText earlier next)
  | literal text rest, next => text.foldr .char (rest.expression sigilText earlier next)
  | argument n rest, next =>
    .group ("arg_" ++ toString n) false (.something .done)
      (rest.expression sigilText earlier next)
  | keyOff n content rest, next =>
    .group ("keyoff_" ++ toString n ++ "_" ++ toString (earlier.count n + 1)) true
      (content.expression sigilText (earlier ++ [n]) .done)
      (rest.expression sigilText (earlier ++ n :: content.blockOwners) next)

theorem expression_numbered (sigilText : List Char) (earlier : List Nat) (template : Template)
    (next : Expression) :
    (template.numbered sigilText earlier).expression next =
      template.expression sigilText earlier next := by
  induction template generalizing earlier next with
  | nil => rfl
  | sigil rest ih => simp only [numbered, Pattern.expression, expression, ih]
  | literal text rest ih => simp only [numbered, Pattern.expression, expression, ih]
  | argument n rest ih => simp only [numbered, Pattern.expression, expression, Group.name, ih]
  | keyOff n content rest ihContent ihRest =>
    simp only [numbered, Pattern.expression, expression, Group.name, ihContent, ihRest]

end Template

/-- What is written for a template under a prefix is read as a regular expression up to its end, and
as that of the template between the anchors: no character of the prefix or of a literal is taken for
a part of an operator. -/
theorem Compiled.read?_source (sigil : String) (template : Template) :
    Expression.read? (Compiled.source ⟨sigil, template⟩).toList =
      some (.start (template.expression sigil.toList [] (.stop .done))) := by
  unfold Compiled.source Compiled.pattern
  rw [Expression.read?_render, Template.toPattern_eq, Template.expression_numbered]

/-- The characters of an operator are not read as this operator when they are a literal. -/
example :
    Expression.read? "^.+?$".toList = some (.start (.something (.stop .done))) ∧
    Expression.read? (Compiled.source ⟨"", .literal ".+?".toList .nil⟩).toList =
      some (.start (.char '.' (.char '+' (.char '?' (.stop .done))))) := by cbv

end ChatCommand
