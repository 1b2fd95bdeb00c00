import ChatCommand.Command.Dispatch
import ChatCommand.Pattern.Limits
import ChatCommand.Proofs.Command.Built
import ChatCommand.Proofs.Command.Warnings
import ChatCommand.Proofs.Compiled.Matching
import ChatCommand.Proofs.Text.Words

/-!
# Where messages are routed

A message goes to the command that its first word names, while the pattern of a command only asks
that the name stands where its literal opens. The two agree as long as what was matched as the name
is a word of its own, and the letter case is one that the prefix and the names are compared in.

## Main definitions

- `Registry.addressee?`: the command that an answer speaks of.
- `Compiled.spelledName?`: the word of a message that stands for the name.

## Main results

- `Registry.Built.addressee?_dispatch_iff`: when a message that matches goes to the command.
- `Registry.not_forall_addressee?`: a message that matches may go nowhere.
-/

namespace ChatCommand

open Template (Split)

/-- The command that an error speaks of. -/
def InvocationError.command? : InvocationError → Option String
  | notACommand | unknownCommand _ => none
  | malformed command _ | inconsistentKeyOffs command _ | invalidArguments command _
  | internal command _ => some command

/-- The command that an answer speaks of. -/
def Registry.addressee? : Except InvocationError Invocation → Option String
  | .ok invocation => some invocation.command
  | .error error => error.command?

/-- The text of the literal behind the prefix. -/
def Template.lead (template : Template) : List Char :=
  match template.tail with
  | .literal text _ => text
  | _ => []

@[simp]
theorem Template.lead_sigil_literal (text : List Char) (rest : Template) :
    (Template.sigil (.literal text rest)).lead = text := rfl

/-- The word of a message that stands for the name of the command: the first one of what stands for
the literal behind the prefix. -/
def Compiled.spelledName? (compiled : Compiled) (message : List Char) : Option (List Char) :=
  Text.firstWord? ((message.drop compiled.sigil.toList.length).take compiled.template.lead.length)

namespace Registry

variable {registry : Registry} {command : Registered} {sigil message : String} {cache : Cache}
  {word : List Char}

section Builder

variable [Pattern.Builder]

/-- Whatever a command makes of a message, the answer speaks of that command. -/
theorem addressee?_invoke (command : Registered) (sigil message : String) (cache : Cache) :
    addressee? (invoke command sigil message cache).1 = some command.definition.name := by
  unfold invoke
  rw [Cache.bind_apply]
  cases (extract sigil command.definition.arguments command.definition.source message cache).1 with
  | complete values =>
    dsimp only
    cases command.specification.run _ <;> rfl
  | _ => rfl

theorem dispatch_of_get? (trimmed : Text.trim message.toList = message.toList)
    (addressed : addressed? sigil message.toList = some word)
    (found : registry.get? (String.ofList word) = some command) :
    registry.dispatch sigil message cache = invoke command sigil message cache := by
  unfold dispatch
  simp only [trimmed, addressed, found, String.ofList_toList]

theorem addressee?_dispatch (trimmed : Text.trim message.toList = message.toList)
    (addressed : addressed? sigil message.toList = some word) :
    addressee? (registry.dispatch sigil message cache).1 =
      (registry.get? (String.ofList word)).map fun command => command.definition.name := by
  cases found : registry.get? (String.ofList word) with
  | none =>
    unfold dispatch
    simp only [trimmed, addressed, found]
    rfl
  | some command =>
    rw [dispatch_of_get? trimmed addressed found, addressee?_invoke]
    rfl

end Builder

/-! ### Messages that match -/

/-- A definition without warnings opens with its name, behind the prefix. -/
theorem exists_shape_of_clean {definition : Definition} {arguments : List Argument}
    {template : Template} (read : Template.parse arguments definition.source = .ok template)
    (clean : definition.lint template = []) :
    ∃ text rest first, template = .sigil (.literal text rest) ∧
      Text.firstWord? text = some first ∧
      Text.sameAscii first definition.name.toList = true := by
  obtain ⟨body, rfl, -⟩ := Template.lawful_of_parse read
  have opens : definition.opensWithName (.sigil body) = true := by
    by_contra other
    unfold Definition.lint at clean
    simp [other] at clean
  unfold Definition.opensWithName Template.firstWord? Template.tail at opens
  cases body with
  | literal text rest =>
    dsimp only at opens
    split at opens
    next first found => exact ⟨text, rest, first, rfl, found, opens⟩
    next => contradiction
  | _ => contradiction

/-- A message that matches opens with what stands for the prefix, and what stands for the literal
behind it follows. -/
theorem exists_opening {compiled : Compiled} {text : List Char} {rest : Template}
    (shape : compiled.template = .sigil (.literal text rest))
    (matched : (compiled.pattern.captures? message.toList).isSome = true) :
    ∃ opening spelled, ∃ after : Split compiled.sigil.toList rest,
      message.toList = opening ++ (spelled ++ after.message) ∧
      opening.map Text.fold = compiled.sigil.toList.map Text.fold ∧
      spelled.map Text.fold = text.map Text.fold ∧
      message.toList.drop compiled.sigil.toList.length = spelled ++ after.message := by
  obtain ⟨sigil, template⟩ := compiled
  obtain rfl : template = .sigil (.literal text rest) := shape
  obtain ⟨split, whole⟩ := Template.isSome_captures?_iff.mp matched
  cases split with
  | sigil opening sameOpening behind =>
    cases behind with
    | literal spelled sameText after =>
      have sized : opening.length = sigil.toList.length := by
        simpa using congrArg List.length sameOpening
      refine ⟨opening, spelled, after, whole.symm, sameOpening, sameText, ?_⟩
      rw [← whole, ← sized]
      exact List.drop_left

/-- A message that matches has a word that stands for the name, in some letter case, and the first
word behind the prefix may only go on behind it. -/
theorem exists_spelledName? {compiled : Compiled} {text first : List Char} {rest : Template}
    (shape : compiled.template = .sigil (.literal text rest))
    (named : Text.firstWord? text = some first)
    (matched : (compiled.pattern.captures? message.toList).isSome = true) :
    ∃ word extra, compiled.spelledName? message.toList = some word ∧
      word.map Text.fold = first.map Text.fold ∧
      Text.firstWord? (message.toList.drop compiled.sigil.toList.length) =
        some (word ++ extra) := by
  obtain ⟨opening, spelled, after, -, -, sameText, body⟩ := exists_opening shape matched
  obtain ⟨word, found, folded⟩ := Text.exists_firstWord?_of_map_fold sameText named
  obtain ⟨extra, goesOn⟩ := Text.exists_firstWord?_append found after.message
  refine ⟨word, extra, ?_, folded, body ▸ goesOn⟩
  have sized : compiled.template.lead.length = spelled.length := by
    rw [shape, Template.lead_sigil_literal]
    simpa using (congrArg List.length sameText).symm
  unfold Compiled.spelledName?
  rw [body, sized, List.take_left, found]

theorem addressed?_of_prefixCase
    (prefixCase : Text.sameAscii sigil.toList (message.toList.take sigil.toList.length) = true) :
    addressed? sigil message.toList =
      Text.firstWord? (message.toList.drop sigil.toList.length) := by
  have body : Text.after? sigil.toList message.toList =
      some (message.toList.drop sigil.toList.length) :=
    Text.after?_eq_some_iff.mpr ⟨_, (List.take_append_drop _ _).symm, prefixCase⟩
  unfold addressed?
  rw [body]
  rfl

/-- A message that matches goes to the command just when what was matched as its name is the first
word behind the prefix, as far as the prefix stands there in the right letters, in any ASCII case,
and the name in letters that have its lower-case form. -/
theorem Built.addressee?_dispatch_iff [Pattern.Builder] {key : String} {compiled : Compiled}
    (built : registry.Built) (registered : (key, command) ∈ registry.commands)
    (clean : command.warnings = [])
    (compiles : compile sigil command.definition.arguments command.definition.source =
      .ok compiled)
    (trimmed : Text.trim message.toList = message.toList)
    (matched : (compiled.pattern.captures? message.toList).isSome = true)
    (prefixCase : Text.sameAscii sigil.toList
      (message.toList.take sigil.toList.length) = true)
    (nameCase : ∀ word, compiled.spelledName? message.toList = some word →
      Text.lowercase (String.ofList word) = Text.lowercase command.definition.name)
    (cache : Cache) :
    (addressee? (registry.dispatch sigil message cache).1 = some command.definition.name ↔
      Text.firstWord? (message.toList.drop sigil.toList.length) =
        compiled.spelledName? message.toList) ∧
    (Text.firstWord? (message.toList.drop sigil.toList.length) =
        compiled.spelledName? message.toList →
      registry.dispatch sigil message cache = invoke command sigil message cache) := by
  have kept := built.kept registered
  obtain ⟨arguments, keptRead⟩ := kept.read
  obtain ⟨rfl, read, -⟩ := compile_eq_ok_iff.mp compiles
  have same := Template.parse_unique read keptRead
  rw [kept.warnings_eq, ← same] at clean
  obtain ⟨text, rest, first, shape, named, -⟩ := exists_shape_of_clean read clean
  obtain ⟨word, extra, spelled, -, body⟩ := exists_spelledName? shape named matched
  have addressed := (addressed?_of_prefixCase prefixCase).trans body
  have lower := nameCase word spelled
  have routed (alone : extra = []) :
      registry.get? (String.ofList (word ++ extra)) = some command := by
    rw [built.get?_eq_some_iff registered, alone, List.append_nil]
    exact lower
  have whole : Text.firstWord? (message.toList.drop compiled.sigil.toList.length) =
      compiled.spelledName? message.toList ↔ extra = [] := by
    rw [body, spelled, Option.some.injEq, List.append_right_eq_self]
  rw [whole, addressee?_dispatch trimmed addressed, Option.map_eq_some_iff]
  refine ⟨⟨?_, fun alone => ⟨command, routed alone, rfl⟩⟩, fun alone => ?_⟩
  · -- A longer word is the name of another command, if of any.
    rintro ⟨other, found, sameName⟩
    by_contra goesOn
    have longer := (built.kept (Json.Fields.mem_of_get? found)).key_eq
    rw [sameName, ← lower] at longer
    exact Text.lowercase_append_ne rfl goesOn longer
  · exact dispatch_of_get? trimmed addressed (routed alone)

/-! ### Two spellings of a command -/

/-- A command with one argument and the given syntax string. -/
def banWith (source : String) : Definition := ⟨"ban", source, none, [.required "who" "who"]⟩

theorem registry_after_banWith [Pattern.Builder] {source : String} {template : Template}
    (compiles : compile "!" (banWith source).arguments source = .ok ⟨"!", template⟩) :
    (Session.after "!" [banWith source]).registry =
      ⟨"!", [(Text.lowercase "ban", accepted (banWith source) template)]⟩ := by
  have valid : isValidName (banWith source).name = true := by cbv
  have distinct : ((banWith source).arguments.map Argument.id).Nodup := List.nodup_singleton "who"
  exact (Session.register_fresh (Session.outcome_fresh_of_compile valid distinct compiles)).1

open scoped Pattern.Limits in
/-- Under another prefix, in capitals, a message goes to the command whose pattern it matches. -/
theorem addressee?_dispatch_iff_ban : ∃ key command compiled,
    (key, command) ∈ (Session.after "!" [banWith "<prefix>ban $1"]).registry.commands ∧
      compile "bot " command.definition.arguments command.definition.source = .ok compiled ∧
      (compiled.pattern.captures? "BOT Ban Bob".toList).isSome = true ∧
      ∀ cache, (Session.after "!" [banWith "<prefix>ban $1"]).registry.dispatch "bot "
        "BOT Ban Bob" cache = invoke command "bot " "BOT Ban Bob" cache := by
  have read : Template.parse (banWith "<prefix>ban $1").arguments "<prefix>ban $1" =
      .ok (.sigil (.literal "ban ".toList (.argument 1 .nil))) := by cbv
  have registered : (Text.lowercase "ban", accepted (banWith "<prefix>ban $1")
      (.sigil (.literal "ban ".toList (.argument 1 .nil)))) ∈
        (Session.after "!" [banWith "<prefix>ban $1"]).registry.commands := by
    rw [registry_after_banWith (compile_eq_ok_iff.mpr ⟨rfl, read, by decide⟩)]
    exact List.mem_cons_self
  have compiles : compile "bot " (banWith "<prefix>ban $1").arguments "<prefix>ban $1" =
      .ok ⟨"bot ", .sigil (.literal "ban ".toList (.argument 1 .nil))⟩ :=
    compile_eq_ok_iff.mpr ⟨rfl, read, by decide⟩
  have matched : (Pattern.captures? (Compiled.pattern ⟨"bot ",
      .sigil (.literal "ban ".toList (.argument 1 .nil))⟩) "BOT Ban Bob".toList).isSome = true := by
    cbv
  have spelled : Compiled.spelledName? ⟨"bot ", .sigil (.literal "ban ".toList (.argument 1 .nil))⟩
      "BOT Ban Bob".toList = some "Ban".toList := by cbv
  refine ⟨_, _, _, registered, compiles, matched, fun cache => ?_⟩
  refine (Built.addressee?_dispatch_iff (Session.built_after _ _).1 registered (by cbv) compiles
    (by cbv) matched (by cbv) ?_ cache).2 (by cbv)
  intro word found
  obtain rfl := Option.some.inj (spelled.symm.trans found)
  cbv

open scoped Pattern.Limits in
/-- A message may match although its first word goes on behind the name. Then it goes nowhere. -/
theorem not_forall_addressee? : ¬ ∀ home definitions key command sigil compiled message,
    (key, command) ∈ (Session.after home definitions).registry.commands →
    command.warnings = [] →
    compile sigil command.definition.arguments command.definition.source = .ok compiled →
    Text.trim message.toList = message.toList →
    (compiled.pattern.captures? message.toList).isSome = true →
    addressee? ((Session.after home definitions).registry.dispatch sigil message
      (Session.after home definitions).cache).1 = some command.definition.name := by
  intro routed
  have compiles : compile "!" (banWith "<prefix>ban$1").arguments "<prefix>ban$1" =
      .ok ⟨"!", .sigil (.literal "ban".toList (.argument 1 .nil))⟩ :=
    compile_eq_ok_iff.mpr ⟨rfl, by cbv, by decide⟩
  have alone := registry_after_banWith compiles
  have registered : (Text.lowercase "ban", accepted (banWith "<prefix>ban$1")
      (.sigil (.literal "ban".toList (.argument 1 .nil)))) ∈
        (Session.after "!" [banWith "<prefix>ban$1"]).registry.commands := by
    rw [alone]
    exact List.mem_cons_self
  have answer := routed "!" [banWith "<prefix>ban$1"] _ _ "!" _ "!banbob" registered (by cbv)
    compiles (by cbv) (by cbv)
  have addressed : addressed? "!" "!banbob".toList = some "banbob".toList := by cbv
  have unknown (command : Registered) :
      Registry.get? ⟨"!", [(Text.lowercase "ban", command)]⟩
        (String.ofList "banbob".toList) = none := by cbv
  rw [addressee?_dispatch (by cbv) addressed, alone, unknown] at answer
  contradiction

end Registry

end ChatCommand
