import ChatCommand.CommandLine.Usage

/-!
# Words of a command line

The words behind a command are taken apart into switches with their values and into operands. A
value is checked when the next word is read, or at the end.

## Main definitions

- `Misuse`: what is wrong with the words of a command line.
- `Given`: the switches and operands that are given.
- `Usage.take`: takes words apart.
-/

namespace ChatCommand.CommandLine

/-- What is wrong with the words of a command line. -/
inductive Misuse where
  | unknownSwitch (word : String)
  | missingValue (switch : String)
  | unexpectedValue (switch : String)
  | refusedValue (value placeholder : String)
  | repeated (switch : String)
  | unexpectedOperand (word : String)
  | missing (part : String)
  | noCommand
  | unknownCommand (word : String)
  deriving DecidableEq, Repr

/-- The sentence for a misuse. -/
def Misuse.message : Misuse → String
  | unknownSwitch word => "unexpected argument '" ++ word ++ "' found"
  | missingValue switch => "a value is required for '" ++ switch ++ "' but none was supplied"
  | unexpectedValue switch => "unexpected value for '" ++ switch ++ "' found"
  | refusedValue value placeholder =>
    "invalid value '" ++ value ++ "' for '" ++ placeholder ++ "'"
  | repeated switch => "the argument '" ++ switch ++ "' cannot be used multiple times"
  | unexpectedOperand word => "unexpected argument '" ++ word ++ "' found"
  | missing part => "the required argument '" ++ part ++ "' was not provided"
  | noCommand => "a command is required but none was provided"
  | unknownCommand word => "unrecognized command '" ++ word ++ "'"

/-- Why the words of a command line are not carried out. -/
inductive Halt where
  /-- A command is to be explained. -/
  | help (usage : Usage)
  | misuse (misuse : Misuse)
  deriving DecidableEq, Repr

/-- A word by its form. -/
inductive Word where
  /-- Two dashes, behind which all words are operands. -/
  | divider
  /-- A switch by its name, perhaps with a value behind an equals sign. -/
  | name (name : String) (value : Option String)
  /-- A switch by its letter, and the letters behind it. -/
  | letters (first : Char) (rest : List Char)
  | plain
  deriving DecidableEq, Repr

/-- The form of a word. -/
def Word.of (word : String) : Word :=
  match word.toList with
  | ['-', '-'] => divider
  | '-' :: '-' :: rest =>
    let value := match rest.dropWhile (· ≠ '=') with
      | [] => none
      | _ :: value => some (String.ofList value)
    name (String.ofList (rest.takeWhile (· ≠ '='))) value
  | '-' :: first :: rest => letters first rest
  | _ => plain

/-- The switches and operands that are given, the last ones first. -/
structure Given where
  switches : List (Switch × String)
  /-- A switch with a value that is not checked yet. -/
  unchecked : Option (Switch × String)
  operands : List String
  deriving DecidableEq, Repr

namespace Given

/-- Nothing is given. -/
def empty : Given := ⟨[], none, []⟩

/-- The values of a switch in order. -/
def values (given : Given) (name : String) : List String :=
  (given.switches.reverse.filter fun entry => entry.1.name = name).map Prod.snd

/-- The value of a switch. -/
def value? (given : Given) (name : String) : Option String := (given.values name).head?

/-- Whether a switch is given. -/
def has (given : Given) (name : String) : Bool := !(given.values name).isEmpty

/-- Whether the value of a switch is of the kind that it has to be. -/
def fits (switch : Switch) (value : String) : Bool :=
  switch.value.all fun form => form.kind.accepts value

/-- Checks the last value. -/
def settle (given : Given) : Except Halt Given :=
  match given.unchecked with
  | none => .ok given
  | some (switch, value) =>
    if !fits switch value then .error (.misuse (.refusedValue value switch.form))
    else if !switch.repeatable && given.has switch.name then
      .error (.misuse (.repeated switch.form))
    else .ok ⟨(switch, value) :: given.switches, none, given.operands⟩

/-- Adds a switch with a value that is still to be checked. -/
def add (given : Given) (switch : Switch) (value : String) : Except Halt Given := do
  return { ← given.settle with unchecked := some (switch, value) }

/-- Adds an operand. -/
def addOperand (given : Given) (usage : Usage) (word : String) : Except Halt Given := do
  let given ← given.settle
  match usage.operand with
  | none => .error (.misuse (.unexpectedOperand word))
  | some operand =>
    if !operand.kind.accepts word then .error (.misuse (.refusedValue word operand.form))
    else if !operand.repeatable && !given.operands.isEmpty then
      .error (.misuse (.unexpectedOperand word))
    else .ok { given with operands := word :: given.operands }

/-- Requires the value of a switch. -/
def require (given : Given) (name : String) : Except Halt String :=
  match given.value? name with
  | some value => .ok value
  | none => .error (.misuse (.missing ("--" ++ name)))

end Given

namespace Usage

/-- The name of the switch that asks for an explanation. -/
def helpName : String := "help"

/-- Adds a switch that takes no value, or explains the command. -/
def takeFlag (usage : Usage) (given : Given) (switch : Switch) : Except Halt Given := do
  let given ← given.settle
  if switch.name = helpName then .error (.help usage) else (← given.add switch "").settle

/-- Adds a switch by its letter. -/
def takeLetter (usage : Usage) (given : Given) (word : String) (letter : Char) :
    Except Halt Given :=
  match usage.lettered? letter with
  | none => .error (.misuse (.unknownSwitch word))
  | some switch => usage.takeFlag given switch

/-- Takes words apart. Where commands are expected, this ends at the first word that is neither a
switch nor a value; the rest of the words is left over, and the last value unchecked. -/
def take (usage : Usage) (given : Given) : List String → Except Halt (Given × List String)
  | [] => do return (← given.settle, [])
  | word :: rest =>
    match Word.of word with
    | .divider => do
      let given ← rest.foldlM (fun given word => given.addOperand usage word) given
      return (← given.settle, [])
    | .name name attached =>
      match usage.named? name with
      | none => .error (.misuse (.unknownSwitch word))
      | some switch =>
        match switch.value, attached, rest with
        | none, some _, _ => .error (.misuse (.unexpectedValue switch.form))
        | none, none, rest => do usage.take (← usage.takeFlag given switch) rest
        | some _, some value, rest => do usage.take (← (← given.add switch value).settle) rest
        -- What looks like a switch is not taken for a value, unless it is attached.
        | some _, none, value :: rest =>
          if Word.of value = .plain then do usage.take (← given.add switch value) rest
          else .error (.misuse (.missingValue switch.form))
        | some _, none, [] => .error (.misuse (.missingValue switch.form))
    | .letters first more => do
      usage.take (← (first :: more).foldlM (fun given => usage.takeLetter given word) given) rest
    | .plain =>
      -- Commands and operands exclude each other.
      if usage.commands.isEmpty then do usage.take (← given.addOperand usage word) rest
      else .ok (given, word :: rest)

end Usage

end ChatCommand.CommandLine
