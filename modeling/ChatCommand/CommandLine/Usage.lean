import ChatCommand.Text.DecimalDigit

/-!
# Usage of a command

A command is called with switches, which begin with two dashes, and with operands. A switch may
take a value; a value, like an operand, has to be of some kind.

## Main definitions

- `ValueKind`: what values have to be.
- `Switch`, `Operand`: the parts of a call.
- `Usage`: a command and how it is called.
- `Usage.render`: the text that explains a command.
-/

namespace ChatCommand.CommandLine

/-- What a value has to be. -/
inductive ValueKind where
  | text
  /-- A path, which is never empty. -/
  | path
  /-- A number from zero up to below 2^64. -/
  | count
  | oneOf (choices : List String)
  deriving DecidableEq, Repr

/-- The number that a text writes: decimal digits, perhaps behind a plus sign. -/
def count? (text : String) : Option Nat :=
  let digits := match text.toList with
    | '+' :: digits => digits
    | digits => digits
  if !digits.isEmpty && digits.all Char.isDigit then some (Text.natOfDigits digits) else none

/-- Whether a value is of a kind. -/
def ValueKind.accepts : ValueKind → String → Bool
  | text, _ => true
  | path, value => !value.isEmpty
  | count, value => (count? value).any (· < UInt64.size)
  | oneOf choices, value => value ∈ choices

/-- The value of a switch. -/
structure SwitchValue where
  placeholder : String
  kind : ValueKind
  /-- The value of a switch that is not given. -/
  default : Option String
  deriving DecidableEq, Repr

/-- A switch. -/
structure Switch where
  /-- What follows the two dashes. -/
  name : String
  /-- What follows a single dash. -/
  letter : Option Char
  value : Option SwitchValue
  required : Bool
  repeatable : Bool
  help : String
  deriving DecidableEq, Repr

/-- What operands are. -/
structure Operand where
  placeholder : String
  kind : ValueKind
  required : Bool
  repeatable : Bool
  help : String
  deriving DecidableEq, Repr

/-- A command and how it is called. -/
structure Usage where
  /-- The words that call it. -/
  words : List String
  about : String
  /-- The commands inside, with what they are about. -/
  commands : List (String × String)
  operand : Option Operand
  switches : List Switch
  deriving DecidableEq, Repr

namespace Usage

/-- The switch with a name. -/
def named? (usage : Usage) (name : String) : Option Switch :=
  usage.switches.find? fun switch => switch.name = name

/-- The switch with a letter. -/
def lettered? (usage : Usage) (letter : Char) : Option Switch :=
  usage.switches.find? fun switch => switch.letter = some letter

end Usage

/-! ### Explanations -/

/-- A switch with the place of its value. -/
def Switch.form (switch : Switch) : String :=
  match switch.value with
  | none => "--" ++ switch.name
  | some value => "--" ++ switch.name ++ " <" ++ value.placeholder ++ ">"

/-- A switch with its letter, or with the room for one. -/
def Switch.entry (switch : Switch) : String :=
  match switch.letter with
  | none => "    " ++ switch.form
  | some letter => "-" ++ String.singleton letter ++ ", " ++ switch.form

/-- What a switch is for, with its default and its choices. -/
def Switch.explanation (switch : Switch) : String :=
  match switch.value with
  | none => switch.help
  | some value =>
    let default := value.default.elim "" fun text => " [default: " ++ text ++ "]"
    let choices := match value.kind with
      | .oneOf choices => " [possible values: " ++ ", ".intercalate choices ++ "]"
      | _ => ""
    switch.help ++ default ++ choices

/-- The place of operands. -/
def Operand.form (operand : Operand) : String :=
  let place :=
    if operand.required then "<" ++ operand.placeholder ++ ">"
    else "[" ++ operand.placeholder ++ "]"
  if operand.repeatable then place ++ "..." else place

namespace Usage

/-- Rows of two columns under a title. -/
def table (title : String) (rows : List (String × String)) : String :=
  let width := (rows.map fun row => row.1.length).foldl max 0
  let line (row : String × String) : String :=
    "  " ++ row.1 ++ String.ofList (List.replicate (width - row.1.length + 2) ' ') ++ row.2 ++ "\n"
  if rows.isEmpty then "" else "\n" ++ title ++ ":\n" ++ String.join (rows.map line)

/-- How a command is called, on one line. -/
def line (usage : Usage) : String :=
  let free := usage.switches.any fun switch => !switch.required && switch.letter.isNone
  " ".intercalate (usage.words ++ (if free then ["[OPTIONS]"] else []) ++
    (usage.switches.filter Switch.required).map Switch.form ++
    (usage.operand.map Operand.form).toList ++
    if usage.commands.isEmpty then [] else ["<COMMAND>"])

/-- The text that explains a command. -/
def render (usage : Usage) : String :=
  usage.about ++ "\n\nUsage: " ++ usage.line ++ "\n" ++
    Usage.table "Commands" usage.commands ++
    Usage.table "Arguments" (usage.operand.toList.map fun o => (o.form, o.help)) ++
    Usage.table "Options" (usage.switches.map fun s => (s.entry, s.explanation))

end Usage

end ChatCommand.CommandLine
