import ChatCommand.Text.Ascii

/-!
# Files

Files are known by what reading at a path yields: a text, or the reason why there is none. A
directory whose contents are known is such a source of texts.

## Main definitions

- `Files`: what reading at a path yields.
- `Directory.read`: the files of a directory.
- `extension?`: the extension of a path.
-/

namespace ChatCommand

/-- Why no text is read at a path. -/
inductive FileProblem where
  /-- Nothing is there. -/
  | missing
  /-- A file stands where the path needs a directory. -/
  | notADirectory
  /-- A directory is there. -/
  | isADirectory
  | other (detail : String)
  deriving DecidableEq, Repr

/-- The sentence for a problem. -/
def FileProblem.message : FileProblem → String
  | missing => "No such file or directory (os error 2)"
  | notADirectory => "Not a directory (os error 20)"
  | isADirectory => "Is a directory (os error 21)"
  | other detail => detail

/-- What reading at a path yields. -/
abbrev Files := String → Except FileProblem String

/-- The texts of files by the names that lead to them. -/
structure Directory where
  files : List (List String × String)

namespace Directory

/-- The names and signs of a path. -/
def steps (path : String) : List String := path.splitOn "/"

/-- The directory with files at the given paths. -/
def ofList (files : List (String × String)) : Directory :=
  ⟨files.map fun file => (steps file.1, file.2)⟩

/-- Whether a file is somewhere below a place. -/
def hasBelow (directory : Directory) (place : List String) : Bool :=
  directory.files.any fun file => place.isPrefixOf file.1

/-- What the rest of a path leads to from outside the directory, where only the directories around
it are known. -/
def outside (rest : List String) : Except FileProblem String :=
  if rest.all (· ∈ ["", ".", ".."]) then .error .isADirectory else .error .missing

/-- What the rest of a path leads to from a directory inside. -/
def follow (directory : Directory) (here : List String) : List String → Except FileProblem String
  | [] => .error .isADirectory
  | step :: rest =>
    if step = "" ∨ step = "." then directory.follow here rest
    else if step = ".." then
      if here.isEmpty then outside rest else directory.follow here.dropLast rest
    else
      let place := here ++ [step]
      -- A file ends the path; not even a slash can follow its name.
      match directory.files.lookup place with
      | some text => if rest.isEmpty then .ok text else .error .notADirectory
      | none => if directory.hasBelow place then directory.follow place rest else .error .missing

/-- What reading at a path yields. -/
def read (directory : Directory) : Files := fun path =>
  match steps path with
  | [""] => .error .missing
  | "" :: rest => outside rest
  | names => directory.follow [] names

end Directory

/-- The extension of a path: what follows the last dot of the last name, unless the name begins
with that dot. -/
def extension? (path : String) : Option String :=
  let reversed := path.toList.reverse.takeWhile (· ≠ '/')
  match reversed.dropWhile (· ≠ '.') with
  | [] | [_] => none
  | _ => some (String.ofList (reversed.takeWhile (· ≠ '.')).reverse)

end ChatCommand
