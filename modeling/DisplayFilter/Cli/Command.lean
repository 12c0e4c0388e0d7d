/-
**Commands.**

The first argument that is neither a flag nor the value of one names the command. Global flags may
stand on either side of it; a command can have flags of its own.

* `Command.find`: the command of a command line and its arguments.
* `Command.flags`: the flags that a command takes.
-/

import DisplayFilter.Cli.Flag
import DisplayFilter.EditDistance
import DisplayFilter.Fault
import DisplayFilter.Text.Lower

namespace DisplayFilter.Cli

/-- A command. -/
inductive Command where
  /-- No command. -/
  | none
  /-- Prints the program of a filter. -/
  | compile
  /-- Lists the fields that a filter reads. -/
  | fields
  /-- Explains the commands. -/
  | help
deriving DecidableEq, Repr

/-- The flags that every command takes. -/
def globalFlags : List Flag :=
  [⟨"config", .none, false⟩, ⟨"code", some 'c', false⟩, ⟨"stdin", .none, true⟩,
    ⟨"fields", .none, false⟩, ⟨"no-color", .none, true⟩, ⟨"verbose", some 'v', true⟩]

/-- The flag that asks for an explanation. -/
def helpFlag : Flag := ⟨"help", some 'h', true⟩

namespace Command

/-- The flags of a command. -/
def flags : Command → List Flag
  | .none => globalFlags ++ [helpFlag, ⟨"version", Option.none, true⟩]
  | .compile =>
    globalFlags ++ [helpFlag, ⟨"optimize", Option.none, true⟩,
      ⟨"return-values", Option.none, true⟩, ⟨"output", some 'o', false⟩]
  | .fields | .help => globalFlags ++ [helpFlag]

/-- The command of a name. -/
def ofName? : String → Option Command
  | "compile" => some .compile
  | "fields" => some .fields
  | "help" | "completion" => some .help
  | _ => Option.none

/-- Whether an argument is a flag whose value is the next argument. -/
def takesNext (argument : String) : Bool :=
  match argument.toList with
  | '-' :: '-' :: name =>
    !name.contains '=' &&
      !((Flag.named? globalFlags (String.ofList name)).map (·.isSwitch)).getD false
  | ['-', letter] =>
    letter ≠ '=' && letter.toNat < 128 &&
      !((Flag.lettered? globalFlags letter).map (·.isSwitch)).getD false
  | _ => false

/-- The arguments that are neither flags nor the values of flags. -/
def words : List String → List String
  | [] => []
  | argument :: rest =>
    if argument = "--" then []
    else if takesNext argument then
      match rest with
      | [] => []
      | _ :: rest => if rest.isEmpty then [] else words rest
    else if argument = "" || argument.startsWith "-" then words rest
    else argument :: words rest

/-- The arguments without the first word that is the given one. -/
def withoutWord (word : String) : List String → List String
  | [] => []
  | argument :: rest =>
    if argument = "--" then argument :: rest
    else if takesNext argument then
      match rest with
      | [] => [argument]
      | value :: rest => argument :: value :: withoutWord word rest
    else if argument = word then rest
    else argument :: withoutWord word rest

/-- The names that are suggested in place of an unknown one: those that are within two edits of it
and those that it starts. -/
def suggestions (name : String) : List String :=
  let written := Text.lowerCase name
  let octets (text : String) : List Char :=
    text.toUTF8.toList.map fun octet => Char.ofNat octet.toNat
  ["compile", "fields", "completion"].filter fun command =>
    editDistance (octets written) (octets command) ≤ 2 || command.startsWith written

/-- The fault of an unknown command. -/
def unknown (name : String) : Fault :=
  let similar := suggestions name
  let hint :=
    if similar.isEmpty then ""
    else "\n\nDid you mean this?\n" ++ String.join (similar.map fun name => "\t" ++ name ++ "\n")
  .plain ("unknown command " ++ Text.quote name ++ " for \"dfilter\"" ++ hint)

/-- The command of a command line, and its arguments without the command's name. -/
def find (arguments : List String) : Except Fault (Command × List String) :=
  match words arguments with
  | [] => .ok (.none, arguments)
  | word :: _ =>
    match ofName? word with
    | some command => .ok (command, withoutWord word arguments)
    | Option.none => .error (unknown word)

end Command

end DisplayFilter.Cli
