/-
**Command-line flags.**

A flag has a long name behind two hyphens and may have a letter behind one. A switch is turned on
by its name alone; every flag takes a value behind an equals sign, and one that is no switch takes
the next argument otherwise. Letters of switches can be put together. All other arguments are
positional, and so is everything behind two hyphens that stand alone.

* `Flag`: the flags.
* `FlagError`: what can be wrong with the flags of a command line.
* `Flag.parse`: the values given and the positional arguments.
-/

import DisplayFilter.Text.Quoted

namespace DisplayFilter.Cli

/-- A flag: its name, its letter, and whether it is a switch. -/
structure Flag where
  name : String
  short? : Option Char
  isSwitch : Bool
deriving DecidableEq, Repr

/-- What is wrong with the flags of a command line. -/
inductive FlagError where
  | malformed (argument : String)
  | unknown (name : String)
  | unknownLetter (letter : Char) (letters : String)
  | missingValue (argument : String)
  | missingLetterValue (letter : Char) (letters : String)
  | badSwitch (flag : Flag) (value : String)
deriving DecidableEq, Repr

/-- A flag as messages name it. -/
def Flag.title (flag : Flag) : String :=
  match flag.short? with
  | some letter => "-" ++ String.ofList [letter] ++ ", --" ++ flag.name
  | none => "--" ++ flag.name

/-- The wording of a flag error. -/
def FlagError.message : FlagError → String
  | .malformed argument => "bad flag syntax: " ++ argument
  | .unknown name => "unknown flag: --" ++ name
  | .unknownLetter letter letters =>
    "unknown shorthand flag: " ++ Text.quoteSingle (Text.leadingOctet letter) ++ " in -" ++ letters
  | .missingValue argument => "flag needs an argument: " ++ argument
  | .missingLetterValue letter letters =>
    "flag needs an argument: " ++ Text.quoteSingle letter ++ " in -" ++ letters
  | .badSwitch flag value =>
    "invalid argument " ++ Text.quote value ++ " for " ++ Text.quote flag.title ++
      " flag: strconv.ParseBool: parsing " ++ Text.quote value ++ ": invalid syntax"

/-- The truth value that a text stands for. -/
def truth? (text : String) : Option Bool :=
  if ["1", "t", "T", "TRUE", "true", "True"].contains text then some true
  else if ["0", "f", "F", "FALSE", "false", "False"].contains text then some false
  else none

/-- The text of a truth value. -/
def truthText (value : Bool) : String :=
  if value then "true" else "false"

/-- A value that a flag was given. -/
structure Given where
  name : String
  value : String
deriving DecidableEq, Repr

/-- The values that flags were given, in order, and the positional arguments. -/
structure Arguments where
  given : List Given
  positional : List String
deriving DecidableEq, Repr

/-- The value last given to a flag. -/
def Arguments.value? (arguments : Arguments) (name : String) : Option String :=
  (arguments.given.reverse.find? (·.name = name)).map (·.value)

namespace Flag

/-- The flag of a name. -/
def named? (flags : List Flag) (name : String) : Option Flag :=
  flags.find? (·.name = name)

/-- The flag of a letter. -/
def lettered? (flags : List Flag) (letter : Char) : Option Flag :=
  flags.find? (·.short? = some letter)

/-- Gives a flag a value; a switch takes truth values only. -/
def give (flag : Flag) (value : String) : Except FlagError Given :=
  if flag.isSwitch then
    match truth? value with
    | some truth => .ok ⟨flag.name, truthText truth⟩
    | none => .error (.badSwitch flag value)
  else .ok ⟨flag.name, value⟩

/-- What an argument with flags gives: values, and the flag that waits for the next argument, with
the error of there being none. -/
structure Reading where
  given : List Given
  waiting? : Option (Flag × FlagError)

/-- The flag of an argument with a long name; `text` is what stands behind the hyphens. -/
def readLong (flags : List Flag) (argument : String) (text : List Char) :
    Except FlagError Reading := do
  if text.head? = some '-' || text.head? = some '=' then throw (.malformed argument)
  let name := String.ofList (text.takeWhile (· ≠ '='))
  match named? flags name, text.dropWhile (· ≠ '=') with
  | none, _ => throw (.unknown name)
  | some flag, _ :: value => return ⟨[← flag.give (String.ofList value)], none⟩
  | some flag, [] =>
    if flag.isSwitch then return ⟨[← flag.give "true"], none⟩
    return ⟨[], some (flag, .missingValue argument)⟩

/-- Whether letters are none of flags but meant for a test of the program. -/
def areForTest (letters : List Char) : Bool :=
  "test.".toList.isPrefixOf letters

/-- The flags of letters that are put together. Letters for a test are passed over, wherever they
start. -/
def readLetters (flags : List Flag) : List Char → Except FlagError Reading
  | [] => .ok ⟨[], none⟩
  | letter :: rest =>
    if areForTest (letter :: rest) then .ok ⟨[], none⟩
    else
      match lettered? flags letter with
      | none => .error (.unknownLetter letter (String.ofList (letter :: rest)))
      | some flag =>
        match rest with
        | '=' :: first :: value => do
          return ⟨[← flag.give (String.ofList (first :: value))], none⟩
        | _ =>
          if flag.isSwitch then do
            let given ← flag.give "true"
            let further ← readLetters flags rest
            return { further with given := given :: further.given }
          else if rest.isEmpty then
            .ok ⟨[], some (flag, .missingLetterValue letter (String.ofList [letter]))⟩
          else do return ⟨[← flag.give (String.ofList rest)], none⟩

/-- What an argument gives; nothing if it is positional. -/
def readArgument (flags : List Flag) (argument : String) : Except FlagError (Option Reading) :=
  match argument.toList with
  | '-' :: '-' :: text => some <$> readLong flags argument text
  | ['-'] => .ok none
  | '-' :: letters => some <$> readLetters flags letters
  | _ => .ok none

/-- The values given and the positional arguments of a command line. -/
def parse (flags : List Flag) : List String → Except FlagError Arguments
  | [] => .ok ⟨[], []⟩
  | argument :: rest => do
    if argument = "--" then return ⟨[], rest⟩
    match ← readArgument flags argument with
    | none =>
      let further ← parse flags rest
      return { further with positional := argument :: further.positional }
    | some reading =>
      match reading.waiting?, rest with
      | none, rest =>
        let further ← parse flags rest
        return { further with given := reading.given ++ further.given }
      | some (_, missing), [] => throw missing
      | some (flag, _), value :: rest =>
        let given ← flag.give value
        let further ← parse flags rest
        return { further with given := reading.given ++ given :: further.given }

end Flag

end DisplayFilter.Cli
