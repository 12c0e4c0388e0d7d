/-
**Running a command line.**

A command line names a command and where its filter comes from: a file, the input, or the text of a
setting. The `compile` command prints the program of the filter, the `fields` command a table of the
fields that the program reads. Faults go to the error output and decide the exit status.

* `Outcome`: what a command line leaves behind.
* `run`: runs a command line.
-/

import DisplayFilter.Cli.Command
import DisplayFilter.Cli.Settings
import DisplayFilter.FieldFile
import DisplayFilter.Filter.Document
import DisplayFilter.Program.Output
import DisplayFilter.Text.Columns

namespace DisplayFilter.Cli

/-- What a command line leaves behind. -/
structure Outcome where
  status : Nat
  output : String
  errors : String
deriving DecidableEq, Repr

/-- The outcome of a success. -/
def Outcome.success (output : String) : Outcome := ⟨0, output, ""⟩

/-- The outcome of a fault. -/
def Outcome.failure (color : Bool) (fault : Fault) : Outcome :=
  ⟨fault.exitStatus, "", Text.paint color [.foreground 31] fault.report ++ "\n"⟩

/-- The outcome with lines of a log before the other errors. -/
def Outcome.withLog (outcome : Outcome) (log : String) : Outcome :=
  { outcome with errors := log ++ outcome.errors }

/-- The version of the program. -/
def versionText : String :=
  "dfilter version dev (commit unknown, built unknown)\n"

/-- The explanation of the commands. -/
def helpText : String :=
  "dfilter compiles display filter expression trees, written in YAML,\n" ++
    "into bytecode for the filter VM and prints the resulting program.\n\n" ++
    "  dfilter compile [tree.yaml]  Compile a filter tree and print the program\n" ++
    "  dfilter fields [tree.yaml]   List the fields a filter reads\n"

/-- A line of the log for an event. -/
def logLine (clock session : String) (event : CompileEvent) : String :=
  let values := (event.numbers.map fun (name, number) => (name, Number.decimal number)) ++
    [("session", session)]
  let sorted := values.mergeSort fun first second => first.1 ≤ second.1
  clock ++ " DBG " ++ event.message ++
    String.join (sorted.map fun (name, value) => " " ++ name ++ "=" ++ value) ++ "\n"

/-- The table of the fields that a program reads. -/
def fieldTable (program : Program) : String :=
  let line (field : Field) : RawText :=
    .ofString (Number.decimal field.id ++ "\t") ++ field.abbreviation ++ "\t" ++ field.name ++ "\n"
  (Text.alignColumns (.join .empty (program.interesting.map line))).shown

variable {m : Type → Type} [Monad m]

/-- The text of the filter, from the one place that the command line names. -/
def treeSource (host : Host m) (settings : Settings) (arguments : Arguments) :
    ExceptT Fault m RawText := do
  let code := (arguments.value? "code").isSome
  let input := (arguments.value? "stdin").isSome
  let path? := arguments.positional.head?
  if (path?.isSome && (code || input)) || (code && input) then
    throw (.plain "multiple input sources specified")
  if input then return ← host.input
  match path? with
  | some path =>
    match ← host.file path with
    | .ok text => return text
    | .error error => throw (.plain (error.message path))
  | none =>
    let text := settings.text "code"
    if text.isEmpty then throw (.plain "no filter tree provided")
    return text

/-- The field table that the settings name; there may be none. -/
def fieldRegistry (host : Host m) (settings : Settings) : ExceptT Fault m (Option Table) := do
  let path := (settings.text "fields").shown
  if path = "" then return none
  match ← host.file path with
  | .error .directory => throw (.wrapped path (.plain (FileError.directory.message path)))
  | .error error => throw (.plain (error.message path))
  | .ok text =>
    match FieldFile.load text with
    | .ok table => return some table
    | .error fault => throw (.wrapped path fault)

/-- The options of a compilation that the settings make. -/
def filterOptions (settings : Settings) : List FilterOption :=
  [.optimize (settings.flag "optimize"), .returnValues (settings.flag "return-values")] ++
    if settings.flag "verbose" then [.log .debug] else []

/-- The program of the filter and the log of its compilation. -/
def compileSource (host : Host m) (settings : Settings) (arguments : Arguments) :
    ExceptT Fault m (Program × String) := do
  let source ← treeSource host settings arguments
  let table? ← fieldRegistry host settings
  let (program, events, _) ←
    ExceptT.mk (pure (compileDocument table? (filterOptions settings) source))
  let clock ← host.clock
  let session ← host.session
  return (program, String.join (events.map (logLine clock session)))

/-- What a command prints of a program. -/
def printed (command : Command) (settings : Settings) (color : Bool) (program : Program) :
    Except Fault String :=
  match command with
  | .compile => program.output color (settings.text "output").shown
  | _ => .ok (fieldTable program)

/-- Runs a command with its settings. -/
def execute (host : Host m) (command : Command) (settings : Settings) (arguments : Arguments) :
    m Outcome := do
  let color := host.color && !settings.flag "no-color"
  match ← (compileSource host settings arguments).run with
  | .error fault => return .failure color fault
  | .ok (program, log) =>
    match printed command settings color program with
    | .ok output => return (Outcome.success output).withLog log
    | .error fault => return (Outcome.failure color fault).withLog log

/-- Runs a command with its flags read. -/
def runCommand (host : Host m) (command : Command) (arguments : Arguments) : m Outcome := do
  if arguments.value? "help" = some "true" || command = .help then
    return .success helpText
  if command = .none then
    return .success (if arguments.value? "version" = some "true" then versionText else helpText)
  match ← (Settings.load host arguments).run with
  | .error fault => return .failure host.color fault
  | .ok settings =>
    let count := arguments.positional.length
    if 1 < count then
      return .failure host.color
        (.plain ("accepts at most 1 arg(s), received " ++ Number.decimal count))
    execute host command settings arguments

/-- Runs a command line. -/
def run (host : Host m) (commandLine : List String) : m Outcome :=
  match Command.find commandLine with
  | .error fault => return .failure host.color fault
  | .ok (command, rest) =>
    match Flag.parse command.flags rest with
    | .error error => return .failure host.color (.plain error.message)
    | .ok arguments => runCommand host command arguments

end DisplayFilter.Cli
