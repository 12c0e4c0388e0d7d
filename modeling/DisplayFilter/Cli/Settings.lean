/-
**Settings.**

A setting has the value of its flag if that is given, else that of its environment variable, else
that of the configuration file, else its default. The configuration file is the one that is named on
the command line, or the first that is found in the working directory or the home directory.

* `Settings.load`: the settings of a command line.
* `Settings.text`, `Settings.flag`: the value of a setting.
-/

import DisplayFilter.Cli.Config
import DisplayFilter.Cli.Flag
import DisplayFilter.Cli.Host

namespace DisplayFilter.Cli

/-- The settings and their defaults. -/
def defaults : List (String × String) :=
  [("code", ""), ("fields", ""), ("no-color", "false"), ("verbose", "false"), ("optimize", "true"),
    ("return-values", "false"), ("output", "text")]

/-- The environment variable of a setting. -/
def variableName (name : String) : String :=
  "DFILTER_" ++ String.ofList (name.toList.map fun character =>
    if character = '-' then '_' else character.toUpper)

/-- A constant as the text of a setting; collections have none. -/
def settingText : Constant → RawText
  | .null | .list _ | .record _ | .mapping _ | .bytes _ => ""
  | .real width value => Number.Layout.write ⟨-400, 400, 2⟩ width.format value
  | constant => constant.text

/-- A constant as the truth value of a setting; what is none reads as false. -/
def settingFlag : Constant → Bool
  | .bool value => value
  | .integer _ value => value ≠ 0
  | .real _ (.finite _ significand _) => significand ≠ 0
  | .real .. => true
  | .string text => (text.string?.bind truth?).getD false
  | _ => false

/-- The settings of a command line, the first of a name being the one that counts. -/
structure Settings where
  values : List (String × Constant)

namespace Settings

/-- The value of a setting. -/
def value (settings : Settings) (name : String) : Constant :=
  (settings.values.lookup name).getD .null

/-- The text of a setting. -/
def text (settings : Settings) (name : String) : RawText :=
  settingText (settings.value name)

/-- The truth value of a setting. -/
def flag (settings : Settings) (name : String) : Bool :=
  settingFlag (settings.value name)

variable {m : Type → Type} [Monad m]

/-- The fault of reading a configuration. -/
def reading : String := "reading config"

/-- The configuration at a path that is named on the command line. -/
def configAt (host : Host m) (path : String) : ExceptT Fault m Config := do
  let extension := ConfigFormat.extensionOf path
  match ConfigFormat.extensions.lookup extension with
  | none =>
    throw (.wrapped reading (.plain ("Unsupported Config Type " ++ Text.quote extension)))
  | some format =>
    match ← host.file path with
    | .error error => throw (.wrapped reading (.plain (error.message path)))
    | .ok text => (Config.read host.environment format text).adapt (.wrapped reading)

/-- The names of configuration files that are looked for, in order. -/
def configNames : List String :=
  ConfigFormat.extensions.map (fun entry => ".dfilter." ++ entry.1) ++ [".dfilter"]

/-- The text of the first file that can be read. -/
def firstFile (host : Host m) : List String → m (Option RawText)
  | [] => return none
  | path :: paths => do
    match ← host.file path with
    | .ok text => return some text
    | .error _ => firstFile host paths

/-- The configuration that is found without being named; there may be none. -/
def configFound (host : Host m) : ExceptT Fault m Config := do
  let home? ← host.home?
  let inHome := match home? with
    | none => []
    | some home => configNames.map fun name => home ++ "/" ++ name
  match ← (firstFile host (configNames ++ inHome) : m (Option RawText)) with
  | none => return []
  | some text => (Config.read host.environment .yaml text).adapt (.wrapped reading)

/-- The configuration of a command line. -/
def config (host : Host m) (arguments : Arguments) : ExceptT Fault m Config :=
  let path := (arguments.value? "config").getD ""
  if path = "" then configFound host else configAt host path

/-- The value of a setting from the command line, the environment, the configuration or the
defaults. -/
def valueOf (host : Host m) (arguments : Arguments) (config : Config) (name default : String) :
    m Constant := do
  if let some value := arguments.value? name then return .string value
  match ← host.environment (variableName name) with
  | some value => if value ≠ "" then return .string value
  | none => pure ()
  return (config.value? name).getD (.string default)

/-- The settings of a command line. -/
def load (host : Host m) (arguments : Arguments) : ExceptT Fault m Settings := do
  let config ← config host arguments
  let values ← defaults.mapM fun (name, default) => do
    return (name, ← (valueOf host arguments config name default : m Constant))
  return ⟨values⟩

end Settings

end DisplayFilter.Cli
