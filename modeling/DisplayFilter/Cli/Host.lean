/-
**What a command line runs on.**

The command line needs files, its input, the environment and the time of day. A `Host` provides them
in some monad, so that the command line itself can be run, and reasoned about, without the outside
world.

* `Host`: what is provided.
* `FileError`: why a file cannot be read.
-/

import DisplayFilter.RawText

namespace DisplayFilter.Cli

/-- Why a file cannot be read. -/
inductive FileError where
  | missing
  | directory
  | denied
  /-- The path goes through a file as if it were a directory. -/
  | notDirectory
  | longName
  /-- The path holds a zero character. -/
  | badName
deriving DecidableEq, Repr

/-- The wording of a file error. -/
def FileError.message (path : String) : FileError → String
  | .missing => "open " ++ path ++ ": no such file or directory"
  | .directory => "read " ++ path ++ ": is a directory"
  | .denied => "open " ++ path ++ ": permission denied"
  | .notDirectory => "open " ++ path ++ ": not a directory"
  | .longName => "open " ++ path ++ ": file name too long"
  | .badName => "open " ++ path ++ ": invalid argument"

/-- What a command line runs on. -/
structure Host (m : Type → Type) where
  /-- The text of the file at a path. -/
  file : String → m (Except FileError RawText)
  /-- The input up to its end. -/
  input : m RawText
  /-- The value of an environment variable. -/
  environment : String → m (Option String)
  /-- The home directory. -/
  home? : m (Option String)
  /-- The time of day, as it stands at the start of log lines. -/
  clock : m String
  /-- The name of this compilation in log lines. -/
  session : m String
  /-- Whether the output shows colours. -/
  color : Bool

end DisplayFilter.Cli
