/-
**The command line.**

Connects the command line to the outside world: files, the input, the environment, the time of day
and the terminal.
-/

import DisplayFilter.Cli.Run
import Std.Time

namespace DisplayFilter.Cli

/-- The text of a file. -/
def readHostFile (path : String) : IO (Except FileError RawText) := do
  if path.toList.contains (Char.ofNat 0) then return .error .badName
  try
    return .ok (.ofOctets (← IO.FS.readBinFile path).toList)
  catch
    | .noFileOrDirectory .. => return .error .missing
    | .permissionDenied .. => return .error .denied
    | .inappropriateType (some _) .. => return .error .notDirectory
    | .invalidArgument .. => return .error .longName
    | _ => return .error .directory

/-- The input up to its end. -/
def readHostInput : IO RawText := do
  return .ofOctets (← (← IO.getStdin).readBinToEnd).toList

/-- The time of day in hours, minutes and seconds. -/
def readHostClock : IO String := do
  let time ← Std.Time.PlainTime.now
  let part (number : Int) : String := String.ofList (Number.padded 2 number.toNat)
  return part time.hour.toInt ++ ":" ++ part time.minute.toInt ++ ":" ++ part time.second.toInt

/-- A name for a compilation: sixteen random octets in hexadecimal digits. -/
def readHostSession : IO String := do
  let octets ← IO.getRandomBytes 16
  return String.ofList (octets.toList.flatMap fun octet => Text.hexDigits 2 octet.toNat)

/-- Whether the output shows colours: only on a terminal that is not asked to do without. -/
def hostColor : IO Bool := do
  if (← IO.getEnv "NO_COLOR").isSome || (← IO.getEnv "TERM") = some "dumb" then return false
  (← IO.getStdout).isTty

/-- The outside world. -/
def outside : IO (Host IO) := do
  return {
    file := readHostFile
    input := readHostInput
    environment := fun name => IO.getEnv name
    home? := IO.getEnv "HOME"
    clock := readHostClock
    session := readHostSession
    color := ← hostColor }

end DisplayFilter.Cli

/-- Runs the command line. -/
def main (arguments : List String) : IO UInt32 := do
  let outcome ← DisplayFilter.Cli.run (← DisplayFilter.Cli.outside) arguments
  IO.print outcome.output
  IO.eprint outcome.errors
  return UInt32.ofNat outcome.status
