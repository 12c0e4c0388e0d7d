/-
**The log of a compilation.**

The events of a compilation can be logged. Each has a level, a message and named numbers; a log
shows the events at or above its own level.
-/

import DisplayFilter.Compiler

namespace DisplayFilter

/-- How much a log shows. -/
inductive LogLevel where
  | trace
  | debug
  | info
deriving DecidableEq, Repr

/-- The place of a level among the levels. -/
def LogLevel.rank : LogLevel → Nat
  | .trace => 0
  | .debug => 1
  | .info => 2

/-- The name of a level. -/
def LogLevel.name : LogLevel → String
  | .trace => "trace"
  | .debug => "debug"
  | .info => "info"

namespace CompileEvent

/-- The level of an event: single changes are traced, sums are for debugging. -/
def level : CompileEvent → LogLevel
  | .branch _ => .trace
  | .optimized _ => .debug
  | .compiled .. => .debug

/-- The message of an event. -/
def message : CompileEvent → String
  | .branch (.disabled _) => "branch to next instruction replaced with NO_OP"
  | .branch (.advanced ..) => "branch target advanced"
  | .optimized _ => "optimized filter"
  | .compiled .. => "compiled filter"

/-- The named numbers of an event. -/
def numbers : CompileEvent → List (String × Int)
  | .branch (.disabled index) => [("insn", index)]
  | .branch (.advanced index old new) => [("insn", index), ("from", old), ("to", new)]
  | .optimized changes => [("rewrites", changes)]
  | .compiled instructions registers interesting =>
    [("instructions", instructions), ("registers", registers),
      ("interesting_fields", interesting)]

end CompileEvent

/-- The events that a log of a level shows; without a log there are none. -/
def logged (level? : Option LogLevel) (events : List CompileEvent) : List CompileEvent :=
  match level? with
  | none => []
  | some level => events.filter fun event => level.rank ≤ event.level.rank

end DisplayFilter
