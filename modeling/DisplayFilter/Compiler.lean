/-
**Compiling filter trees.**

A tree is validated, code is generated for its root, a final instruction returns the result, the
branches are optimized if asked for, and the program is verified.

* `CompileConfig`: what a compilation is asked to do.
* `compileTree`: the code of a tree and the log of its compilation.
* `compile`: the program of a tree.
-/

import DisplayFilter.Compile.Predicate
import DisplayFilter.Optimizer
import DisplayFilter.Validation

namespace DisplayFilter

/-- What a compilation is asked to do. -/
structure CompileConfig where
  /-- Tells which fields share an abbreviation. -/
  registry : Registry
  /-- Whether the branches are optimized. -/
  optimize : Bool
  /-- Whether a bare field at the root is loaded and returned. -/
  returnValues : Bool
  /-- Whether the tree is compiled without being validated first. -/
  skipValidation : Bool

/-- An event of a compilation that a log may show. -/
inductive CompileEvent where
  | branch (change : BranchChange)
  | optimized (changes : Nat)
  | compiled (instructions registers interesting : Nat)
deriving DecidableEq, Repr

/-- The code for a root: its predicate, and the instruction that returns what it computed. -/
def generate (registry : Registry) (returnValues : Bool) (root : Node) : Gen Unit := do
  let result ← Compile.predicate registry returnValues root
  Gen.emit .halt [result]

/-- The code of a root, or the first violation met while generating it. -/
def generated (registry : Registry) (returnValues : Bool) (root : Node) : Except Violation Code :=
  ((generate registry returnValues root).run Code.empty).map (·.2)

/-- The optimized code, if optimization is asked for, with the events of it. -/
def optimizedCode (wanted : Bool) (code : Code) : Code × List CompileEvent :=
  if wanted then
    let (code, changes) := code.optimize
    (code, changes.map .branch ++ [.optimized changes.length])
  else (code, [])

/-- The code of a tree and the events of its compilation, or why there is none. -/
def compileTree (config : CompileConfig) (root : Node) :
    Except Fault (Code × List CompileEvent) := do
  if !root.isPresent then throw Violation.nothingToCompile.toFault
  if !config.skipValidation then
    if let some fault := validationFault? root then throw fault
  let code ← (generated config.registry config.returnValues root).mapError Violation.toFault
  let (code, events) := optimizedCode config.optimize code
  match code.verifyFault? with
  | some fault => throw (Violation.malformedProgram fault.message).toFault
  | none =>
    let compiled := CompileEvent.compiled code.instructions.size code.registers
      code.interesting.length
    return (code, events ++ [compiled])

/-- The program of a tree and the events of its compilation. -/
def compile (config : CompileConfig) (root : Node) :
    Except Fault (Program × List CompileEvent) :=
  (compileTree config root).map fun (code, events) => (code.toProgram, events)

end DisplayFilter
