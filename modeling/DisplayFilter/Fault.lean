/-
**Faults.**

Everything that can go wrong ends as a `Fault`: a broken rule of the compiler, a malformed tree,
text that is not a document, any other failure with its own wording, one of these with a context in
front, or several of them together.

* `Fault.message`: the wording.
* `Fault.invariant?`, `Fault.code?`: the first broken rule, and the code, found inside a fault.
* `Fault.gather`: several faults as one, with faults that are already several taken apart.
-/

import DisplayFilter.ErrorCode
import DisplayFilter.Number.Integer

namespace DisplayFilter

/-- Something that went wrong. -/
inductive Fault where
  /-- A rule that the compiler relies on is broken. -/
  | invariant (code : ErrorCode) (message : String)
  /-- A node of a tree is malformed; the path leads to it and the hint may help. -/
  | tree (code : ErrorCode) (path message hint : String)
  /-- A text is not a document of the form wanted in the given context. -/
  | document (context : String)
  /-- Any other failure. -/
  | plain (message : String)
  /-- A failure with a context in front of it. -/
  | wrapped (context : String) (cause : Fault)
  /-- Several failures. -/
  | several (causes : List Fault)

namespace Fault

/-- The wording of several failures, given the wording of each. -/
def joined (messages : List String) : String :=
  let head := if messages.length = 1 then "1 error occurred:\n\t"
    else Number.decimal messages.length ++ " errors occurred:\n\t"
  head ++ "\n\t".intercalate (messages.map ("* " ++ ·)) ++ "\n\n"

mutual

/-- The wording of a fault. What a document reader itself says is not part of it. -/
def message : Fault → String
  | .invariant _ message => "compile error: " ++ message
  | .tree _ path message hint =>
    (if path = "" then "" else path ++ ": ") ++ message ++
      (if hint = "" then "" else " (" ++ hint ++ ")")
  | .document context => context ++ ": yaml: "
  | .plain message => message
  | .wrapped context cause => context ++ ": " ++ cause.message
  | .several causes => joined (messages causes)

/-- The wordings of several faults. -/
def messages : List Fault → List String
  | [] => []
  | cause :: causes => cause.message :: messages causes

end

mutual

/-- The first broken rule inside a fault, with its code. -/
def invariant? : Fault → Option (ErrorCode × String)
  | .invariant code message => some (code, message)
  | .wrapped _ cause => cause.invariant?
  | .several causes => firstInvariant? causes
  | _ => none

/-- The first broken rule inside several faults. -/
def firstInvariant? : List Fault → Option (ErrorCode × String)
  | [] => none
  | cause :: causes => cause.invariant?.or (firstInvariant? causes)

end

mutual

/-- The code of the first malformed node inside a fault. -/
def treeCode? : Fault → Option ErrorCode
  | .tree code .. => some code
  | .wrapped _ cause => cause.treeCode?
  | .several causes => firstTreeCode? causes
  | _ => none

/-- The code of the first malformed node inside several faults. -/
def firstTreeCode? : List Fault → Option ErrorCode
  | [] => none
  | cause :: causes => cause.treeCode?.or (firstTreeCode? causes)

end

/-- The code of a fault: that of the first broken rule, else that of the first malformed node. -/
def code? (fault : Fault) : Option ErrorCode :=
  (fault.invariant?.map (·.1)).or fault.treeCode?

/-- Whether the compiler refused the tree. -/
def isFatal (fault : Fault) : Bool :=
  fault.invariant?.isSome

/-- Several faults as one; faults that are already several are taken apart. -/
def gather (faults : List Fault) : Fault :=
  .several (faults.flatMap fun
    | .several causes => causes
    | fault => [fault])

/-- The fault as the command line reports it: a code comes first, with what it means. -/
def report (fault : Fault) : String :=
  match fault.code? with
  | none => fault.message
  | some code =>
    code.text ++ " (" ++ code.category ++ "): " ++ code.description ++ "\n" ++ fault.message

/-- The exit status of the command line: two when the compiler refused the tree. -/
def exitStatus (fault : Fault) : Nat :=
  if fault.isFatal then 2 else 1

end Fault

end DisplayFilter
