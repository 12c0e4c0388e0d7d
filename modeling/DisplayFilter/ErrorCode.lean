/-
**Error codes.**

Errors about a tree, its compilation or a program carry a code such as `E2003`. The digit after the
letter gives the category. A code is kept by its text, so that a code nobody declared can still be
shown.
-/

namespace DisplayFilter

/-- The code of an error, by its text. -/
structure ErrorCode where
  text : String
deriving DecidableEq, Repr

namespace ErrorCode

/-- A tree names a field that is not registered. -/
def unknownField : ErrorCode := ⟨"E1001"⟩

/-- A tree names a function that does not exist. -/
def unknownFunction : ErrorCode := ⟨"E1002"⟩

/-- A tree names an operator that does not exist. -/
def unknownOperator : ErrorCode := ⟨"E1003"⟩

/-- A node of a tree is malformed. -/
def malformedNode : ErrorCode := ⟨"E1004"⟩

/-- A node cannot produce a value. -/
def invalidEntity : ErrorCode := ⟨"E2001"⟩

/-- An operator does not fit its node. -/
def invalidOperator : ErrorCode := ⟨"E2002"⟩

/-- A function or operator has the wrong number of arguments. -/
def argumentCount : ErrorCode := ⟨"E2003"⟩

/-- An operator does not have the quantified form asked for. -/
def invalidQuantifier : ErrorCode := ⟨"E2004"⟩

/-- Something a node needs is missing. -/
def missingOperand : ErrorCode := ⟨"E2005"⟩

/-- A node cannot be used as a predicate. -/
def invalidPredicate : ErrorCode := ⟨"E2006"⟩

/-- A node lacks its field. -/
def missingField : ErrorCode := ⟨"E2007"⟩

/-- A set is missing, empty or out of place. -/
def invalidSet : ErrorCode := ⟨"E2008"⟩

/-- A jump target is resolved wrongly. -/
def unresolvedJump : ErrorCode := ⟨"E3001"⟩

/-- A program breaks a rule of the machine. -/
def malformedProgram : ErrorCode := ⟨"E3002"⟩

/-- The declared codes with what they mean. -/
def declared : List (ErrorCode × String) :=
  [(unknownField, "unknown field"), (unknownFunction, "unknown function"),
    (unknownOperator, "unknown operator"), (malformedNode, "malformed node"),
    (invalidEntity, "invalid entity"), (invalidOperator, "invalid operator"),
    (argumentCount, "wrong argument count"), (invalidQuantifier, "invalid quantifier"),
    (missingOperand, "missing operand"), (invalidPredicate, "invalid predicate"),
    (missingField, "missing field info"), (invalidSet, "invalid set"),
    (unresolvedJump, "unresolved jump"), (malformedProgram, "malformed program")]

/-- What a code means. -/
def description (code : ErrorCode) : String :=
  (declared.lookup code).getD "unknown error"

/-- The category of a code, given by its second octet. A first character that takes more than one
octet leaves no digit there. -/
def category (code : ErrorCode) : String :=
  match code.text.toList with
  | first :: second :: _ =>
    if 0x80 ≤ first.toNat then "unknown"
    else if second = '1' then "tree"
    else if second = '2' then "compile"
    else if second = '3' then "program"
    else "unknown"
  | _ => "unknown"

end ErrorCode

end DisplayFilter
