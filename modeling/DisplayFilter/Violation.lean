/-
**Violations of the rules for trees and programs.**

Each rule that a tree has to keep to be compiled, and that code has to keep while it is generated,
has its own `Violation`, with a code and a wording.
-/

import DisplayFilter.Fault
import DisplayFilter.Node

namespace DisplayFilter

/-- A broken rule about a tree or about code being generated. -/
inductive Violation where
  | nothingToCompile
  | fieldWithoutInfo
  | referenceWithoutInfo
  | patternWithoutExpression
  | sliceWithoutRange
  | callWithoutDefinition
  | oneArgument (function : String) (count : Nat)
  | argumentCount (function : String) (count : Nat)
  | valueStringArgument (described : String)
  | notATest (operator : Operator)
  | noQuantifiedForm (operator : Operator) (quantifier : Quantifier)
  | notArithmetic (operator : Operator)
  | notARelation (operator : Operator)
  | missingPredicate
  | notAPredicate (described : String)
  | notTakesOneOperand
  | notASet (operator : Operator) (described : String)
  | emptySet
  | negationTakesOneOperand
  | negationWithTwoOperands
  | noValue (described : String)
  | setOutOfPlace
  | missingOperand
  | pendingJumpKind (handle : Int) (kind : String)
  | resolvedTwice (handle : Int)
  | malformedProgram (findings : String)
deriving DecidableEq, Repr

namespace Violation

/-- The code of a violation. -/
def code : Violation → ErrorCode
  | .nothingToCompile => .missingOperand
  | .fieldWithoutInfo => .missingField
  | .referenceWithoutInfo => .missingField
  | .patternWithoutExpression => .missingOperand
  | .sliceWithoutRange => .missingOperand
  | .callWithoutDefinition => .missingOperand
  | .oneArgument .. => .argumentCount
  | .argumentCount .. => .argumentCount
  | .valueStringArgument _ => .invalidEntity
  | .notATest _ => .invalidOperator
  | .noQuantifiedForm .. => .invalidQuantifier
  | .notArithmetic _ => .invalidOperator
  | .notARelation _ => .invalidOperator
  | .missingPredicate => .missingOperand
  | .notAPredicate _ => .invalidPredicate
  | .notTakesOneOperand => .argumentCount
  | .notASet .. => .invalidSet
  | .emptySet => .invalidSet
  | .negationTakesOneOperand => .argumentCount
  | .negationWithTwoOperands => .argumentCount
  | .noValue _ => .invalidEntity
  | .setOutOfPlace => .invalidSet
  | .missingOperand => .missingOperand
  | .pendingJumpKind .. => .unresolvedJump
  | .resolvedTwice _ => .unresolvedJump
  | .malformedProgram _ => .malformedProgram

/-- The wording of a violation. -/
def message : Violation → String
  | .nothingToCompile => "nothing to compile"
  | .fieldWithoutInfo => "field node without field info"
  | .referenceWithoutInfo => "reference node without field info"
  | .patternWithoutExpression => "pattern without a regular expression"
  | .sliceWithoutRange => "slice without a byte range"
  | .callWithoutDefinition => "function call without a definition"
  | .oneArgument function count =>
    function ++ "() takes exactly one argument (got " ++ Number.decimal count ++ ")"
  | .argumentCount function count =>
    function ++ "() does not accept " ++ Number.decimal count ++ " arguments"
  | .valueStringArgument described => "vals() needs a field, got " ++ described
  | .notATest operator =>
    "operator " ++ Text.quote operator.symbol ++ " cannot be used in a test"
  | .noQuantifiedForm operator quantifier =>
    "operator " ++ Text.quote operator.symbol ++ " has no " ++ quantifier.word ++ " form"
  | .notArithmetic operator => "operator " ++ Text.quote operator.symbol ++ " is not arithmetic"
  | .notARelation operator => "operator " ++ Text.quote operator.symbol ++ " is not a relation"
  | .missingPredicate => "missing predicate"
  | .notAPredicate described => described ++ " cannot be used as a predicate"
  | .notTakesOneOperand => "not takes one operand"
  | .notASet operator described =>
    "right side of " ++ Text.quote operator.symbol ++ " must be a set, got " ++ described
  | .emptySet => "empty set"
  | .negationTakesOneOperand => "unary minus takes one operand"
  | .negationWithTwoOperands => "unary minus with two operands"
  | .noValue described => described ++ " cannot produce a value"
  | .setOutOfPlace => "set literal outside of a membership test"
  | .missingOperand => "missing operand"
  | .pendingJumpKind handle kind =>
    "pending jump " ++ Number.decimal handle ++ " is a " ++ kind
  | .resolvedTwice handle => "jump target " ++ Number.decimal handle ++ " resolved twice"
  | .malformedProgram findings => findings

/-- The violation as a fault. -/
def toFault (violation : Violation) : Fault :=
  .invariant violation.code violation.message

end Violation

end DisplayFilter
