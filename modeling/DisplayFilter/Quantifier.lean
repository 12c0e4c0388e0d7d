/-
**Quantifiers over the occurrences of a field.**

A field may occur several times in one packet. A `Quantifier` says whether a relation has to hold
for every occurrence or for one; `baseline` leaves the choice to the operator.

* `Opcode.select?`: the member of an opcode's family that a quantifier names.
* `Operator.relationOpcode?`: the opcode of a relation or membership operator without a quantifier.
-/

import DisplayFilter.Opcode
import DisplayFilter.Operator

namespace DisplayFilter

/-- Over how many occurrences of a field a relation has to hold. -/
inductive Quantifier where
  | baseline
  | all
  | any
  | undeclared (code : UInt8)
deriving DecidableEq, Repr

namespace Quantifier

/-- The code of a quantifier. -/
def code : Quantifier → UInt8
  | .baseline => 0
  | .all => 1
  | .any => 2
  | .undeclared code => code

/-- The quantifier with the given code. -/
def ofCode (code : UInt8) : Quantifier :=
  if code = 0 then .baseline
  else if code = 1 then .all
  else if code = 2 then .any
  else .undeclared code

/-- The word for a quantifier; one that is not declared reads as the baseline. -/
def word : Quantifier → String
  | .all => "all"
  | .any => "any"
  | .baseline => "default"
  | .undeclared _ => "default"

/-- The quantifier a word stands for; no word at all is the baseline. -/
def ofWord? (word : String) : Option Quantifier :=
  if word = "" ∨ word = "default" then some .baseline
  else if word = "all" then some .all
  else if word = "any" then some .any
  else none

end Quantifier

/-- The member of the opcode's family that the quantifier names. The baseline keeps the opcode. -/
def Opcode.select? (opcode : Opcode) (quantifier : Quantifier) : Option Opcode :=
  match quantifier with
  | .baseline => some opcode
  | .all => opcode.family?.map (·.1)
  | .any => opcode.family?.map (·.2)
  | .undeclared _ => none

/-- The opcode of a relation or membership operator when no quantifier is declared. -/
def Operator.relationOpcode? : Operator → Option Opcode
  | .allEq => some .allEq
  | .anyEq => some .anyEq
  | .allNe => some .allNe
  | .anyNe => some .anyNe
  | .gt => some .anyGt
  | .ge => some .anyGe
  | .lt => some .anyLt
  | .le => some .anyLe
  | .contains => some .anyContains
  | .matching => some .anyMatches
  | .member => some .setAnyIn
  | .notMember => some .setAnyNotIn
  | _ => none

/-- The opcode of an arithmetic operator. -/
def Operator.arithmeticOpcode? : Operator → Option Opcode
  | .negate => some .negate
  | .add => some .add
  | .subtract => some .subtract
  | .multiply => some .multiply
  | .divide => some .divide
  | .modulo => some .modulo
  | .bitAnd => some .bitAnd
  | _ => none

end DisplayFilter
