/-
**Classes of operators.**

Every consumer of a test node tells its operator apart in the same way: a logical operator connects
truth values, a relation compares two values, a membership test looks a value up in a set, and what
is left tests nothing.

* `Operator.eq_of_isLogical`: the logical operators.
* `Operator.comparison_cases`: what is no logical operator.
* `Operator.isLogical_of_isRelation` and its like: the classes are disjoint.
* `Operator.eq_of_testsNothing`: what tests nothing computes or is no operator.
-/

import DisplayFilter.Operator
import Mathlib.Tactic.Common

namespace DisplayFilter.Operator

variable {operator : Operator}

/-- The logical operators. -/
theorem eq_of_isLogical (logical : operator.isLogical = true) :
    operator = .not ∨ operator = .and ∨ operator = .or := by
  cases operator <;> first | decide | cases logical

theorem ne_not (logical : operator.isLogical = false) : operator ≠ .not := by
  rintro rfl
  cases logical

theorem isLogical_of_isRelation (relates : operator.isRelation = true) :
    operator.isLogical = false := by
  cases operator <;> first | rfl | cases relates

theorem isLogical_of_isMembership (tests : operator.isMembership = true) :
    operator.isLogical = false := by
  cases operator <;> first | rfl | cases tests

theorem isMembership_of_isRelation (relates : operator.isRelation = true) :
    operator.isMembership = false := by
  cases operator <;> first | rfl | cases relates

/-- A test relates two values, looks one up in a set or does neither. -/
theorem comparison_cases (operator : Operator) :
    operator.isRelation = true ∨ operator.isMembership = true ∨
      operator.isRelation = false ∧ operator.isMembership = false := by
  cases operator.isRelation <;> cases operator.isMembership <;> decide

/-- What tests nothing computes or is no operator. -/
theorem eq_of_testsNothing (logical : operator.isLogical = false)
    (relates : operator.isRelation = false) (tests : operator.isMembership = false) :
    operator.isArithmetic = true ∨ operator = .invalid ∨ ∃ code, operator = .undeclared code := by
  cases operator with
  | invalid => exact .inr (.inl rfl)
  | undeclared code => exact .inr (.inr ⟨code, rfl⟩)
  | negate | add | subtract | multiply | divide | modulo | bitAnd => exact .inl rfl
  | not | and | or => cases logical
  | member | notMember => cases tests
  | allEq | anyEq | allNe | anyNe | gt | ge | lt | le | contains | matching => cases relates

end DisplayFilter.Operator
