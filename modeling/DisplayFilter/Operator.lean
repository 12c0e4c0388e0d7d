/-
**Operators of a filter tree.**

A test or arithmetic node carries one `Operator`. Operators travel as small codes: `invalid` is the
code zero, the declared operators follow, and every other code is kept as `undeclared`, so that a
tree built from arbitrary codes can still be checked and refused.

* `Operator.symbol`: the operator as filter text writes it.
* `Operator.ofName?`: the operator a symbol or a word stands for.
* `Operator.isLogical`, `isRelation`, `isMembership`, `isArithmetic`: the four disjoint classes.
-/

namespace DisplayFilter

/-- An operator of a test or arithmetic node. -/
inductive Operator where
  | invalid
  | not
  | and
  | or
  | allEq
  | anyEq
  | allNe
  | anyNe
  | gt
  | ge
  | lt
  | le
  | contains
  | matching
  | member
  | notMember
  | negate
  | add
  | subtract
  | multiply
  | divide
  | modulo
  | bitAnd
  | undeclared (code : UInt8)
deriving DecidableEq, Repr

namespace Operator

/-- The declared operators, in the order of their codes from one on. -/
def declared : List Operator :=
  [.not, .and, .or, .allEq, .anyEq, .allNe, .anyNe, .gt, .ge, .lt, .le, .contains, .matching,
    .member, .notMember, .negate, .add, .subtract, .multiply, .divide, .modulo, .bitAnd]

/-- The code of an operator. -/
def code : Operator → UInt8
  | .invalid => 0
  | .not => 1
  | .and => 2
  | .or => 3
  | .allEq => 4
  | .anyEq => 5
  | .allNe => 6
  | .anyNe => 7
  | .gt => 8
  | .ge => 9
  | .lt => 10
  | .le => 11
  | .contains => 12
  | .matching => 13
  | .member => 14
  | .notMember => 15
  | .negate => 16
  | .add => 17
  | .subtract => 18
  | .multiply => 19
  | .divide => 20
  | .modulo => 21
  | .bitAnd => 22
  | .undeclared code => code

/-- The operator with the given code. -/
def ofCode (code : UInt8) : Operator :=
  if code = 0 then .invalid
  else (declared.find? fun operator => operator.code == code).getD (.undeclared code)

/-- The operator as filter text writes it. -/
def symbol : Operator → String
  | .not => "!"
  | .and => "&&"
  | .or => "||"
  | .allEq => "==="
  | .anyEq => "=="
  | .allNe => "!="
  | .anyNe => "!=="
  | .gt => ">"
  | .ge => ">="
  | .lt => "<"
  | .le => "<="
  | .contains => "contains"
  | .matching => "matches"
  | .member => "in"
  | .notMember => "not in"
  | .negate => "-"
  | .add => "+"
  | .subtract => "-"
  | .multiply => "*"
  | .divide => "/"
  | .modulo => "%"
  | .bitAnd => "&"
  | .invalid => "<invalid>"
  | .undeclared _ => "<invalid>"

/-- Whether the operator is not, and, or. -/
def isLogical : Operator → Bool
  | .not | .and | .or => true
  | _ => false

/-- Whether the operator is a binary comparison or containment test. -/
def isRelation : Operator → Bool
  | .allEq | .anyEq | .allNe | .anyNe | .gt | .ge | .lt | .le | .contains | .matching => true
  | _ => false

/-- Whether the operator tests membership in a set. -/
def isMembership : Operator → Bool
  | .member | .notMember => true
  | _ => false

/-- Whether the operator belongs in an arithmetic node. -/
def isArithmetic : Operator → Bool
  | .negate | .add | .subtract | .multiply | .divide | .modulo | .bitAnd => true
  | _ => false

/-- The names that stand for an operator: its symbol where that is unambiguous, and its words. -/
def names : Operator → List String
  | .not => ["not", "!"]
  | .and => ["and", "&&"]
  | .or => ["or", "||"]
  | .allEq => ["all_eq", "==="]
  | .anyEq => ["any_eq", "==", "eq"]
  | .allNe => ["all_ne", "!=", "ne"]
  | .anyNe => ["any_ne", "!=="]
  | .gt => ["gt", ">"]
  | .ge => ["ge", ">="]
  | .lt => ["lt", "<"]
  | .le => ["le", "<="]
  | .contains => ["contains"]
  | .matching => ["matches", "~"]
  | .member => ["in"]
  | .notMember => ["not_in", "not in"]
  | .negate => ["neg", "unary_minus"]
  | .add => ["add", "+"]
  | .subtract => ["sub", "subtract", "-"]
  | .multiply => ["mul", "multiply", "*"]
  | .divide => ["div", "divide", "/"]
  | .modulo => ["mod", "modulo", "%"]
  | .bitAnd => ["bitwise_and", "&"]
  | .invalid => []
  | .undeclared _ => []

/-- The operator a symbol or a word stands for. -/
def ofName? (name : String) : Option Operator :=
  declared.find? fun operator => operator.names.contains name

end Operator

end DisplayFilter
