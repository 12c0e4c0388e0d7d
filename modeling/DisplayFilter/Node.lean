/-
**Filter trees.**

A filter is a tree of nodes. Fields, references, literals, patterns, slices, calls and arithmetic
produce values, tests produce truth values, and sets stand on the right side of a membership test.
A place where a node should be but is not holds `missing`, so that an incomplete tree can be shown
and refused.

* `Node.text`: the tree in a form close to filter text.
* `Node.describe`: a node as messages name it.
* `Node.takeRange?`: hands over the byte range of a node.
-/

import DisplayFilter.ByteRange
import DisplayFilter.Constant
import DisplayFilter.Field
import DisplayFilter.Function
import DisplayFilter.Pattern
import DisplayFilter.Quantifier

namespace DisplayFilter

/-- What a field or reference node reads: the field, the bytes wanted of it, whether the raw bytes
are compared, and whether the field's value-string table is applied. -/
structure FieldRead where
  field? : Option Field
  range? : Option ByteRange
  raw : Bool
  valueString : Bool
deriving DecidableEq

mutual

/-- A node of a filter tree. -/
inductive Node where
  /-- No node where there should be one. -/
  | missing
  /-- A logical, relational or membership test; `not` has no right side. -/
  | test (operator : Operator) (quantifier : Quantifier) (left right : Node)
  /-- Arithmetic; a negation has no right side. -/
  | arithmetic (operator : Operator) (left right : Node)
  /-- A field of the packet. -/
  | field (read : FieldRead)
  /-- A field of a packet selected earlier. -/
  | reference (read : FieldRead)
  /-- A literal. -/
  | value (constant : Constant)
  /-- A regular expression. -/
  | pattern (pattern? : Option Pattern)
  /-- Some bytes of another value. -/
  | slice (entity : Node) (range? : Option ByteRange)
  /-- A call of a function. -/
  | call (definition? : Option FunctionDef) (arguments : List Node)
  /-- A set literal. -/
  | set (elements : List Element)

/-- A member of a set literal. -/
inductive Element where
  /-- A single value: a member without an upper bound. -/
  | single (low : Node)
  /-- The values between two bounds, both included. -/
  | between (low high : Node)

end

/-- The bytes wanted of a value, where no range and an empty one are the same. -/
def windows (range? : Option ByteRange) : ByteRange :=
  range?.getD []

namespace FieldRead

/-- What is read, as filter text writes it. -/
def text (read : FieldRead) : String :=
  let name := match read.field? with
    | some field => field.abbreviation.shown
    | none => "<nil>"
  let marked := if read.raw then "@" ++ name else name
  let ranged := match read.range? with
    | some range => marked ++ "[" ++ ByteRange.text range ++ "]"
    | none => marked
  if read.valueString then "vals(" ++ ranged ++ ")" else ranged

end FieldRead

namespace Node

/-- Whether there is a node. -/
def isPresent : Node → Bool
  | .missing => false
  | _ => true

mutual

/-- The tree in a form close to filter text. -/
def text : Node → String
  | .missing => "<nil>"
  | .test operator quantifier left right =>
    if operator = .not then "(!" ++ left.text ++ ")"
    else
      "(" ++ (if quantifier = .baseline then "" else quantifier.word ++ " ") ++ left.text ++ " " ++
        operator.symbol ++ " " ++ right.text ++ ")"
  | .arithmetic operator left right =>
    if right.isPresent then
      "(" ++ left.text ++ " " ++ operator.symbol ++ " " ++ right.text ++ ")"
    else "(" ++ operator.symbol ++ left.text ++ ")"
  | .field read => read.text
  | .reference read => "$\x7b" ++ read.text ++ "\x7d"
  | .value constant => constant.literal
  | .pattern none => "\"\""
  | .pattern (some expression) => Text.quote expression.source
  | .slice entity range? => entity.text ++ "[" ++ ByteRange.text (windows range?) ++ "]"
  | .call definition? arguments =>
    let name := match definition? with
      | some definition => definition.name
      | none => "<nil>"
    name ++ "(" ++ ", ".intercalate (texts arguments) ++ ")"
  | .set elements => "\x7b" ++ " ".intercalate (elementTexts elements) ++ "\x7d"

/-- The texts of several trees. -/
def texts : List Node → List String
  | [] => []
  | node :: nodes => node.text :: texts nodes

/-- The texts of the members of a set. -/
def elementTexts : List Element → List String
  | [] => []
  | .single low :: elements => low.text :: elementTexts elements
  | .between low high :: elements => (low.text ++ ".." ++ high.text) :: elementTexts elements

end

/-- A node as messages name it. -/
def describe (node : Node) : String :=
  match node with
  | .missing => "<nil>"
  | .test operator .. => "test " ++ Text.quote operator.symbol
  | .field _ => "field " ++ node.text
  | .reference _ => "reference " ++ node.text
  | .value _ => "literal " ++ node.text
  | .pattern _ => "pattern " ++ node.text
  | .slice .. => "slice " ++ node.text
  | .call .. => "function " ++ node.text
  | .arithmetic .. => "arithmetic " ++ node.text
  | .set _ => "set " ++ node.text

/-- Hands over the byte range of a node that can have one, and the node without it. -/
def takeRange? : Node → Option (Option ByteRange × Node)
  | .field read => some (read.range?, .field { read with range? := none })
  | .reference read => some (read.range?, .reference { read with range? := none })
  | .slice entity range? => some (range?, .slice entity none)
  | _ => none

end Node

end DisplayFilter
