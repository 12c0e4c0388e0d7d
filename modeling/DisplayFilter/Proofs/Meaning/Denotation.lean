/-
**The meaning of filter trees.**

For a packet, a node that stands for a value has a value or none, and a node that stands for a truth
value is true or false. A value is absent if something it is computed from is: a field that is not
in the packet, a value without an entry in the value-string table, a function without a result. Only
functions are given arguments that are absent. A relation or membership test on an absent value is
false, and absent members do not belong to a set.

* `Node.value?`, `Node.members`: the value of a node and the members of a set.
* `Node.holds`: the truth value of a node.
* `Node.answer`, `Node.result?`: the answer of a root and the value it returns.
-/

import DisplayFilter.Compile.Predicate
import DisplayFilter.Proofs.Meaning.Packet

namespace DisplayFilter

variable {V : Type} (packet : Packet V) (registry : Registry)

namespace FieldRead

/-- What a read gives, given the value of each field, with the value-string table if it is wanted. -/
def lookup? (read : FieldRead) (wanted : Bool)
    (find : Field → (raw : Bool) → ByteRange → Option V) : Option V := do
  let written ← read.field?
  let value ← find (registry.canonical written) read.raw (windows read.range?)
  if wanted then packet.valueString written value else some value

end FieldRead

namespace Node

mutual

/-- The value of a node, if it has one. -/
def value? : Node → Option V
  | .field read => read.lookup? packet registry read.valueString packet.readTree
  | .reference read => read.lookup? packet registry read.valueString packet.readReference
  | .value constant => some (packet.constant constant)
  | .pattern pattern? => pattern?.map packet.pattern
  | .slice inner range? => inner.value?.map (packet.slice (windows range?))
  | .call none _ => none
  | .call (some definition) args =>
    if definition.name = "len" then
      match args with
      | [argument] => argument.value?.map packet.length
      | _ => none
    else if definition.name = "vals" then
      match args with
      | [.field read] => read.lookup? packet registry true packet.readTree
      | [.reference read] => read.lookup? packet registry true packet.readReference
      | _ => none
    else packet.call definition.name (values args)
  | .arithmetic operator left right =>
    match operator.arithmeticOpcode? with
    | none => none
    | some opcode =>
      if operator = .negate then left.value?.map packet.negate
      else left.value?.bind fun leftValue =>
        right.value?.map fun rightValue => packet.arithmetic opcode leftValue rightValue
  | _ => none

/-- The values of the arguments of a call. -/
def values : List Node → List (Option V)
  | [] => []
  | node :: nodes => node.value? :: values nodes

end

/-- The members of a set. -/
def members : List Element → List (Member V)
  | [] => []
  | .single low :: elements =>
    (low.value? packet registry).toList.map .single ++ members elements
  | .between low high :: elements =>
    ((low.value? packet registry).bind fun lowValue =>
      (high.value? packet registry).map fun highValue =>
        Member.between lowValue highValue).toList ++ members elements

/-- Whether two values are there and related. -/
def related (opcode : Opcode) (left right : Node) : Bool :=
  (left.value? packet registry).any fun leftValue =>
    (right.value? packet registry).any fun rightValue => packet.relation opcode leftValue rightValue

/-- Whether a value is there and in a set, or not in it. -/
def belongs (opcode : Opcode) (left : Node) (elements : List Element) : Bool :=
  (left.value? packet registry).any fun value =>
    packet.membership opcode value (members packet registry elements)

/-- Whether a node is true. -/
def holds : Node → Bool
  | .test operator quantifier left right =>
    match operator with
    | .not => !left.holds
    | .and => left.holds && right.holds
    | .or => left.holds || right.holds
    | _ =>
      (Compile.selectOpcode operator quantifier).toOption.any fun opcode =>
        match right with
        | .set elements => belongs packet registry opcode left elements
        | _ => related packet registry opcode left right
  | .field read =>
    read.field?.any fun written =>
      packet.presence (registry.canonical written) (windows read.range?)
  | .arithmetic operator left right =>
    (value? packet registry (.arithmetic operator left right)).any packet.notAllZero
  | .call definition? args =>
    (value? packet registry (.call definition? args)).any packet.notAllZero
  | .slice inner range? =>
    (value? packet registry (.slice inner range?)).any fun value =>
      packet.notAllZero (packet.length value)
  | _ => false

variable (returnValues : Bool)

/-- The answer of a root: a bare field that is loaded answers whether it was there to load. -/
def answer : Node → Bool
  | .field read =>
    if returnValues then (value? packet registry (.field read)).isSome
    else holds packet registry (.field read)
  | node => node.holds packet registry

/-- The value that a root returns, if it returns an operand at all. -/
def result? : Node → Option (Option V)
  | .field read => if returnValues then some (value? packet registry (.field read)) else none
  | .arithmetic operator left right =>
    some (value? packet registry (.arithmetic operator left right))
  | .call definition? args => some (value? packet registry (.call definition? args))
  | .slice inner range? => some (value? packet registry (.slice inner range?))
  | _ => none

end Node

end DisplayFilter
