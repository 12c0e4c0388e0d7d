/-
**From outlines to filter trees.**

An outline becomes a filter tree when every node has the keys of exactly one kind of node, every
name in it is known and every byte range and pattern is well formed. Faults name the node by its
path from the root.

* `Outline.toNode`: the tree of an outline; fields are found by a resolver.
* `Outline.decode`: the tree that a text holds, and the field table afterwards.
-/

import DisplayFilter.Node
import DisplayFilter.Outline
import DisplayFilter.Resolver

namespace DisplayFilter

/-- Decoding with a field table that a resolver may add to. -/
abbrev Decoding := StateT Table (Except Fault)

/-- The kinds of node that an outline can have the keys of. -/
inductive Variant where
  | test
  | arithmetic
  | field
  | reference
  | value
  | pattern
  | slice
  | function
  | set
deriving DecidableEq, Repr

/-- The key that shows a kind of node. -/
def Variant.key : Variant → String
  | .test => "test"
  | .arithmetic => "arith"
  | .field => "field"
  | .reference => "reference"
  | .value => "value"
  | .pattern => "pattern"
  | .slice => "slice"
  | .function => "function"
  | .set => "set"

namespace Outline

/-- The kinds of node that an outline has the keys of. -/
def variants : Outline → List Variant
  | .node keys _ _ slice _ set _ =>
    let shown : List (Variant × Bool) :=
      [(.test, !keys.test.isEmpty), (.arithmetic, !keys.arithmetic.isEmpty),
        (.field, !keys.field.isEmpty), (.reference, !keys.reference.isEmpty),
        (.value, keys.value?.isSome), (.pattern, keys.pattern?.isSome), (.slice, slice.isSome),
        (.function, !keys.function.isEmpty), (.set, set.isSome)]
    shown.filterMap fun (kind, isShown) => if isShown then some kind else none

/-- A malformed node. -/
def malformed {α : Type} (code : ErrorCode) (path message : String) : Decoding α :=
  throw (.tree code path message "")

/-- The kind of node that an outline has the keys of. -/
def variant (outline : Outline) (path : String) : Decoding Variant :=
  match outline.variants with
  | [kind] => pure kind
  | [] => malformed .malformedNode path "node has no variant key"
  | kinds =>
    malformed .malformedNode path
      ("node has several variant keys (" ++ ", ".intercalate (kinds.map Variant.key) ++ ")")

/-- A byte range. -/
def rangeOf (text : RawText) (path : String) : Decoding ByteRange :=
  match ByteRange.parse text with
  | .ok range => pure range
  | .error error => throw (.wrapped path (.plain error.message))

/-- The path of a fault of the resolver. -/
def located (path : String) : Fault → Fault
  | .tree code _ message hint => .tree code path message hint
  | fault => .wrapped path fault

/-- The field of an abbreviation, and the bytes wanted of it. -/
def fieldOf (resolver : Resolver) (keys : OutlineKeys) (abbreviation : RawText) (path : String) :
    Decoding FieldRead := do
  let field ← fun table => (resolver abbreviation table).mapError (located path)
  let range? ← if keys.range.isEmpty then pure none else some <$> rangeOf keys.range path
  return ⟨some field, range?, keys.raw, keys.valueString⟩

/-- The operator of a test. -/
def testOperator (keys : OutlineKeys) (path : String) : Decoding Operator :=
  match keys.test.string?.bind Operator.ofName? with
  | some operator =>
    if operator.isArithmetic then unknown else pure operator
  | none => unknown
where
  unknown {α : Type} : Decoding α :=
    malformed .unknownOperator path ("unknown test operator " ++ keys.test.quoted)

/-- The operator of arithmetic. -/
def arithmeticOperator (keys : OutlineKeys) (path : String) : Decoding Operator :=
  match keys.arithmetic.string?.bind Operator.ofName? with
  | some operator =>
    if operator.isArithmetic then pure operator else unknown
  | none => unknown
where
  unknown {α : Type} : Decoding α :=
    malformed .unknownOperator path
      ("unknown arithmetic operator " ++ keys.arithmetic.quoted)

/-- The quantifier of a test. -/
def quantifierOf (keys : OutlineKeys) (path : String) : Decoding Quantifier :=
  match keys.quantifier.string?.bind Quantifier.ofWord? with
  | some quantifier => pure quantifier
  | none =>
    malformed .unknownOperator path ("unknown quantifier " ++ keys.quantifier.quoted)

/-- The constant of a literal. -/
def constantOf (keys : OutlineKeys) (path : String) : Decoding Constant :=
  match keys.value? with
  | some (.ok constant) => pure constant
  | _ => throw (.document path)

/-- A pattern. -/
def patternOf (keys : OutlineKeys) (path : String) : Decoding Pattern :=
  match Pattern.compile (keys.pattern?.getD .empty) with
  | .ok pattern => pure pattern
  | .error error => throw (.wrapped path (.plain error.message))

/-- A function that is known. -/
def functionOf (keys : OutlineKeys) (path : String) : Decoding FunctionDef :=
  match keys.function.string?.bind FunctionDef.lookup? with
  | some definition => pure definition
  | none =>
    throw (.tree .unknownFunction path ("unknown function " ++ keys.function.quoted)
      (Suggestion.hint (Suggestion.suggest keys.function (FunctionDef.names.map RawText.ofString))))

/-- The path of an item of a list. -/
def itemPath (path key : String) (index : Nat) : String :=
  path ++ "." ++ key ++ "[" ++ Number.decimal index ++ "]"

mutual

/-- The tree of an outline. -/
def toNode (resolver : Resolver) : Outline → String → Decoding Node
  | .node keys left right slice arguments set between, path => do
    match ← variant (.node keys left right slice arguments set between) path with
    | .test =>
      let operator ← testOperator keys path
      let quantifier ← quantifierOf keys path
      let left ← partNode resolver left (path ++ ".left")
      if operator = .not then
        if right.isSome then malformed .malformedNode (path ++ ".right") "not takes one operand"
        return .test operator quantifier left .missing
      return .test operator quantifier left (← partNode resolver right (path ++ ".right"))
    | .arithmetic =>
      let operator ← arithmeticOperator keys path
      let left ← partNode resolver left (path ++ ".left")
      if operator = .negate then
        if right.isSome then
          malformed .malformedNode (path ++ ".right") "unary minus takes one operand"
        return .arithmetic operator left .missing
      return .arithmetic operator left (← partNode resolver right (path ++ ".right"))
    | .field => return .field (← fieldOf resolver keys keys.field path)
    | .reference => return .reference (← fieldOf resolver keys keys.reference path)
    | .value => return .value (← constantOf keys path)
    | .pattern => return .pattern (some (← patternOf keys path))
    | .slice =>
      let entity ← partNode resolver slice (path ++ ".slice")
      return .slice entity (some (← rangeOf keys.range path))
    | .function =>
      let definition ← functionOf keys path
      return .call (some definition) (← argumentNodes resolver arguments path 0)
    | .set => return .set (← setElements resolver set path)

/-- The tree of a part that has to be there. -/
def partNode (resolver : Resolver) : Option Outline → String → Decoding Node
  | none, path => malformed .malformedNode path "missing node"
  | some outline, path => toNode resolver outline path

/-- The trees of the arguments of a call, from the given index on. -/
def argumentNodes (resolver : Resolver) :
    List (Option Outline) → String → Nat → Decoding (List Node)
  | [], _, _ => return []
  | argument :: arguments, path, index => do
    let node ← partNode resolver argument (itemPath path "args" index)
    return node :: (← argumentNodes resolver arguments path (index + 1))

/-- The members of a set that is there. -/
def setElements (resolver : Resolver) :
    Option (List (Option Outline)) → String → Decoding (List Element)
  | none, _ => return []
  | some members, path => elementsFrom resolver members path 0

/-- The members of a set, from the given index on. -/
def elementsFrom (resolver : Resolver) :
    List (Option Outline) → String → Nat → Decoding (List Element)
  | [], _, _ => return []
  | member :: members, path, index => do
    let element ← element resolver member (itemPath path "set" index)
    return element :: (← elementsFrom resolver members path (index + 1))

/-- A member of a set: the values between two bounds, or a single value. -/
def element (resolver : Resolver) : Option Outline → String → Decoding Element
  | some (.node _ _ _ _ _ _ (some bounds)), path => boundsElement resolver bounds path
  | member, path => return .single (← partNode resolver member path)

/-- The values between two bounds. -/
def boundsElement (resolver : Resolver) : List (Option Outline) → String → Decoding Element
  | [low, high], path => do
    let low ← partNode resolver low (path ++ ".low")
    return .between low (← partNode resolver high (path ++ ".high"))
  | _, path => malformed .malformedNode path "between needs exactly two bounds"

end

/-- The tree that a text holds, and the field table afterwards. -/
def decode (resolver : Resolver) (text : RawText) : Decoding Node :=
  match Outline.read text with
  | .ok outline => outline.toNode resolver "root"
  | .error _ => throw (.document "decoding filter tree")

end Outline

end DisplayFilter
