/-
**Outlines of filter trees.**

A filter tree can be given as a document: every node is a mapping whose keys say what the node is
and hold its parts. An `Outline` is such a document with its keys read and nothing else decided:
names of fields, functions and operators are still texts, and a node may have the keys of several
kinds of node, or of none.

* `Outline`: the outlines.
* `Outline.read`: the outline that a text holds.
-/

import DisplayFilter.Fault
import DisplayFilter.Yaml.Reading

namespace DisplayFilter

/-- The keys of a node that hold no other nodes. An absent text is empty. A constant is read apart
from the rest of the document, so it may have failed on its own. -/
structure OutlineKeys where
  test : RawText
  quantifier : RawText
  arithmetic : RawText
  field : RawText
  reference : RawText
  range : RawText
  raw : Bool
  valueString : Bool
  value? : Option (Except Yaml.Error Constant)
  pattern? : Option RawText
  function : RawText

/-- The keys of a node without any. -/
def OutlineKeys.empty : OutlineKeys :=
  ⟨.empty, .empty, .empty, .empty, .empty, .empty, false, false, none, none, .empty⟩

/-- The outline of a node: its own keys and the outlines that its other keys hold. -/
inductive Outline where
  | node (keys : OutlineKeys) (left right slice : Option Outline)
    (arguments : List (Option Outline)) (set between : Option (List (Option Outline)))

namespace Outline

/-- The outline without any key. -/
def empty : Outline :=
  .node .empty none none none [] none none

/-- How the value of a key is added to an outline. -/
abbrev Adding := Outline → Yaml.Tree → Yaml.Reading Outline

/-- Adds to the keys that hold no other nodes what is read in the given way, if there is any. -/
def addKey {α : Type} (read : Yaml.Tree → Yaml.Reading (Option α))
    (change : OutlineKeys → α → OutlineKeys) : Adding
  | .node keys left right slice arguments set between, tree => do
    match ← read tree with
    | some value => return .node (change keys value) left right slice arguments set between
    | none => return .node keys left right slice arguments set between

/-- Adds a constant, which is read apart. -/
def addValue (fuel : Nat) : Adding :=
  addKey
    (fun tree => do
      Yaml.Reading.visit
      return some ((tree.constant fuel).result (← readThe Yaml.Anchors)))
    fun keys value => { keys with value? := some value }

/-- How the value of a key that holds no other nodes is added. -/
def plainKey? (fuel : Nat) : String → Option Adding
  | "test" => text fun keys test => { keys with test }
  | "match" => text fun keys quantifier => { keys with quantifier }
  | "arith" => text fun keys arithmetic => { keys with arithmetic }
  | "field" => text fun keys field => { keys with field }
  | "reference" => text fun keys reference => { keys with reference }
  | "range" => text fun keys range => { keys with range }
  | "raw" => flag fun keys raw => { keys with raw }
  | "vals" => flag fun keys valueString => { keys with valueString }
  | "value" => some (addValue fuel)
  | "pattern" => text fun keys pattern => { keys with pattern? := some pattern }
  | "function" => text fun keys function => { keys with function }
  | _ => none
where
  /-- A key that holds a text. -/
  text (change : OutlineKeys → RawText → OutlineKeys) : Option Adding :=
    some (addKey Yaml.Tree.text? change)
  /-- A key that holds a truth value. -/
  flag (change : OutlineKeys → Bool → OutlineKeys) : Option Adding :=
    some (addKey Yaml.Tree.flag? change)

/-- The outline of a node that is not there, if it is nothing at all. A mapping cannot be tagged as
nothing. -/
def childOf (read : Yaml.Tree → Yaml.Reading (Option Outline)) (tree : Yaml.Tree) :
    Yaml.Reading (Option Outline) := do
  match tree.resolved (← readThe Yaml.Anchors) with
  | .mapping .null _ => throw .kind
  | _ => read tree

/-- How the value of a key that holds other nodes is added, each of which is read in the given
way. -/
def nodeKey? (read : Yaml.Tree → Yaml.Reading (Option Outline)) : String → Option Adding
  | "left" => some fun outline tree => do
    let .node keys _ right slice arguments set between := outline
    return .node keys (← childOf read tree) right slice arguments set between
  | "right" => some fun outline tree => do
    let .node keys left _ slice arguments set between := outline
    return .node keys left (← childOf read tree) slice arguments set between
  | "slice" => some fun outline tree => do
    let .node keys left right _ arguments set between := outline
    return .node keys left right (← childOf read tree) arguments set between
  | "args" => some fun outline tree => do
    let .node keys left right slice _ set between := outline
    let arguments ← tree.items? (childOf read)
    return .node keys left right slice (arguments.getD []) set between
  | "set" => some fun outline tree => do
    let .node keys left right slice arguments _ between := outline
    return .node keys left right slice arguments (← tree.items? (childOf read)) between
  | "between" => some fun outline tree => do
    let .node keys left right slice arguments set _ := outline
    return .node keys left right slice arguments set (← tree.items? (childOf read))
  | _ => none

/-- The outline that a document node holds; nothing at all is no outline. -/
def ofTree : Nat → Yaml.Tree → Yaml.Reading (Option Outline)
  | 0, _ => throw .growth
  | fuel + 1, tree =>
    tree.record? fuel empty fun name => (plainKey? fuel name).or (nodeKey? (ofTree fuel) name)

/-- The outline that a text holds; a text without a document holds one without keys. -/
def read (text : RawText) : Except Yaml.Error Outline := do
  let document ← Yaml.Document.read text
  return (← document.readWith (ofTree document.depth)).getD empty

end Outline

end DisplayFilter
