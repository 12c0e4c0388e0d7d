/-
**Where a tree reads fields.**

Every field or reference node of a tree is a *site*: a place where code has to read something. What
is read there depends on the node and on one thing more, whether a truth value or a value is wanted
at its position. A field of which a truth value is wanted is only tested for presence.

* `Node.placed`: the nodes of a tree with their positions, each before those below it.
* `Node.sites`: the sites of a tree in that order.
* `Code.ReadsFor`: an instruction reads what is wanted at a site.
* `Code.readings`: the instructions that read fields.
* `Node.map_node_sites`: the sites are the field and reference nodes of the tree.
-/

import DisplayFilter.Proofs.Generation.Supply
import DisplayFilter.Node.Traversal

namespace DisplayFilter

/-- What is wanted of a node where it stands. -/
inductive Position where
  | truth
  | value
deriving DecidableEq, Repr

/-- The position of the operands of a test. -/
def Operator.operandPosition (operator : Operator) : Position :=
  if operator.isLogical then .truth else .value

/-- The position of a root. Where a value is to be returned, a field there is wanted as a value. -/
def rootPosition (returnValues : Bool) : Position :=
  if returnValues then .value else .truth

/-- A place where a field is read: through a reference or not, and at which position. -/
structure Site where
  position : Position
  isReference : Bool
  read : FieldRead

namespace Site

/-- The node that stands there. -/
def node (site : Site) : Node :=
  if site.isReference then .reference site.read else .field site.read

/-- Whether the field is only tested for presence. -/
def isTested (site : Site) : Bool :=
  !site.isReference && site.position = .truth

/-- Whether the raw bytes are wanted. Their rawness does not matter to presence. -/
def raw (site : Site) : Bool :=
  !site.isTested && site.read.raw

/-- The operation that reads the site: bytes that are wanted need a form of their own. -/
def opcode (site : Site) : Opcode :=
  match site.isReference, site.isTested, (windows site.read.range?).isEmpty with
  | true, _, true => .readReference
  | true, _, false => .readReferenceRange
  | false, true, true => .checkExists
  | false, true, false => .checkExistsRange
  | false, false, true => .readTree
  | false, false, false => .readTreeRange

/-- A field that is wanted as a value is read. -/
theorem opcode_value (read : FieldRead) : opcode ⟨.value, false, read⟩ =
    if (windows read.range?).isEmpty then .readTree else .readTreeRange := by
  unfold opcode
  cases (windows read.range?).isEmpty <;> rfl

/-- A field that is wanted as a truth value is tested for presence. -/
theorem opcode_truth (read : FieldRead) : opcode ⟨.truth, false, read⟩ =
    if (windows read.range?).isEmpty then .checkExists else .checkExistsRange := by
  unfold opcode
  cases (windows read.range?).isEmpty <;> rfl

theorem opcode_reference (position : Position) (read : FieldRead) : opcode ⟨position, true, read⟩ =
    if (windows read.range?).isEmpty then .readReference else .readReferenceRange := by
  unfold opcode
  cases (windows read.range?).isEmpty <;> rfl

end Site

namespace Node

/-- Whether a node reads a field. -/
def isSite : Node → Bool
  | .field _ | .reference _ => true
  | _ => false

/-- The site that a node is at a position, if it reads a field. -/
def site? : Position × Node → Option Site
  | (position, .field read) => some ⟨position, false, read⟩
  | (position, .reference read) => some ⟨position, true, read⟩
  | _ => none

mutual

/-- The nodes of a tree with their positions, each before those below it. -/
def placed (position : Position) : Node → List (Position × Node)
  | .missing => []
  | .test operator quantifier left right =>
    (position, .test operator quantifier left right) ::
      (left.placed operator.operandPosition ++ right.placed operator.operandPosition)
  | .arithmetic operator left right =>
    (position, .arithmetic operator left right) :: (left.placed .value ++ right.placed .value)
  | .call definition? arguments => (position, .call definition? arguments) :: placedAll arguments
  | .slice entity range? => (position, .slice entity range?) :: entity.placed .value
  | .set elements => (position, .set elements) :: placedElements elements
  | node => [(position, node)]

/-- The nodes of several trees that stand where values are wanted. -/
def placedAll : List Node → List (Position × Node)
  | [] => []
  | node :: nodes => node.placed .value ++ placedAll nodes

/-- The nodes of the members of a set. -/
def placedElements : List Element → List (Position × Node)
  | [] => []
  | .single low :: elements => low.placed .value ++ placedElements elements
  | .between low high :: elements =>
    low.placed .value ++ (high.placed .value ++ placedElements elements)

end

/-- The sites of a tree that stands at a position. -/
def sites (position : Position) (node : Node) : List Site :=
  (node.placed position).filterMap site?

/-- The sites of several trees that stand where values are wanted. -/
def sitesAll (nodes : List Node) : List Site :=
  (placedAll nodes).filterMap site?

/-- The sites of the members of a set. -/
def sitesOfElements (elements : List Element) : List Site :=
  (placedElements elements).filterMap site?

/-! ### Positions add nothing to a tree -/

mutual

/-- Without their positions, the nodes are those of the tree. -/
theorem map_snd_placed (node : Node) (position : Position) :
    (node.placed position).map Prod.snd = node.preorder := by
  match node with
  | .missing | .field _ | .reference _ | .value _ | .pattern _ => rfl
  | .test operator quantifier left right =>
    rw [placed, preorder, List.map_cons, List.map_append, map_snd_placed left, map_snd_placed right]
  | .arithmetic operator left right =>
    rw [placed, preorder, List.map_cons, List.map_append, map_snd_placed left, map_snd_placed right]
  | .call definition? arguments =>
    rw [placed, preorder, List.map_cons, map_snd_placedAll arguments]
  | .slice entity range? => rw [placed, preorder, List.map_cons, map_snd_placed entity]
  | .set elements => rw [placed, preorder, List.map_cons, map_snd_placedElements elements]

theorem map_snd_placedAll (nodes : List Node) :
    (placedAll nodes).map Prod.snd = preorderAll nodes := by
  match nodes with
  | [] => rfl
  | node :: nodes =>
    rw [placedAll, preorderAll, List.map_append, map_snd_placed node, map_snd_placedAll nodes]

theorem map_snd_placedElements (elements : List Element) :
    (placedElements elements).map Prod.snd = preorderElements elements := by
  match elements with
  | [] => rfl
  | element :: elements =>
    have rest := map_snd_placedElements elements
    cases element with
    | single low =>
      rw [placedElements, preorderElements, List.map_append, map_snd_placed low, rest]
    | between low high =>
      rw [placedElements, preorderElements, List.map_append, List.map_append, map_snd_placed low,
        map_snd_placed high, rest]

end

/-- **The sites are the field and reference nodes of the tree, in its order.** -/
theorem map_node_sites (node : Node) (position : Position) :
    (node.sites position).map Site.node = node.preorder.filter isSite := by
  rw [sites, List.map_filterMap, ← map_snd_placed node position, ← List.filterMap_eq_filter,
    List.filterMap_map]
  congr 1
  funext place
  obtain ⟨_, below⟩ := place
  cases below <;> rfl

/-! ### Sites by kind of node -/

section Kinds

variable (position : Position)

@[simp] theorem sites_slice (entity : Node) (range? : Option ByteRange) :
    sites position (.slice entity range?) = entity.sites .value := by
  simp [sites, placed, site?, List.filterMap_cons]

@[simp] theorem sites_call (definition? : Option FunctionDef) (arguments : List Node) :
    sites position (.call definition? arguments) = sitesAll arguments := by
  simp [sites, sitesAll, placed, site?, List.filterMap_cons]

@[simp] theorem sites_arithmetic (operator : Operator) (left right : Node) :
    sites position (.arithmetic operator left right) = left.sites .value ++ right.sites .value := by
  simp [sites, placed, site?, List.filterMap_cons]

@[simp] theorem sites_test (operator : Operator) (quantifier : Quantifier) (left right : Node) :
    sites position (.test operator quantifier left right) =
      left.sites operator.operandPosition ++ right.sites operator.operandPosition := by
  simp [sites, placed, site?, List.filterMap_cons]

@[simp] theorem sites_set (elements : List Element) :
    sites position (.set elements) = sitesOfElements elements := by
  simp [sites, sitesOfElements, placed, site?, List.filterMap_cons]

@[simp] theorem sitesAll_cons (node : Node) (nodes : List Node) :
    sitesAll (node :: nodes) = node.sites .value ++ sitesAll nodes := by
  simp [sitesAll, placedAll, sites]

@[simp] theorem sitesOfElements_single (low : Node) (elements : List Element) :
    sitesOfElements (.single low :: elements) = low.sites .value ++ sitesOfElements elements := by
  simp [sitesOfElements, placedElements, sites]

@[simp] theorem sitesOfElements_between (low high : Node) (elements : List Element) :
    sitesOfElements (.between low high :: elements) =
      low.sites .value ++ (high.sites .value ++ sitesOfElements elements) := by
  simp [sitesOfElements, placedElements, sites]

end Kinds

end Node

/-! ### Instructions that read fields -/

namespace Opcode

/-- Whether the operation reads a field or tests one for presence. -/
def isReading : Opcode → Bool
  | .readTree | .readTreeRange | .readReference | .readReferenceRange | .checkExists
  | .checkExistsRange => true
  | _ => false

/-- The operand slot that names the bytes wanted of a field. -/
def rangeSlot? : Opcode → Option Nat
  | .readTreeRange | .readReferenceRange => some 2
  | .checkExistsRange => some 1
  | _ => none

end Opcode

namespace Code

variable {code before after : Code} {registry : Registry}

/-- The instructions that read fields or test them for presence. -/
def readings (code : Code) : List Instruction :=
  code.instructions.toList.filter fun instruction => instruction.opcode.isReading

/-- An instruction reads what is wanted at a site: by the operation for it, the field that stands for
the one written there, and the bytes if only some are wanted. -/
structure ReadsFor (code : Code) (registry : Registry) (instruction : Instruction) (site : Site) :
    Prop where
  opcode : instruction.opcode = site.opcode
  field : ∃ written, site.read.field? = some written ∧
    code.Has instruction.first (.field (registry.canonical written) site.raw)
  range : ∀ slot, instruction.opcode.rangeSlot? = some slot →
    ∃ handle, instruction.slots[slot]? = some handle ∧
      code.Has handle (.range (windows site.read.range?))

theorem ReadsFor.keep {instruction : Instruction} {site : Site}
    (reads : before.ReadsFor registry instruction site) (kept : before.Keeps after) :
    after.ReadsFor registry instruction site := by
  refine ⟨reads.opcode, ?_, fun slot ranged => ?_⟩
  · obtain ⟨written, known, has⟩ := reads.field
    exact ⟨written, known, has.keep kept rfl⟩
  · obtain ⟨handle, held, has⟩ := reads.range slot ranged
    exact ⟨handle, held, has.keep kept rfl⟩

/-! ### What operations on code add to the readings -/

theorem readings_emit {opcode : Opcode} (operands : List Handle) (reads : opcode.isReading = true) :
    (code.emit opcode operands).readings =
      code.readings ++ [.of code.instructions.size opcode operands] := by
  unfold readings
  rw [emit_instructions, Array.toList_push, List.filter_append, List.filter_cons_of_pos
    (by exact reads), List.filter_nil]

theorem readings_emit_quiet {opcode : Opcode} (operands : List Handle)
    (quiet : opcode.isReading = false) :
    (code.emit opcode operands).readings = code.readings := by
  unfold readings
  rw [emit_instructions, Array.toList_push, List.filter_append,
    List.filter_cons_of_neg (by exact Bool.eq_false_iff.mp quiet), List.filter_nil, List.append_nil]

end Code

end DisplayFilter
