/-
**Trees that differ in the fields they name.**

Two trees may be the same up to the fields that their nodes read, where one field stands in for
another. `Node.Alike` tells this for any relation between fields. As long as related fields have the
same abbreviation, alike trees are shown and described alike, and they are valid or not for the same
reasons.

* `FieldRead.Alike`, `Node.Alike`: reads and trees that are the same up to their fields.
* `Node.Alike.describe_eq`: how they are named in messages.
* `Node.Alike.validate_eq`, `Node.Alike.validationFault?_eq`: what is wrong with them.
* `Node.alike_self`: a tree is alike to itself.
-/

import DisplayFilter.Validation
import DisplayFilter.Proofs.Lists

namespace DisplayFilter

variable {same : Field → Field → Prop}

/-! ### Reads and trees -/

/-- Two reads of related fields, or of no field at all, that want the same of them. -/
inductive FieldRead.Alike (same : Field → Field → Prop) : FieldRead → FieldRead → Prop
  | known {field other : Field} (related : same field other) (range? : Option ByteRange)
    (raw valueString : Bool) :
    Alike same ⟨some field, range?, raw, valueString⟩ ⟨some other, range?, raw, valueString⟩
  | unknown (range? : Option ByteRange) (raw valueString : Bool) :
    Alike same ⟨none, range?, raw, valueString⟩ ⟨none, range?, raw, valueString⟩

mutual

/-- Two trees that are the same up to the fields that their nodes read. -/
inductive Node.Alike (same : Field → Field → Prop) : Node → Node → Prop
  | missing : Node.Alike same .missing .missing
  | test (operator : Operator) (quantifier : Quantifier) {left right left' right' : Node}
    (first : Node.Alike same left left') (second : Node.Alike same right right') :
    Node.Alike same (.test operator quantifier left right) (.test operator quantifier left' right')
  | arithmetic (operator : Operator) {left right left' right' : Node}
    (first : Node.Alike same left left') (second : Node.Alike same right right') :
    Node.Alike same (.arithmetic operator left right) (.arithmetic operator left' right')
  | field {read read' : FieldRead} (reads : FieldRead.Alike same read read') :
    Node.Alike same (.field read) (.field read')
  | reference {read read' : FieldRead} (reads : FieldRead.Alike same read read') :
    Node.Alike same (.reference read) (.reference read')
  | value (constant : Constant) : Node.Alike same (.value constant) (.value constant)
  | pattern (pattern? : Option Pattern) : Node.Alike same (.pattern pattern?) (.pattern pattern?)
  | slice {entity entity' : Node} (inner : Node.Alike same entity entity')
    (range? : Option ByteRange) : Node.Alike same (.slice entity range?) (.slice entity' range?)
  | call (definition? : Option FunctionDef) {arguments arguments' : List Node}
    (all : Node.AllAlike same arguments arguments') :
    Node.Alike same (.call definition? arguments) (.call definition? arguments')
  | set {elements elements' : List Element} (all : Node.ElementsAlike same elements elements') :
    Node.Alike same (.set elements) (.set elements')

/-- Lists of trees that are alike one by one. -/
inductive Node.AllAlike (same : Field → Field → Prop) : List Node → List Node → Prop
  | nil : Node.AllAlike same [] []
  | cons {node node' : Node} {nodes nodes' : List Node} (first : Node.Alike same node node')
    (rest : Node.AllAlike same nodes nodes') : Node.AllAlike same (node :: nodes) (node' :: nodes')

/-- Members of sets that are alike one by one. -/
inductive Node.ElementsAlike (same : Field → Field → Prop) : List Element → List Element → Prop
  | nil : Node.ElementsAlike same [] []
  | single {low low' : Node} {elements elements' : List Element} (value : Node.Alike same low low')
    (rest : Node.ElementsAlike same elements elements') :
    Node.ElementsAlike same (.single low :: elements) (.single low' :: elements')
  | between {low low' high high' : Node} {elements elements' : List Element}
    (first : Node.Alike same low low') (second : Node.Alike same high high')
    (rest : Node.ElementsAlike same elements elements') :
    Node.ElementsAlike same (.between low high :: elements) (.between low' high' :: elements')

end

/-- Related fields have one abbreviation. -/
def KeepsNames (same : Field → Field → Prop) : Prop :=
  ∀ {field other : Field}, same field other → field.abbreviation = other.abbreviation

/-! ### How alike trees are shown -/

theorem FieldRead.Alike.text_eq (named : KeepsNames same) {read read' : FieldRead}
    (alike : read.Alike same read') : read.text = read'.text := by
  cases alike with
  | known related => simp only [FieldRead.text, named related]
  | unknown => rfl

theorem FieldRead.Alike.isNone_eq {read read' : FieldRead} (alike : read.Alike same read') :
    read.field?.isNone = read'.field?.isNone := by
  cases alike <;> rfl

namespace Node

theorem Alike.isPresent_eq {node node' : Node} (alike : node.Alike same node') :
    node.isPresent = node'.isPresent := by
  cases alike <;> rfl

mutual

theorem Alike.text_eq (named : KeepsNames same) {node node' : Node}
    (alike : node.Alike same node') : node.text = node'.text := by
  match node, node', alike with
  | _, _, .missing | _, _, .value _ | _, _, .pattern _ => rfl
  | _, _, .test operator quantifier first second =>
    simp only [text, first.text_eq named, second.text_eq named]
  | _, _, .arithmetic operator first second =>
    simp only [text, first.text_eq named, second.text_eq named, second.isPresent_eq]
  | _, _, .field reads => exact reads.text_eq named
  | _, _, .reference reads => simp only [text, reads.text_eq named]
  | _, _, .slice inner range? => simp only [text, inner.text_eq named]
  | _, _, .call definition? all => simp only [text, all.texts_eq named]
  | _, _, .set all => simp only [text, all.elementTexts_eq named]

theorem AllAlike.texts_eq (named : KeepsNames same) {nodes nodes' : List Node}
    (all : AllAlike same nodes nodes') : texts nodes = texts nodes' := by
  match nodes, nodes', all with
  | _, _, .nil => rfl
  | _, _, .cons first rest => rw [texts, texts, first.text_eq named, rest.texts_eq named]

theorem ElementsAlike.elementTexts_eq (named : KeepsNames same) {elements elements' : List Element}
    (all : ElementsAlike same elements elements') :
    elementTexts elements = elementTexts elements' := by
  match elements, elements', all with
  | _, _, .nil => rfl
  | _, _, .single low rest =>
    rw [elementTexts, elementTexts, low.text_eq named, rest.elementTexts_eq named]
  | _, _, .between low high rest =>
    rw [elementTexts, elementTexts, low.text_eq named, high.text_eq named,
      rest.elementTexts_eq named]

end

theorem Alike.describe_eq (named : KeepsNames same) {node node' : Node}
    (alike : node.Alike same node') : node.describe = node'.describe := by
  have shown := alike.text_eq named
  cases alike with
  | missing | test => rfl
  | _ => simp only [describe, shown]

/-! ### What is wrong with alike trees -/

theorem AllAlike.length_eq {nodes nodes' : List Node} (all : AllAlike same nodes nodes') :
    nodes.length = nodes'.length := by
  match nodes, nodes', all with
  | _, _, .nil => rfl
  | _, _, .cons _ rest => rw [List.length_cons, List.length_cons, rest.length_eq]

theorem AllAlike.callViolations_eq (named : KeepsNames same) (definition? : Option FunctionDef)
    {arguments arguments' : List Node} (all : AllAlike same arguments arguments') :
    callViolations definition? arguments = callViolations definition? arguments' := by
  cases definition? with
  | none => rfl
  | some definition =>
    have single : ∀ {argument argument' : Node}, argument.Alike same argument' →
        callViolations (some definition) [argument] =
          callViolations (some definition) [argument'] := by
      intro argument argument' alike
      have described := alike.describe_eq named
      cases alike with
      | field | reference => simp only [callViolations, List.length_singleton]
      | _ => simp only [callViolations, List.length_singleton, described]
    cases all with
    | nil => rfl
    | cons first rest =>
      cases rest with
      | nil => exact single first
      | cons _ rest => simp only [callViolations, List.length_cons, rest.length_eq]

theorem Alike.payloadViolations_eq (named : KeepsNames same) {node node' : Node}
    (alike : node.Alike same node') : node.payloadViolations = node'.payloadViolations := by
  cases alike with
  | missing | test | arithmetic | value | pattern | slice | set => rfl
  | field reads => simp only [payloadViolations, reads.isNone_eq]
  | reference reads => simp only [payloadViolations, reads.isNone_eq]
  | call definition? all => exact all.callViolations_eq named definition?

mutual

/-- Node by node, alike trees hold alike nodes. -/
theorem Alike.preorder {node node' : Node} (alike : node.Alike same node') :
    List.Forall₂ (Node.Alike same) node.preorder node'.preorder := by
  match node, node', alike with
  | _, _, .missing => exact .nil
  | _, _, .value constant => exact .cons (.value constant) .nil
  | _, _, .pattern pattern? => exact .cons (.pattern pattern?) .nil
  | _, _, .field reads => exact .cons (.field reads) .nil
  | _, _, .reference reads => exact .cons (.reference reads) .nil
  | _, _, .test operator quantifier first second =>
    exact .cons (.test operator quantifier first second)
      (List.rel_append first.preorder second.preorder)
  | _, _, .arithmetic operator first second =>
    exact .cons (.arithmetic operator first second)
      (List.rel_append first.preorder second.preorder)
  | _, _, .slice inner range? => exact .cons (.slice inner range?) inner.preorder
  | _, _, .call definition? all => exact .cons (.call definition? all) all.preorderAll
  | _, _, .set all => exact .cons (.set all) all.preorderElements

theorem AllAlike.preorderAll {nodes nodes' : List Node} (all : AllAlike same nodes nodes') :
    List.Forall₂ (Node.Alike same) (preorderAll nodes) (preorderAll nodes') := by
  match nodes, nodes', all with
  | _, _, .nil => exact .nil
  | _, _, .cons first rest => exact List.rel_append first.preorder rest.preorderAll

theorem ElementsAlike.preorderElements {elements elements' : List Element}
    (all : ElementsAlike same elements elements') :
    List.Forall₂ (Node.Alike same) (preorderElements elements) (preorderElements elements') := by
  match elements, elements', all with
  | _, _, .nil => exact .nil
  | _, _, .single low rest => exact List.rel_append low.preorder rest.preorderElements
  | _, _, .between low high rest =>
    exact List.rel_append low.preorder (List.rel_append high.preorder rest.preorderElements)

end

mutual

theorem Alike.entityViolations_eq (named : KeepsNames same) {node node' : Node}
    (alike : node.Alike same node') : node.entityViolations = node'.entityViolations := by
  match node, node', alike with
  | _, _, .missing | _, _, .value _ | _, _, .pattern _ | _, _, .field _ | _, _, .reference _
  | _, _, .set _ => rfl
  | _, _, .test operator quantifier first second =>
    simp only [entityViolations, Alike.describe_eq named (.test operator quantifier first second)]
  | _, _, .arithmetic operator first second =>
    simp only [entityViolations, first.entityViolations_eq named,
      second.entityViolations_eq named, second.isPresent_eq]
  | _, _, .slice inner range? => exact inner.entityViolations_eq named
  | _, _, .call definition? all => exact all.entitiesViolations_eq named

theorem AllAlike.entitiesViolations_eq (named : KeepsNames same) {nodes nodes' : List Node}
    (all : AllAlike same nodes nodes') : entitiesViolations nodes = entitiesViolations nodes' := by
  match nodes, nodes', all with
  | _, _, .nil => rfl
  | _, _, .cons first rest =>
    rw [entitiesViolations, entitiesViolations, first.entityViolations_eq named,
      rest.entitiesViolations_eq named]

end

theorem ElementsAlike.elementViolations_eq (named : KeepsNames same)
    {elements elements' : List Element} (all : ElementsAlike same elements elements') :
    elementViolations elements = elementViolations elements' := by
  match elements, elements', all with
  | _, _, .nil => rfl
  | _, _, .single low rest =>
    rw [elementViolations, elementViolations, low.entityViolations_eq named,
      rest.elementViolations_eq named]
  | _, _, .between low high rest =>
    rw [elementViolations, elementViolations, low.entityViolations_eq named,
      high.entityViolations_eq named, rest.elementViolations_eq named]

theorem Alike.membershipViolations_eq (named : KeepsNames same) (operator : Operator)
    {node node' : Node} (alike : node.Alike same node') :
    membershipViolations operator node = membershipViolations operator node' := by
  have described := alike.describe_eq named
  cases alike with
  | set all =>
    have violations := all.elementViolations_eq named
    cases all with
    | nil => rfl
    | _ => exact violations
  | _ => simp only [membershipViolations, described]

theorem Alike.predicateViolations_eq (named : KeepsNames same) {node node' : Node}
    (alike : node.Alike same node') : node.predicateViolations = node'.predicateViolations := by
  match node, node', alike with
  | _, _, .missing | _, _, .field _ => rfl
  | _, _, .test operator quantifier first second =>
    simp only [predicateViolations, first.predicateViolations_eq named,
      second.predicateViolations_eq named, first.entityViolations_eq named,
      second.entityViolations_eq named, second.isPresent_eq,
      second.membershipViolations_eq named]
  | _, _, .arithmetic operator first second =>
    exact Alike.entityViolations_eq named (.arithmetic operator first second)
  | _, _, .call definition? all => exact Alike.entityViolations_eq named (.call definition? all)
  | _, _, .slice inner range? => exact Alike.entityViolations_eq named (.slice inner range?)
  | _, _, .value constant => rfl
  | _, _, .pattern pattern? => rfl
  | _, _, .reference reads =>
    simp only [predicateViolations, Alike.describe_eq named (.reference reads)]
  | _, _, .set all => simp only [predicateViolations, Alike.describe_eq named (.set all)]

/-- **Alike trees are valid or not for the same reasons.** -/
theorem Alike.validate_eq (named : KeepsNames same) {node node' : Node}
    (alike : node.Alike same node') : validate node = validate node' := by
  have payloads := map_eq_of_forall₂ alike.preorder
    fun _ _ (held : Node.Alike same _ _) => held.payloadViolations_eq named
  simp only [validate, alike.isPresent_eq, alike.predicateViolations_eq named, List.flatMap_def,
    payloads]

theorem Alike.validationFault?_eq (named : KeepsNames same) {node node' : Node}
    (alike : node.Alike same node') : validationFault? node = validationFault? node' := by
  unfold validationFault?
  rw [alike.validate_eq named]

/-! ### Trees that are alike to themselves -/

/-- Whether what a node itself reads is alike to itself. -/
def ReadsAlike (same : Field → Field → Prop) : Node → Prop
  | .field read | .reference read => read.Alike same read
  | _ => True

mutual

/-- **A tree is alike to itself if what its nodes read is.** -/
theorem alike_self {node : Node} (reads : ∀ below ∈ node.preorder, below.ReadsAlike same) :
    node.Alike same node := by
  match node with
  | .missing => exact .missing
  | .value constant => exact .value constant
  | .pattern pattern? => exact .pattern pattern?
  | .field read => exact .field (reads _ (List.mem_singleton_self _))
  | .reference read => exact .reference (reads _ (List.mem_singleton_self _))
  | .test operator quantifier left right =>
    rw [preorder, List.forall_mem_cons, List.forall_mem_append] at reads
    exact .test operator quantifier (alike_self reads.2.1) (alike_self reads.2.2)
  | .arithmetic operator left right =>
    rw [preorder, List.forall_mem_cons, List.forall_mem_append] at reads
    exact .arithmetic operator (alike_self reads.2.1) (alike_self reads.2.2)
  | .slice entity range? =>
    rw [preorder, List.forall_mem_cons] at reads
    exact .slice (alike_self reads.2) range?
  | .call definition? arguments =>
    rw [preorder, List.forall_mem_cons] at reads
    exact .call definition? (allAlike_self reads.2)
  | .set elements =>
    rw [preorder, List.forall_mem_cons] at reads
    exact .set (elementsAlike_self reads.2)

theorem allAlike_self {nodes : List Node} (reads : ∀ below ∈ preorderAll nodes,
    below.ReadsAlike same) : AllAlike same nodes nodes := by
  match nodes with
  | [] => exact .nil
  | node :: nodes =>
    rw [preorderAll, List.forall_mem_append] at reads
    exact .cons (alike_self reads.1) (allAlike_self reads.2)

theorem elementsAlike_self {elements : List Element} (reads : ∀ below ∈ preorderElements elements,
    below.ReadsAlike same) : ElementsAlike same elements elements := by
  match elements with
  | [] => exact .nil
  | .single low :: elements =>
    rw [preorderElements, List.forall_mem_append] at reads
    exact .single (alike_self reads.1) (elementsAlike_self reads.2)
  | .between low high :: elements =>
    rw [preorderElements, List.forall_mem_append, List.forall_mem_append] at reads
    exact .between (alike_self reads.1) (alike_self reads.2.1) (elementsAlike_self reads.2.2)

end

end Node

end DisplayFilter
