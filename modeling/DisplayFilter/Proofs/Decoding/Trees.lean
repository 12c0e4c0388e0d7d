/-
**Trees from outlines.**

A tree that was read from an outline has no gaps: every node has the parts that its kind needs, its
operators and quantifiers are declared, and its field is known. On the way the fields were resolved
one after another, in the order in which they stand in the tree.

* `Node.isWhole`: a node has everything that its kind needs.
* `Resolved`: fields that were resolved one after another.
* `Decoded`: the nodes of a decoded tree.
* `Outline.toNode_decoded`: outlines are decoded to trees without gaps.
-/

import DisplayFilter.Node.Traversal
import DisplayFilter.Outline.Decode
import DisplayFilter.Proofs.ByteRange.Written
import DisplayFilter.Proofs.Validation.Acceptance

namespace DisplayFilter

/-! ### Trees without gaps -/

/-- Whether the values of a member of a set are there. -/
def Element.isPresent : Element → Bool
  | .single low => low.isPresent
  | .between low high => low.isPresent && high.isPresent

namespace Node

/-- Whether a node has everything that its kind needs, and a declared operator and quantifier. -/
def isWhole : Node → Bool
  | .missing => false
  | .test operator quantifier left right =>
    operator.isDeclared && !operator.isArithmetic && quantifier.isDeclared && left.isPresent &&
      right.isPresent == (operator != .not)
  | .arithmetic operator left right =>
    operator.isArithmetic && left.isPresent && right.isPresent == (operator != .negate)
  | .field read => read.field?.isSome
  | .reference read => read.field?.isSome
  | .value _ => true
  | .pattern pattern? => pattern?.isSome
  | .slice entity range? => entity.isPresent && !(windows range?).isEmpty
  | .call definition? arguments => definition?.isSome && arguments.all isPresent
  | .set elements => elements.all Element.isPresent

theorem preorderElements_cons (element : Element) (elements : List Element) :
    preorderElements (element :: elements) =
      preorderElements [element] ++ preorderElements elements := by
  cases element <;> simp [preorderElements]

/-- Only what is missing is not among its own nodes. -/
theorem isPresent_of_preorder {node : Node} {below : List Node}
    (listed : node.preorder = node :: below) : node.isPresent = true := by
  cases node with
  | missing =>
    rw [preorder] at listed
    cases listed
  | _ => rfl

/-- What a node reads, if it reads a field. -/
def read? : Node → Option FieldRead
  | .field read => some read
  | .reference read => some read
  | _ => none

end Node

/-- Fields that are read were resolved one after another. -/
inductive Resolved (resolver : Resolver) : Table → List FieldRead → Table → Prop
  | nil (table : Table) : Resolved resolver table [] table
  | cons {before middle after : Table} {abbreviation : RawText} {field : Field} {read : FieldRead}
      {reads : List FieldRead} (found : resolver abbreviation before = .ok (field, middle))
      (known : read.field? = some field) (rest : Resolved resolver middle reads after) :
      Resolved resolver before (read :: reads) after

theorem Resolved.append {resolver : Resolver} {before middle after : Table}
    {reads more : List FieldRead} (first : Resolved resolver before reads middle)
    (second : Resolved resolver middle more after) :
    Resolved resolver before (reads ++ more) after := by
  induction first with
  | nil => exact second
  | cons found known _ ih => exact .cons found known (ih second)

/-- The nodes were made without gaps, and their fields resolved in order. -/
structure Decoded (resolver : Resolver) (before : Table) (nodes : List Node) (after : Table) :
    Prop where
  whole : ∀ node ∈ nodes, node.isWhole = true
  resolved : Resolved resolver before (nodes.filterMap Node.read?) after

namespace Decoded

variable {resolver : Resolver} {before middle after : Table} {nodes more : List Node} {node : Node}

theorem nil (table : Table) : Decoded resolver table [] table :=
  ⟨List.forall_mem_nil _, .nil table⟩

theorem append (first : Decoded resolver before nodes middle)
    (second : Decoded resolver middle more after) : Decoded resolver before (nodes ++ more) after := by
  refine ⟨List.forall_mem_append.mpr ⟨first.whole, second.whole⟩, ?_⟩
  rw [List.filterMap_append]
  exact first.resolved.append second.resolved

/-- A node above others that reads no field itself. -/
theorem above (whole : node.isWhole = true) (quiet : node.read? = none)
    (below : Decoded resolver before nodes after) : Decoded resolver before (node :: nodes) after := by
  refine ⟨List.forall_mem_cons.mpr ⟨whole, below.whole⟩, ?_⟩
  rw [List.filterMap_cons_none quiet]
  exact below.resolved

/-- A node that reads a field. -/
theorem site {abbreviation : RawText} {field : Field} {read : FieldRead}
    (whole : node.isWhole = true) (reads : node.read? = some read)
    (found : resolver abbreviation before = .ok (field, after)) (known : read.field? = some field) :
    Decoded resolver before [node] after := by
  refine ⟨List.forall_mem_singleton.mpr whole, ?_⟩
  rw [List.filterMap_cons_some reads]
  exact .cons found known (.nil after)

end Decoded

/-! ### Steps of decoding -/

namespace Decoding

variable {α β : Type} {step : Decoding α} {next : α → Decoding β} {before : Table}

/-- What is true of the result of a step and of the table after it, if the step succeeds. -/
def Ends (step : Decoding α) (before : Table) (post : α → Table → Prop) : Prop :=
  ∀ result after, step before = .ok (result, after) → post result after

theorem ends_throw (fault : Fault) (post : α → Table → Prop) :
    Ends (throw fault : Decoding α) before post := by
  intro result after run
  cases run

theorem ends_pure {value : α} {post : α → Table → Prop} (holds : post value before) :
    Ends (pure value : Decoding α) before post := by
  intro result after run
  cases run
  exact holds

/-- **Steps one after another.** -/
theorem Ends.bind {early : α → Table → Prop} {post : β → Table → Prop}
    (first : Ends step before early)
    (rest : ∀ value middle, early value middle → Ends (next value) middle post) :
    Ends (step >>= next) before post := by
  intro result after run
  change (step before >>= fun reached => next reached.1 reached.2) = _ at run
  cases reached : step before with
  | error fault =>
    rw [reached] at run
    cases run
  | ok middle =>
    rw [reached] at run
    exact rest middle.1 middle.2 (first _ _ reached) result after run

end Decoding

/-- Operators are found by name among the declared ones. -/
theorem Operator.isDeclared_of_ofName? {name : String} {operator : Operator}
    (found : ofName? name = some operator) : operator.isDeclared = true := by
  have declared : ∀ operator ∈ declared, operator.isDeclared = true := by decide
  exact declared operator (List.mem_of_find?_eq_some found)

theorem Quantifier.isDeclared_of_ofWord? {word : String} {quantifier : Quantifier}
    (found : ofWord? word = some quantifier) : quantifier.isDeclared = true := by
  unfold ofWord? at found
  split_ifs at found <;> cases found <;> rfl

namespace Outline

open Decoding

variable {keys : OutlineKeys} {path : String} {before : Table}

theorem variant_ends (outline : Outline) :
    Ends (outline.variant path) before fun _ after => after = before := by
  unfold variant
  split
  · exact ends_pure rfl
  · exact ends_throw _ _
  · exact ends_throw _ _

theorem rangeOf_ends (text : RawText) :
    Ends (rangeOf text path) before fun range after => range ≠ [] ∧ after = before := by
  unfold rangeOf
  split
  · rename_i parsed
    exact ends_pure ⟨ByteRange.parse_ne_nil parsed, rfl⟩
  · exact ends_throw _ _

theorem testOperator_ends :
    Ends (testOperator keys path) before fun operator after =>
      operator.isDeclared = true ∧ operator.isArithmetic = false ∧ after = before := by
  unfold testOperator
  split
  · rename_i found
    split
    · exact ends_throw _ _
    · rename_i plain
      obtain ⟨name, _, known⟩ := Option.bind_eq_some_iff.mp found
      exact ends_pure ⟨Operator.isDeclared_of_ofName? known, Bool.not_eq_true _ ▸ plain, rfl⟩
  · exact ends_throw _ _

theorem arithmeticOperator_ends :
    Ends (arithmeticOperator keys path) before fun operator after =>
      operator.isArithmetic = true ∧ after = before := by
  unfold arithmeticOperator
  split
  · split
    · rename_i computes
      exact ends_pure ⟨computes, rfl⟩
    · exact ends_throw _ _
  · exact ends_throw _ _

theorem quantifierOf_ends :
    Ends (quantifierOf keys path) before fun quantifier after =>
      quantifier.isDeclared = true ∧ after = before := by
  unfold quantifierOf
  split
  · rename_i found
    obtain ⟨word, _, known⟩ := Option.bind_eq_some_iff.mp found
    exact ends_pure ⟨Quantifier.isDeclared_of_ofWord? known, rfl⟩
  · exact ends_throw _ _

theorem constantOf_ends : Ends (constantOf keys path) before fun _ after => after = before := by
  unfold constantOf
  split
  · exact ends_pure rfl
  · exact ends_throw _ _

theorem patternOf_ends : Ends (patternOf keys path) before fun _ after => after = before := by
  unfold patternOf
  split
  · exact ends_pure rfl
  · exact ends_throw _ _

theorem functionOf_ends : Ends (functionOf keys path) before fun _ after => after = before := by
  unfold functionOf
  split
  · exact ends_pure rfl
  · exact ends_throw _ _

/-- A field is resolved by its abbreviation. -/
theorem fieldOf_ends (resolver : Resolver) (abbreviation : RawText) :
    Ends (fieldOf resolver keys abbreviation path) before fun read after =>
      ∃ field, resolver abbreviation before = .ok (field, after) ∧ read.field? = some field := by
  have asked : Ends (fun table => (resolver abbreviation table).mapError (located path)) before
      fun field after => resolver abbreviation before = .ok (field, after) := by
    intro field after run
    dsimp only at run
    cases answer : resolver abbreviation before with
    | error fault =>
      rw [answer] at run
      cases run
    | ok reached =>
      rw [answer] at run
      cases run
      rfl
  unfold fieldOf
  refine asked.bind fun field middle found => ?_
  dsimp only
  split
  · exact ends_pure ⟨field, found, rfl⟩
  · have ranged : Ends (some <$> rangeOf keys.range path) middle fun _ after => after = middle :=
      (rangeOf_ends keys.range).bind fun range last parsed => ends_pure parsed.2
    exact ranged.bind fun range? last same => ends_pure ⟨field, same ▸ found, rfl⟩

/-! ### Trees -/

/-- A step that makes a node, with the nodes below it decoded. -/
def DecodesNode (resolver : Resolver) (step : Decoding Node) : Prop :=
  ∀ before, Ends step before fun node after =>
    node.isPresent = true ∧ Decoded resolver before node.preorder after

/-- A step that makes the arguments of a call. -/
def DecodesNodes (resolver : Resolver) (step : Decoding (List Node)) : Prop :=
  ∀ before, Ends step before fun nodes after =>
    nodes.all Node.isPresent = true ∧ Decoded resolver before (Node.preorderAll nodes) after

/-- A step that makes a member of a set. -/
def DecodesElement (resolver : Resolver) (step : Decoding Element) : Prop :=
  ∀ before, Ends step before fun element after =>
    element.isPresent = true ∧ Decoded resolver before (Node.preorderElements [element]) after

/-- A step that makes the members of a set. -/
def DecodesElements (resolver : Resolver) (step : Decoding (List Element)) : Prop :=
  ∀ before, Ends step before fun elements after =>
    elements.all Element.isPresent = true ∧
      Decoded resolver before (Node.preorderElements elements) after

variable {resolver : Resolver} {left right slice : Option Outline}
  {arguments : List (Option Outline)} {set between : Option (List (Option Outline))}

/-- A node with one or two sides, as its operator asks for. -/
theorem sides_decoded (node : Node → Node → Node) (unary : Prop) [Decidable unary] (told : String)
    (quiet : ∀ left right, (node left right).read? = none)
    (listed : ∀ left right, (node left right).preorder =
      node left right :: (left.preorder ++ right.preorder))
    (whole : ∀ left right, left.isPresent = true → right.isPresent = !decide unary →
      (node left right).isWhole = true)
    (first : DecodesNode resolver (partNode resolver left (path ++ ".left")))
    (second : DecodesNode resolver (partNode resolver right (path ++ ".right"))) :
    DecodesNode resolver (do
      let left ← partNode resolver left (path ++ ".left")
      if unary then
        if right.isSome then malformed .malformedNode (path ++ ".right") told
        return node left .missing
      return node left (← partNode resolver right (path ++ ".right"))) := by
  intro before
  refine (first before).bind fun left after made => ?_
  dsimp only
  split
  · rename_i alone
    split
    · exact ends_throw _ _
    · refine ends_pure ⟨Node.isPresent_of_preorder (listed _ _), ?_⟩
      rw [listed, Node.preorder, List.append_nil]
      exact .above (whole left .missing made.1 (by simp [alone, Node.isPresent])) (quiet _ _) made.2
  · rename_i both
    refine (second after).bind fun right last more => ?_
    refine ends_pure ⟨Node.isPresent_of_preorder (listed _ _), ?_⟩
    rw [listed]
    exact .above (whole left right made.1 (by simp [both, more.1])) (quiet _ _)
      (made.2.append more.2)

theorem test_decoded
    (first : DecodesNode resolver (partNode resolver left (path ++ ".left")))
    (second : DecodesNode resolver (partNode resolver right (path ++ ".right"))) :
    DecodesNode resolver (do
      let operator ← testOperator keys path
      let quantifier ← quantifierOf keys path
      let left ← partNode resolver left (path ++ ".left")
      if operator = .not then
        if right.isSome then malformed .malformedNode (path ++ ".right") "not takes one operand"
        return .test operator quantifier left .missing
      return .test operator quantifier left (← partNode resolver right (path ++ ".right"))) := by
  intro before
  refine testOperator_ends.bind fun operator middle known => ?_
  obtain ⟨declared, plain, rfl⟩ := known
  refine quantifierOf_ends.bind fun quantifier middle stated => ?_
  obtain ⟨stated, rfl⟩ := stated
  refine sides_decoded (.test operator quantifier) (operator = .not) _ (fun _ _ => rfl)
    (fun _ _ => by rw [Node.preorder]) (fun left right one other => ?_) first second middle
  simp [Node.isWhole, declared, plain, stated, one, other, bne, beq_eq_decide]

theorem arithmetic_decoded
    (first : DecodesNode resolver (partNode resolver left (path ++ ".left")))
    (second : DecodesNode resolver (partNode resolver right (path ++ ".right"))) :
    DecodesNode resolver (do
      let operator ← arithmeticOperator keys path
      let left ← partNode resolver left (path ++ ".left")
      if operator = .negate then
        if right.isSome then
          malformed .malformedNode (path ++ ".right") "unary minus takes one operand"
        return .arithmetic operator left .missing
      return .arithmetic operator left (← partNode resolver right (path ++ ".right"))) := by
  intro before
  refine arithmeticOperator_ends.bind fun operator middle known => ?_
  obtain ⟨computes, rfl⟩ := known
  refine sides_decoded (.arithmetic operator) (operator = .negate) _ (fun _ _ => rfl)
    (fun _ _ => by rw [Node.preorder]) (fun left right one other => ?_) first second middle
  simp [Node.isWhole, computes, one, other, bne, beq_eq_decide]

theorem field_decoded (abbreviation : RawText) (node : FieldRead → Node)
    (reads : ∀ read, (node read).read? = some read)
    (single : ∀ read, (node read).preorder = [node read])
    (whole : ∀ read, (node read).isWhole = read.field?.isSome) :
    DecodesNode resolver (do return node (← fieldOf resolver keys abbreviation path)) := by
  intro before
  refine (fieldOf_ends resolver abbreviation).bind fun read after made => ?_
  obtain ⟨field, found, known⟩ := made
  refine ends_pure ⟨Node.isPresent_of_preorder (single read), ?_⟩
  rw [single]
  exact .site (by rw [whole, known]; rfl) (reads read) found known

theorem slice_decoded (inner : DecodesNode resolver (partNode resolver slice (path ++ ".slice"))) :
    DecodesNode resolver (do
      let entity ← partNode resolver slice (path ++ ".slice")
      return .slice entity (some (← rangeOf keys.range path))) := by
  intro before
  refine (inner before).bind fun entity after made => ?_
  refine (rangeOf_ends keys.range).bind fun range last parsed => ?_
  obtain ⟨nonempty, rfl⟩ := parsed
  refine ends_pure ⟨rfl, .above ?_ rfl made.2⟩
  simp [Node.isWhole, made.1, windows, nonempty]

theorem call_decoded (inner : DecodesNodes resolver (argumentNodes resolver arguments path 0)) :
    DecodesNode resolver (do
      let definition ← functionOf keys path
      return .call (some definition) (← argumentNodes resolver arguments path 0)) := by
  intro before
  refine functionOf_ends.bind fun definition middle same => ?_
  subst same
  refine (inner middle).bind fun nodes after made => ?_
  refine ends_pure ⟨rfl, .above ?_ rfl made.2⟩
  rw [Node.isWhole, made.1]
  rfl

theorem single_decoded {step : Decoding Node} (inner : DecodesNode resolver step) :
    DecodesElement resolver (do return .single (← step)) := by
  intro before
  refine (inner before).bind fun low after made => ?_
  refine ends_pure ⟨made.1, ?_⟩
  rw [Node.preorderElements, Node.preorderElements, List.append_nil]
  exact made.2

mutual

/-- **Outlines are decoded to trees without gaps.** -/
theorem toNode_decoded (outline : Outline) (path : String) :
    DecodesNode resolver (toNode resolver outline path) := by
  match outline with
  | .node keys left right slice arguments set between =>
    intro before
    unfold toNode
    refine (variant_ends _).bind fun kind middle same => ?_
    subst same
    cases kind with
    | test =>
      exact test_decoded (partNode_decoded left _) (partNode_decoded right _) middle
    | arithmetic =>
      exact arithmetic_decoded (partNode_decoded left _) (partNode_decoded right _) middle
    | field =>
      exact field_decoded keys.field .field (fun _ => rfl) (fun _ => rfl) (fun _ => rfl) middle
    | reference =>
      exact field_decoded keys.reference .reference (fun _ => rfl) (fun _ => rfl) (fun _ => rfl)
        middle
    | value =>
      refine constantOf_ends.bind fun constant after same => ?_
      subst same
      exact ends_pure ⟨rfl, .above rfl rfl (.nil _)⟩
    | pattern =>
      refine patternOf_ends.bind fun pattern after same => ?_
      subst same
      exact ends_pure ⟨rfl, .above rfl rfl (.nil _)⟩
    | slice => exact slice_decoded (partNode_decoded slice _) middle
    | function => exact call_decoded (argumentNodes_decoded arguments path 0) middle
    | set =>
      refine (setElements_decoded set path middle).bind fun elements after made => ?_
      exact ends_pure ⟨rfl, .above made.1 rfl made.2⟩

theorem partNode_decoded (part : Option Outline) (path : String) :
    DecodesNode resolver (partNode resolver part path) := by
  match part with
  | none =>
    unfold partNode
    exact fun _ => ends_throw _ _
  | some outline =>
    unfold partNode
    exact toNode_decoded outline path

theorem argumentNodes_decoded (arguments : List (Option Outline)) (path : String) (index : Nat) :
    DecodesNodes resolver (argumentNodes resolver arguments path index) := by
  match arguments with
  | [] =>
    unfold argumentNodes
    exact fun before => ends_pure ⟨rfl, .nil before⟩
  | argument :: arguments =>
    intro before
    unfold argumentNodes
    refine (partNode_decoded argument _ before).bind fun node middle made => ?_
    refine (argumentNodes_decoded arguments path (index + 1) middle).bind fun nodes after more => ?_
    refine ends_pure ⟨?_, made.2.append more.2⟩
    rw [List.all_cons, made.1, more.1]
    rfl

theorem setElements_decoded (members? : Option (List (Option Outline))) (path : String) :
    DecodesElements resolver (setElements resolver members? path) := by
  match members? with
  | none =>
    unfold setElements
    exact fun before => ends_pure ⟨rfl, .nil before⟩
  | some members =>
    unfold setElements
    exact elementsFrom_decoded members path 0

theorem elementsFrom_decoded (members : List (Option Outline)) (path : String) (index : Nat) :
    DecodesElements resolver (elementsFrom resolver members path index) := by
  match members with
  | [] =>
    unfold elementsFrom
    exact fun before => ends_pure ⟨rfl, .nil before⟩
  | member :: members =>
    intro before
    unfold elementsFrom
    refine (element_decoded member _ before).bind fun element middle made => ?_
    refine (elementsFrom_decoded members path (index + 1) middle).bind fun elements after more => ?_
    refine ends_pure ⟨?_, ?_⟩
    · rw [List.all_cons, made.1, more.1]
      rfl
    · rw [Node.preorderElements_cons]
      exact made.2.append more.2

theorem element_decoded (member : Option Outline) (path : String) :
    DecodesElement resolver (element resolver member path) := by
  match member with
  | none =>
    unfold element
    exact single_decoded (partNode_decoded none path)
  | some (.node keys left right slice arguments set none) =>
    unfold element
    exact single_decoded (partNode_decoded (some (.node keys left right slice arguments set none)) path)
  | some (.node keys left right slice arguments set (some bounds)) =>
    unfold element
    exact boundsElement_decoded bounds path

theorem boundsElement_decoded (bounds : List (Option Outline)) (path : String) :
    DecodesElement resolver (boundsElement resolver bounds path) := by
  match bounds with
  | [low, high] =>
    intro before
    unfold boundsElement
    refine (partNode_decoded low _ before).bind fun low middle made => ?_
    refine (partNode_decoded high _ middle).bind fun high after more => ?_
    refine ends_pure ⟨?_, ?_⟩
    · rw [Element.isPresent, made.1, more.1]
      rfl
    · rw [Node.preorderElements, Node.preorderElements, List.append_nil]
      exact made.2.append more.2
  | [] | [_] | _ :: _ :: _ :: _ =>
    unfold boundsElement
    exact fun _ => ends_throw _ _

end

end Outline

end DisplayFilter
