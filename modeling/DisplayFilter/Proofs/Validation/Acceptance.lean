/-
**What validation says about code generation.**

Validation and code generation each go through a tree on their own. For values they agree: code is
made for a value unless validation reports something, and the one report that code generation does
not share is about the number of arguments of a function. For truth values they agree on trees whose
tests have a declared operator and a declared quantifier.

* `Node.isEntity_eq`: of which values code is made, told by what validation reports.
* `Node.isPredicate_iff_declared`: of which valid trees code is made.
* `validate_external`: validation never reports that code is at fault.
-/

import DisplayFilter.Proofs.Generation.Trace
import DisplayFilter.Validation

namespace DisplayFilter

/-- Whether a violation that validation reports does not keep code from being made. -/
def Violation.isLenient : Violation → Bool
  | .emptySet | .argumentCount .. => true
  | .noQuantifiedForm operator _ => operator.isLogical
  | _ => false

/-- Whether an operator is one of the declared ones. -/
def Operator.isDeclared : Operator → Bool
  | .invalid | .undeclared _ => false
  | _ => true

/-- Whether a quantifier is one of the declared ones. -/
def Quantifier.isDeclared : Quantifier → Bool
  | .undeclared _ => false
  | _ => true

namespace Node

/-! ### Values -/

/-- What validation reports about what the nodes hold. -/
def holdsWell (nodes : List Node) : Bool :=
  (nodes.flatMap payloadViolations).all Violation.isLenient

@[simp] theorem holdsWell_nil : holdsWell [] = true := rfl

@[simp] theorem holdsWell_cons (node : Node) (nodes : List Node) :
    holdsWell (node :: nodes) =
      (node.payloadViolations.all Violation.isLenient && holdsWell nodes) := by
  unfold holdsWell
  rw [List.flatMap_cons, List.all_append]

@[simp] theorem holdsWell_append (nodes others : List Node) :
    holdsWell (nodes ++ others) = (holdsWell nodes && holdsWell others) := by
  unfold holdsWell
  rw [List.flatMap_append, List.all_append]

/-- The content of a call to `len` or another function, apart from its arguments. -/
theorem callViolations_lenient {definition : FunctionDef} (arguments : List Node)
    (notVals : definition.name ≠ "vals") :
    (callViolations (some definition) arguments).all Violation.isLenient =
      (definition.name ≠ "len" || arguments.length == 1) := by
  unfold callViolations
  by_cases len : definition.name = "len"
  · by_cases one : arguments.length = 1 <;> simp [len, one, Violation.isLenient]
  · by_cases accepted : definition.accepts arguments.length <;>
      simp [len, notVals, accepted, Violation.isLenient]

/-- A call of `vals` is for one field or reference. -/
theorem vals_isEntity_eq {definition : FunctionDef} (arguments : List Node)
    (vals : definition.name = "vals") :
    isEntity (.call (some definition) arguments) =
      (holdsWell (.call (some definition) arguments :: preorderAll arguments) &&
        (entitiesViolations arguments).all Violation.isLenient) := by
  have notLen : ¬ "vals" = "len" := by decide
  match arguments with
  | [.field read] =>
    cases known : read.field? <;>
      simp [isEntity, vals, notLen, known, preorderAll, preorder, payloadViolations,
        callViolations, entitiesViolations, entityViolations, Violation.isLenient]
  | [.reference read] =>
    cases known : read.field? <;>
      simp [isEntity, vals, notLen, known, preorderAll, preorder, payloadViolations,
        callViolations, entitiesViolations, entityViolations, Violation.isLenient]
  | [] | _ :: _ :: _ =>
    simp [isEntity, vals, notLen, payloadViolations, callViolations, Violation.isLenient]
  | [.missing] | [.test ..] | [.arithmetic ..] | [.value _] | [.pattern _] | [.slice ..]
  | [.call ..] | [.set _] =>
    simp [isEntity, vals, notLen, payloadViolations, callViolations, Violation.isLenient]

mutual

/-- **Code is made for a value unless validation reports something that matters.** -/
theorem isEntity_eq (node : Node) :
    node.isEntity =
      (holdsWell node.preorder && node.entityViolations.all Violation.isLenient) := by
  match node with
  | .missing => rfl
  | .field read =>
    cases known : read.field? <;>
      simp [isEntity, known, preorder, payloadViolations, entityViolations, Violation.isLenient]
  | .reference read =>
    cases known : read.field? <;>
      simp [isEntity, known, preorder, payloadViolations, entityViolations, Violation.isLenient]
  | .value constant => rfl
  | .pattern pattern? =>
    cases pattern? <;>
      simp [isEntity, preorder, payloadViolations, entityViolations, Violation.isLenient]
  | .slice inner range? =>
    cases empty : (windows range?).isEmpty <;>
      simp [isEntity, preorder, payloadViolations, entityViolations, Violation.isLenient, empty,
        isEntity_eq inner]
  | .call none arguments =>
    simp [isEntity, preorder, payloadViolations, callViolations, Violation.isLenient]
  | .call (some definition) arguments =>
    by_cases vals : definition.name = "vals"
    · rw [vals_isEntity_eq arguments vals, preorder, entityViolations]
    · rw [preorder, holdsWell_cons, payloadViolations, callViolations_lenient arguments vals,
        entityViolations, Bool.and_assoc, ← areEntities_eq arguments]
      unfold isEntity
      by_cases len : definition.name = "len" <;> simp [len, vals]
  | .arithmetic operator left right =>
    rw [isEntity, preorder, holdsWell_cons, holdsWell_append, payloadViolations, entityViolations,
      List.all_append, isEntity_eq left, isEntity_eq right]
    cases chosen : operator.arithmeticOpcode? with
    | none => simp [Violation.isLenient]
    | some opcode =>
      by_cases negates : operator = .negate
      · cases right <;>
          simp [negates, isPresent, preorder, Violation.isLenient]
      · simp only [Option.isSome_some, Option.isNone_some, negates, if_false, Bool.true_and,
          List.all_nil, Bool.false_eq_true]
        cases holdsWell left.preorder <;> cases holdsWell right.preorder <;>
          simp [Bool.and_comm]
  | .test operator quantifier left right =>
    simp [isEntity, entityViolations, Violation.isLenient]
  | .set elements => simp [isEntity, entityViolations, Violation.isLenient]

theorem areEntities_eq (nodes : List Node) :
    areEntities nodes =
      (holdsWell (preorderAll nodes) && (entitiesViolations nodes).all Violation.isLenient) := by
  match nodes with
  | [] => rfl
  | node :: nodes =>
    rw [areEntities, preorderAll, entitiesViolations, holdsWell_append, List.all_append,
      isEntity_eq node, areEntities_eq nodes]
    cases holdsWell node.preorder <;> cases holdsWell (preorderAll nodes) <;>
      simp [Bool.and_comm]

end

theorem areMembers_eq (elements : List Element) :
    areMembers elements = (holdsWell (preorderElements elements) &&
      (elementViolations elements).all Violation.isLenient) := by
  match elements with
  | [] => rfl
  | .single low :: elements =>
    rw [areMembers, preorderElements, elementViolations, holdsWell_append, List.all_append,
      isEntity_eq low, areMembers_eq elements]
    cases holdsWell low.preorder <;> cases holdsWell (preorderElements elements) <;>
      simp [Bool.and_comm]
  | .between low high :: elements =>
    rw [areMembers, preorderElements, elementViolations, holdsWell_append, holdsWell_append,
      List.all_append, List.all_append, isEntity_eq low, isEntity_eq high, areMembers_eq elements]
    cases holdsWell low.preorder <;> cases holdsWell high.preorder <;>
      cases holdsWell (preorderElements elements) <;> simp [Bool.and_comm, Bool.and_left_comm]

/-! ### Tests below a value -/

/-- Whether a node is a test. -/
def isTest : Node → Bool
  | .test .. => true
  | _ => false

mutual

/-- There is no test in a tree that code is made for as a value. -/
theorem noTest_of_isEntity {node : Node} (entity : node.isEntity = true) :
    ∀ below ∈ node.preorder, below.isTest = false := by
  match node with
  | .missing | .test .. | .set _ | .call none _ => cases entity
  | .field _ | .reference _ | .value _ | .pattern _ => simp [preorder, isTest]
  | .slice inner range? =>
    unfold isEntity at entity
    simp only [Bool.and_eq_true] at entity
    rw [preorder, List.forall_mem_cons]
    exact ⟨rfl, noTest_of_isEntity entity.2⟩
  | .call (some definition) arguments =>
    rw [preorder, List.forall_mem_cons]
    refine ⟨rfl, noTest_of_areEntities ?_⟩
    unfold isEntity at entity
    split at entity
    · simp only [Bool.and_eq_true] at entity
      exact entity.2
    split at entity
    · split at entity
      · simpa [areEntities, isEntity] using entity
      · simpa [areEntities, isEntity] using entity
      · cases entity
    · exact entity
  | .arithmetic operator left right =>
    unfold isEntity at entity
    simp only [Bool.and_eq_true] at entity
    obtain ⟨⟨_, first⟩, second⟩ := entity
    rw [preorder, List.forall_mem_cons, List.forall_mem_append]
    refine ⟨rfl, noTest_of_isEntity first, ?_⟩
    split at second
    · match right, second with
      | .missing, _ => exact List.forall_mem_nil _
    · exact noTest_of_isEntity second

theorem noTest_of_areEntities {nodes : List Node} (entities : areEntities nodes = true) :
    ∀ below ∈ preorderAll nodes, below.isTest = false := by
  match nodes with
  | [] => exact List.forall_mem_nil _
  | node :: nodes =>
    unfold areEntities at entities
    simp only [Bool.and_eq_true] at entities
    rw [preorderAll, List.forall_mem_append]
    exact ⟨noTest_of_isEntity entities.1, noTest_of_areEntities entities.2⟩

end

theorem noTest_of_areMembers {elements : List Element} (members : areMembers elements = true) :
    ∀ below ∈ preorderElements elements, below.isTest = false := by
  match elements with
  | [] => exact List.forall_mem_nil _
  | .single low :: elements =>
    unfold areMembers at members
    simp only [Bool.and_eq_true] at members
    rw [preorderElements, List.forall_mem_append]
    exact ⟨noTest_of_isEntity members.1, noTest_of_areMembers members.2⟩
  | .between low high :: elements =>
    unfold areMembers at members
    simp only [Bool.and_eq_true] at members
    rw [preorderElements, List.forall_mem_append, List.forall_mem_append]
    exact ⟨noTest_of_isEntity members.1.1, noTest_of_isEntity members.1.2,
      noTest_of_areMembers members.2⟩

/-! ### Truth values -/

/-- Whether a node, if it is a test, has a declared operator and a declared quantifier. -/
def isDeclared : Node → Bool
  | .test operator quantifier _ _ => operator.isDeclared && quantifier.isDeclared
  | _ => true

theorem isDeclared_of_noTest {node : Node} (plain : node.isTest = false) :
    node.isDeclared = true := by
  cases node <;> first | rfl | cases plain

/-- Code is made for a value that validation has nothing to say about. -/
theorem isEntity_of_accepted {node : Node}
    (held : ∀ below ∈ node.preorder, below.payloadViolations = [])
    (placed : node.entityViolations = []) : node.isEntity = true := by
  have well : node.preorder.flatMap payloadViolations = [] := List.flatMap_eq_nil_iff.mpr held
  rw [isEntity_eq, holdsWell, well, placed]
  rfl

theorem areMembers_of_accepted {elements : List Element}
    (held : ∀ below ∈ preorderElements elements, below.payloadViolations = [])
    (placed : elementViolations elements = []) : areMembers elements = true := by
  have well : (preorderElements elements).flatMap payloadViolations = [] :=
    List.flatMap_eq_nil_iff.mpr held
  rw [areMembers_eq, holdsWell, well, placed]
  rfl

section Tests

variable {operator : Operator} {quantifier : Quantifier} {left right : Node}

/-- A logical operator that validation accepts has no quantifier. -/
theorem isDeclared_logical (held : testViolations operator quantifier = [])
    (logical : operator.isLogical = true) :
    isDeclared (.test operator quantifier left right) = true := by
  cases operator <;> cases logical <;> cases quantifier <;> first | rfl | cases held

/-- A relation or a membership test has an opcode unless its quantifier is not declared. -/
theorem selectOpcode_isSome (compares : (operator.isRelation || operator.isMembership) = true) :
    (Compile.selectOpcode operator quantifier).toOption.isSome =
      isDeclared (.test operator quantifier left right) := by
  cases operator <;> cases compares <;> cases quantifier <;> rfl

/-- An operator that validation accepts and that tests nothing is not declared. -/
theorem not_isDeclared (held : testViolations operator quantifier = [])
    (logical : operator.isLogical = false) (relates : operator.isRelation = false)
    (tests : operator.isMembership = false) :
    isDeclared (.test operator quantifier left right) = false := by
  obtain computes | rfl | ⟨code, rfl⟩ := Operator.eq_of_testsNothing logical relates tests
  · cases operator <;> cases computes <;> cases held
  · cases held
  · rfl

theorem relation_iff_declared (relates : operator.isRelation = true)
    (held : ∀ below ∈ preorder (.test operator quantifier left right),
      below.payloadViolations = [])
    (placed : predicateViolations (.test operator quantifier left right) = []) :
    isPredicate (.test operator quantifier left right) = true ↔
      ∀ below ∈ preorder (.test operator quantifier left right), below.isDeclared = true := by
  rw [preorder, List.forall_mem_cons, List.forall_mem_append] at held ⊢
  have sides : left.entityViolations ++ right.entityViolations = [] := by
    have logical := Operator.isLogical_of_isRelation relates
    rw [predicateViolations, if_neg (Operator.ne_not logical), logical,
      Operator.isMembership_of_isRelation relates, relates] at placed
    exact placed
  obtain ⟨first, second⟩ := List.append_eq_nil_iff.mp sides
  have leftEntity := isEntity_of_accepted held.2.1 first
  have rightEntity := isEntity_of_accepted held.2.2 second
  rw [Compile.isPredicate_relation _ _ _ relates, leftEntity, rightEntity, Bool.and_true,
    Bool.and_true, selectOpcode_isSome (by rw [relates]; rfl)]
  exact (and_iff_left ⟨fun below member => isDeclared_of_noTest (noTest_of_isEntity leftEntity _ member),
    fun below member => isDeclared_of_noTest (noTest_of_isEntity rightEntity _ member)⟩).symm

theorem membership_iff_declared (tests : operator.isMembership = true)
    (held : ∀ below ∈ preorder (.test operator quantifier left right),
      below.payloadViolations = [])
    (placed : predicateViolations (.test operator quantifier left right) = []) :
    isPredicate (.test operator quantifier left right) = true ↔
      ∀ below ∈ preorder (.test operator quantifier left right), below.isDeclared = true := by
  rw [preorder, List.forall_mem_cons, List.forall_mem_append] at held ⊢
  have sides : left.entityViolations ++ membershipViolations operator right = [] := by
    have logical := Operator.isLogical_of_isMembership tests
    rw [predicateViolations, if_neg (Operator.ne_not logical), logical, tests] at placed
    exact placed
  obtain ⟨first, second⟩ := List.append_eq_nil_iff.mp sides
  have leftEntity := isEntity_of_accepted held.2.1 first
  unfold membershipViolations at second
  split at second
  · cases second
  · rename_i elements _
    have inside := held.2.2
    rw [preorder, List.forall_mem_cons] at inside ⊢
    have members := areMembers_of_accepted inside.2 second
    rw [Compile.isPredicate_membership _ _ tests, leftEntity, members, Bool.and_true,
      Bool.and_true, selectOpcode_isSome (by rw [tests, Bool.or_true])]
    refine (and_iff_left ⟨fun below member => ?_, rfl, fun below member => ?_⟩).symm
    · exact isDeclared_of_noTest (noTest_of_isEntity leftEntity _ member)
    · exact isDeclared_of_noTest (noTest_of_areMembers members _ member)
  · cases second

end Tests

/-- **Code is made for a valid tree exactly if its tests are declared.** -/
theorem isPredicate_iff_declared (node : Node)
    (held : ∀ below ∈ node.preorder, below.payloadViolations = [])
    (placed : node.predicateViolations = []) :
    node.isPredicate = true ↔ ∀ below ∈ node.preorder, below.isDeclared = true := by
  have entity : ∀ {value : Node}, (∀ below ∈ value.preorder, below.payloadViolations = []) →
      value.entityViolations = [] → (value.isEntity = true ↔
        ∀ below ∈ value.preorder, below.isDeclared = true) := by
    intro value held placed
    have accepted := isEntity_of_accepted held placed
    exact iff_of_true accepted fun below member =>
      isDeclared_of_noTest (noTest_of_isEntity accepted _ member)
  match node with
  | .missing | .reference _ | .value _ | .pattern _ | .set _ => cases placed
  | .field read =>
    have known := held _ List.mem_cons_self
    cases found : read.field? <;>
      simp_all [payloadViolations, isPredicate, preorder, isDeclared]
  | .arithmetic operator left right => exact entity held placed
  | .call definition? arguments => exact entity held placed
  | .slice inner range? => exact entity held placed
  | .test operator quantifier left right =>
    obtain relates | tests | ⟨relates, tests⟩ := operator.comparison_cases
    · exact relation_iff_declared relates held placed
    · exact membership_iff_declared tests held placed
    rw [preorder, List.forall_mem_cons, List.forall_mem_append] at held ⊢
    obtain ⟨own, heldLeft, heldRight⟩ := held
    by_cases logical : operator.isLogical = true
    · rw [isDeclared_logical own logical, and_iff_right rfl]
      obtain rfl | rfl | rfl := Operator.eq_of_isLogical logical
      · obtain ⟨first, second⟩ := List.append_eq_nil_iff.mp placed
        have absent : right = .missing := by
          cases right <;> first | rfl | cases second
        rw [absent, isPredicate, isPredicate_iff_declared left heldLeft first]
        exact (and_iff_left (List.forall_mem_nil _)).symm
      · obtain ⟨first, second⟩ := List.append_eq_nil_iff.mp placed
        rw [isPredicate, Bool.and_eq_true, isPredicate_iff_declared left heldLeft first,
          isPredicate_iff_declared right heldRight second]
      · obtain ⟨first, second⟩ := List.append_eq_nil_iff.mp placed
        rw [isPredicate, Bool.and_eq_true, isPredicate_iff_declared left heldLeft first,
          isPredicate_iff_declared right heldRight second]
    · rw [Bool.not_eq_true] at logical
      rw [Compile.isPredicate_notATest _ _ _ logical relates tests,
        not_isDeclared own logical relates tests]
      simp

/-! ### Violations are about the tree -/

/-- Whether none of the violations says that code is at fault. -/
def areExternal (violations : List Violation) : Prop :=
  ∀ violation ∈ violations, violation.isInternal = false

theorem areExternal_append {violations others : List Violation} (first : areExternal violations)
    (second : areExternal others) : areExternal (violations ++ others) :=
  List.forall_mem_append.mpr ⟨first, second⟩

theorem areExternal_nil : areExternal [] :=
  List.forall_mem_nil _

theorem areExternal_singleton {violation : Violation} (plain : violation.isInternal = false) :
    areExternal [violation] :=
  List.forall_mem_singleton.mpr plain

theorem callViolations_external (definition? : Option FunctionDef) (arguments : List Node) :
    areExternal (callViolations definition? arguments) := by
  unfold callViolations
  split
  · exact areExternal_singleton rfl
  · dsimp only
    split
    · split
      · exact areExternal_nil
      · exact areExternal_singleton rfl
    split
    · split
      · exact areExternal_nil
      · exact areExternal_nil
      · exact areExternal_singleton rfl
      · exact areExternal_singleton rfl
    split
    · exact areExternal_nil
    · exact areExternal_singleton rfl

theorem payloadViolations_external (node : Node) : areExternal node.payloadViolations := by
  have one : ∀ {condition : Prop} [Decidable condition] {violation : Violation},
      violation.isInternal = false → areExternal (if condition then [violation] else []) := by
    intro condition _ violation plain
    split
    · exact areExternal_singleton plain
    · exact areExternal_nil
  cases node with
  | field read => exact one rfl
  | reference read => exact one rfl
  | pattern pattern? => exact one rfl
  | slice inner range? => exact one rfl
  | arithmetic operator left right => exact one rfl
  | test operator quantifier left right =>
    refine areExternal_append (one rfl) ?_
    split
    · exact areExternal_nil
    · exact areExternal_singleton rfl
  | call definition? arguments => exact callViolations_external definition? arguments
  | missing | value constant | set elements => exact areExternal_nil

mutual

theorem entityViolations_external (node : Node) : areExternal node.entityViolations := by
  match node with
  | .missing | .test .. | .set _ =>
    unfold entityViolations
    exact areExternal_singleton rfl
  | .field _ | .reference _ | .value _ | .pattern _ =>
    unfold entityViolations
    exact areExternal_nil
  | .slice inner range? =>
    unfold entityViolations
    exact entityViolations_external inner
  | .call definition? arguments =>
    unfold entityViolations
    exact entitiesViolations_external arguments
  | .arithmetic operator left right =>
    unfold entityViolations
    refine areExternal_append (entityViolations_external left) ?_
    split
    · split
      · exact areExternal_singleton rfl
      · exact areExternal_nil
    · exact entityViolations_external right

theorem entitiesViolations_external (nodes : List Node) :
    areExternal (entitiesViolations nodes) := by
  match nodes with
  | [] => exact areExternal_nil
  | node :: nodes =>
    unfold entitiesViolations
    exact areExternal_append (entityViolations_external node) (entitiesViolations_external nodes)

end

theorem elementViolations_external (elements : List Element) :
    areExternal (elementViolations elements) := by
  match elements with
  | [] => exact areExternal_nil
  | .single low :: elements =>
    unfold elementViolations
    exact areExternal_append (entityViolations_external low) (elementViolations_external elements)
  | .between low high :: elements =>
    unfold elementViolations
    exact areExternal_append (entityViolations_external low)
      (areExternal_append (entityViolations_external high) (elementViolations_external elements))

theorem predicateViolations_external (node : Node) : areExternal node.predicateViolations := by
  match node with
  | .missing | .reference _ | .value _ | .pattern _ | .set _ =>
    unfold predicateViolations
    exact areExternal_singleton rfl
  | .field _ =>
    unfold predicateViolations
    exact areExternal_nil
  | .arithmetic .. | .call .. | .slice .. =>
    unfold predicateViolations
    exact entityViolations_external _
  | .test operator quantifier left right =>
    unfold predicateViolations
    split
    · refine areExternal_append (predicateViolations_external left) ?_
      split
      · exact areExternal_singleton rfl
      · exact areExternal_nil
    split
    · exact areExternal_append (predicateViolations_external left)
        (predicateViolations_external right)
    split
    · refine areExternal_append (entityViolations_external left) ?_
      unfold membershipViolations
      split
      · exact areExternal_singleton rfl
      · exact elementViolations_external _
      · exact areExternal_singleton rfl
    split
    · exact areExternal_append (entityViolations_external left) (entityViolations_external right)
    · exact areExternal_nil

end Node

/-- **Validation never reports that code is at fault.** -/
theorem validate_external (root : Node) : Node.areExternal (validate root) := by
  unfold validate
  split
  · refine Node.areExternal_append (fun violation member => ?_)
      (Node.predicateViolations_external root)
    obtain ⟨node, _, reported⟩ := List.mem_flatMap.mp member
    exact Node.payloadViolations_external node violation reported
  · exact Node.areExternal_singleton rfl

/-- Code is made for a valid root exactly if its tests are declared. -/
theorem isPredicate_of_valid {root : Node} (valid : validate root = []) :
    root.isPredicate = true ↔ ∀ node ∈ root.preorder, node.isDeclared = true := by
  unfold validate at valid
  split at valid
  · obtain ⟨held, placed⟩ := List.append_eq_nil_iff.mp valid
    exact Node.isPredicate_iff_declared root (List.flatMap_eq_nil_iff.mp held) placed
  · cases valid

end DisplayFilter
