/-
**Findings of validation that code generation passes over.**

Validation is stricter than code generation in three points only: code is made for a membership test
with an empty set, for a logical operator with a quantifier, and for a call with a number of
arguments that the function does not accept. Everything else that validation reports, wherever it
stands in the tree, keeps code from being made, as long as the operators and quantifiers of tests
have codes of their own and a negation has no right side.

* `Violation.IsTolerated`: the three kinds of finding.
* `isTolerated_of_lenient`: what validation reports and code generation passes over is of these
  kinds.
* `Node.isPredicate_eq`: of which truth values code is made, told by what validation reports.
-/

import DisplayFilter.Proofs.Validation.Acceptance

namespace DisplayFilter

/-- The findings that code generation passes over: an empty set, a quantifier on a logical operator,
and a number of arguments that a function other than `len` and `vals` does not accept. -/
inductive Violation.IsTolerated : Violation → Prop
  | emptySet : IsTolerated .emptySet
  | quantifier (operator : Operator) (quantifier : Quantifier)
      (logical : operator.isLogical = true) : IsTolerated (.noQuantifiedForm operator quantifier)
  | arguments (function : String) (count : Nat) (notLen : function ≠ "len")
      (notVals : function ≠ "vals") : IsTolerated (.argumentCount function count)

theorem Violation.IsTolerated.isLenient {violation : Violation}
    (tolerated : violation.IsTolerated) : violation.isLenient = true := by
  cases tolerated with
  | emptySet => rfl
  | quantifier operator quantifier logical => exact logical
  | arguments function count notLen notVals => rfl

namespace Node

/-- Whether a node, if it is a test, has an operator and a quantifier with codes of their own; the
invalid operator has one. -/
def hasKnownCodes : Node → Bool
  | .test (.undeclared _) _ _ _ => false
  | .test _ (.undeclared _) _ _ => false
  | _ => true

/-- Whether a node, if it is a negation, has no right side. -/
def negatesOne : Node → Bool
  | .test .not _ _ right => !right.isPresent
  | _ => true

/-! ### What validation reports about the content of nodes -/

theorem callViolations_tolerated {definition? : Option FunctionDef} {arguments : List Node}
    {violation : Violation} (reported : violation ∈ callViolations definition? arguments)
    (lenient : violation.isLenient = true) : violation.IsTolerated := by
  unfold callViolations at reported
  split at reported
  · cases List.mem_singleton.mp reported
    cases lenient
  rename_i definition
  dsimp only at reported
  split at reported
  · split at reported
    · cases reported
    · cases List.mem_singleton.mp reported
      cases lenient
  rename_i notLen
  split at reported
  · split at reported
    · cases reported
    · cases reported
    · cases List.mem_singleton.mp reported
      cases lenient
    · cases List.mem_singleton.mp reported
      cases lenient
  rename_i notVals
  split at reported
  · cases reported
  · cases List.mem_singleton.mp reported
    exact .arguments definition.name arguments.length notLen notVals

theorem testViolations_tolerated {operator : Operator} {quantifier : Quantifier}
    {violation : Violation} (reported : violation ∈ testViolations operator quantifier)
    (lenient : violation.isLenient = true) : violation.IsTolerated := by
  rcases List.mem_append.mp reported with unfit | unquantified
  · split at unfit
    · cases List.mem_singleton.mp unfit
      cases lenient
    · cases unfit
  · split at unquantified
    · cases unquantified
    · cases List.mem_singleton.mp unquantified
      exact .quantifier operator quantifier lenient

theorem payloadViolations_tolerated {node : Node} {violation : Violation}
    (reported : violation ∈ node.payloadViolations) (lenient : violation.isLenient = true) :
    violation.IsTolerated := by
  have strict : ∀ {condition : Prop} [Decidable condition] {other : Violation},
      other.isLenient = false → violation ∉ (if condition then [other] else []) := by
    intro condition _ other plain member
    split at member
    · rw [List.mem_singleton.mp member, plain] at lenient
      cases lenient
    · cases member
  cases node with
  | field read => exact absurd reported (strict rfl)
  | reference read => exact absurd reported (strict rfl)
  | pattern pattern? => exact absurd reported (strict rfl)
  | slice inner range? => exact absurd reported (strict rfl)
  | arithmetic operator left right => exact absurd reported (strict rfl)
  | test operator quantifier left right => exact testViolations_tolerated reported lenient
  | call definition? arguments => exact callViolations_tolerated reported lenient
  | missing | value constant | set elements => cases reported

/-! ### What validation reports about the places of nodes -/

mutual

/-- Code generation passes over nothing that is wrong with the place of a value. -/
theorem entityViolations_strict (node : Node) :
    ∀ violation ∈ node.entityViolations, violation.isLenient = false := by
  match node with
  | .missing | .test .. | .set _ =>
    unfold entityViolations
    exact List.forall_mem_singleton.mpr rfl
  | .field _ | .reference _ | .value _ | .pattern _ =>
    unfold entityViolations
    exact List.forall_mem_nil _
  | .slice inner range? =>
    unfold entityViolations
    exact entityViolations_strict inner
  | .call definition? arguments =>
    unfold entityViolations
    exact entitiesViolations_strict arguments
  | .arithmetic operator left right =>
    unfold entityViolations
    refine List.forall_mem_append.mpr ⟨entityViolations_strict left, ?_⟩
    split
    · split
      · exact List.forall_mem_singleton.mpr rfl
      · exact List.forall_mem_nil _
    · exact entityViolations_strict right

theorem entitiesViolations_strict (nodes : List Node) :
    ∀ violation ∈ entitiesViolations nodes, violation.isLenient = false := by
  match nodes with
  | [] => exact List.forall_mem_nil _
  | node :: nodes =>
    unfold entitiesViolations
    exact List.forall_mem_append.mpr ⟨entityViolations_strict node, entitiesViolations_strict nodes⟩

end

theorem elementViolations_strict (elements : List Element) :
    ∀ violation ∈ elementViolations elements, violation.isLenient = false := by
  match elements with
  | [] => exact List.forall_mem_nil _
  | .single low :: elements =>
    unfold elementViolations
    exact List.forall_mem_append.mpr ⟨entityViolations_strict low, elementViolations_strict elements⟩
  | .between low high :: elements =>
    unfold elementViolations
    exact List.forall_mem_append.mpr ⟨entityViolations_strict low,
      List.forall_mem_append.mpr ⟨entityViolations_strict high, elementViolations_strict elements⟩⟩

/-- The one thing about the place of a node that code generation passes over is an empty set. -/
theorem predicateViolations_emptySet (node : Node) :
    ∀ violation ∈ node.predicateViolations, violation.isLenient = true → violation = .emptySet := by
  have strict : ∀ {violations : List Violation},
      (∀ violation ∈ violations, violation.isLenient = false) →
      ∀ violation ∈ violations, violation.isLenient = true → violation = .emptySet := by
    intro violations plain violation member lenient
    rw [plain violation member] at lenient
    cases lenient
  match node with
  | .missing | .reference _ | .value _ | .pattern _ | .set _ =>
    unfold predicateViolations
    exact strict (List.forall_mem_singleton.mpr rfl)
  | .field _ =>
    unfold predicateViolations
    exact List.forall_mem_nil _
  | .arithmetic .. | .call .. | .slice .. =>
    unfold predicateViolations
    exact strict (entityViolations_strict _)
  | .test operator quantifier left right =>
    unfold predicateViolations
    split
    · refine List.forall_mem_append.mpr ⟨predicateViolations_emptySet left, ?_⟩
      split
      · exact strict (List.forall_mem_singleton.mpr rfl)
      · exact List.forall_mem_nil _
    split
    · exact List.forall_mem_append.mpr ⟨predicateViolations_emptySet left,
        predicateViolations_emptySet right⟩
    split
    · refine List.forall_mem_append.mpr ⟨strict (entityViolations_strict left), ?_⟩
      unfold membershipViolations
      split
      · exact List.forall_mem_singleton.mpr fun _ => rfl
      · exact strict (elementViolations_strict _)
      · exact strict (List.forall_mem_singleton.mpr rfl)
    split
    · exact List.forall_mem_append.mpr ⟨strict (entityViolations_strict left),
        strict (entityViolations_strict right)⟩
    · exact List.forall_mem_nil _

/-! ### Truth values -/

section Tests

variable {operator : Operator} {quantifier : Quantifier} {left right : Node}

/-- A relation or a membership test with known codes has an opcode, and validation has nothing to
say about its operator and quantifier. -/
theorem comparison_known (compares : (operator.isRelation || operator.isMembership) = true)
    (known : hasKnownCodes (.test operator quantifier left right) = true) :
    (Compile.selectOpcode operator quantifier).toOption.isSome = true ∧
      testViolations operator quantifier = [] := by
  cases operator <;> cases compares <;> cases quantifier <;> first | exact ⟨rfl, rfl⟩ | cases known

/-- All that validation says about the content of a logical operator is passed over. -/
theorem logical_lenient (logical : operator.isLogical = true) :
    (testViolations operator quantifier).all Violation.isLenient = true := by
  cases operator <;> cases logical <;> cases quantifier <;> rfl

/-- Validation and code generation look at both sides of `and` and `or`. -/
theorem junction_eq (logical : operator.isLogical = true) (joins : operator ≠ .not) :
    isPredicate (.test operator quantifier left right) =
        (left.isPredicate && right.isPredicate) ∧
      predicateViolations (.test operator quantifier left right) =
        left.predicateViolations ++ right.predicateViolations := by
  obtain rfl | rfl | rfl := Operator.eq_of_isLogical logical
  · exact absurd rfl joins
  · exact ⟨rfl, rfl⟩
  · exact ⟨rfl, rfl⟩

/-- An operator with a known code that tests nothing is refused by validation. -/
theorem notATest_strict (known : hasKnownCodes (.test operator quantifier left right) = true)
    (logical : operator.isLogical = false) (relates : operator.isRelation = false)
    (tests : operator.isMembership = false) :
    (testViolations operator quantifier).all Violation.isLenient = false := by
  obtain computes | rfl | ⟨code, rfl⟩ := Operator.eq_of_testsNothing logical relates tests
  · cases operator <;> cases computes <;> rfl
  · rfl
  · cases known

theorem relation_isPredicate_eq (relates : operator.isRelation = true)
    (known : hasKnownCodes (.test operator quantifier left right) = true) :
    isPredicate (.test operator quantifier left right) =
      (holdsWell (preorder (.test operator quantifier left right)) &&
        (predicateViolations (.test operator quantifier left right)).all Violation.isLenient) := by
  obtain ⟨chosen, quiet⟩ := comparison_known (by rw [relates]; rfl) known
  have logical := Operator.isLogical_of_isRelation relates
  rw [Compile.isPredicate_relation _ _ _ relates, chosen, isEntity_eq left, isEntity_eq right,
    preorder, holdsWell_cons, holdsWell_append, payloadViolations, quiet, predicateViolations,
    if_neg (Operator.ne_not logical), logical, Operator.isMembership_of_isRelation relates, relates]
  simp only [Bool.false_eq_true, if_false, if_true, List.all_append, List.all_nil, Bool.true_and]
  cases holdsWell left.preorder <;> cases holdsWell right.preorder <;> simp [Bool.and_comm]

theorem membership_isPredicate_eq (tests : operator.isMembership = true)
    (known : hasKnownCodes (.test operator quantifier left right) = true) :
    isPredicate (.test operator quantifier left right) =
      (holdsWell (preorder (.test operator quantifier left right)) &&
        (predicateViolations (.test operator quantifier left right)).all Violation.isLenient) := by
  obtain ⟨chosen, quiet⟩ := comparison_known (by rw [tests, Bool.or_true]) known
  have logical := Operator.isLogical_of_isMembership tests
  rw [preorder, holdsWell_cons, holdsWell_append, payloadViolations, quiet, predicateViolations,
    if_neg (Operator.ne_not logical), logical, tests]
  simp only [Bool.false_eq_true, if_false, if_true, List.all_append, List.all_nil, Bool.true_and]
  by_cases set : ∃ elements, right = .set elements
  · obtain ⟨elements, rfl⟩ := set
    -- An empty set is the one case in which the two sides differ in what they look at.
    have members : (membershipViolations operator (.set elements)).all Violation.isLenient =
        (elementViolations elements).all Violation.isLenient := by
      cases elements <;> rfl
    have content : payloadViolations (.set elements) = [] := rfl
    rw [Compile.isPredicate_membership _ _ tests, chosen, isEntity_eq left, areMembers_eq, members,
      preorder, holdsWell_cons, content]
    cases holdsWell left.preorder <;> cases holdsWell (preorderElements elements) <;>
      simp [Bool.and_comm]
  · have noSet : ∀ elements, right ≠ .set elements := fun elements same => set ⟨elements, same⟩
    have refused : (membershipViolations operator right).all Violation.isLenient = false := by
      cases right <;> first | rfl | exact absurd rfl (noSet _)
    rw [Compile.isPredicate_notASet _ _ _ tests noSet, refused, Bool.and_false, Bool.and_false]

end Tests

/-- **Code is made for a truth value unless validation reports something that matters.** -/
theorem isPredicate_eq (node : Node) (known : ∀ below ∈ node.preorder, below.hasKnownCodes = true)
    (single : ∀ below ∈ node.preorder, below.negatesOne = true) :
    node.isPredicate =
      (holdsWell node.preorder && node.predicateViolations.all Violation.isLenient) := by
  match node with
  | .missing | .reference _ | .value _ | .pattern _ | .set _ =>
    simp [isPredicate, predicateViolations, Violation.isLenient]
  | .field read =>
    cases found : read.field? <;>
      simp [isPredicate, found, preorder, payloadViolations, predicateViolations,
        Violation.isLenient]
  | .arithmetic operator left right => exact isEntity_eq _
  | .call definition? arguments => exact isEntity_eq _
  | .slice inner range? => exact isEntity_eq _
  | .test operator quantifier left right =>
    have here : preorder (.test operator quantifier left right) =
        .test operator quantifier left right :: (left.preorder ++ right.preorder) := by
      rw [preorder]
    rw [here, List.forall_mem_cons, List.forall_mem_append] at known single
    obtain relates | tests | ⟨relates, tests⟩ := operator.comparison_cases
    · exact relation_isPredicate_eq relates known.1
    · exact membership_isPredicate_eq tests known.1
    by_cases logical : operator.isLogical = true
    · have ihLeft := isPredicate_eq left known.2.1 single.2.1
      have ihRight := isPredicate_eq right known.2.2 single.2.2
      rw [here, holdsWell_cons, holdsWell_append, payloadViolations, logical_lenient logical]
      by_cases negates : operator = .not
      · subst negates
        have absent : right = .missing := by
          cases right <;> first | rfl | cases single.1
        rw [absent, isPredicate, ihLeft]
        simp [preorder, predicateViolations, isPresent]
      · obtain ⟨code, findings⟩ := @junction_eq operator quantifier left right logical negates
        rw [code, findings, ihLeft, ihRight, List.all_append, Bool.true_and]
        cases holdsWell left.preorder <;> cases holdsWell right.preorder <;> simp [Bool.and_comm]
    · rw [Bool.not_eq_true] at logical
      rw [Compile.isPredicate_notATest _ _ _ logical relates tests, here, holdsWell_cons,
        payloadViolations, notATest_strict known.1 logical relates tests, Bool.false_and,
        Bool.false_and]

end Node

/-! ### All findings -/

/-- What validation reports of a root and code generation passes over is of the three kinds. -/
theorem isTolerated_of_lenient {root : Node} {violation : Violation}
    (reported : violation ∈ validate root) (lenient : violation.isLenient = true) :
    violation.IsTolerated := by
  unfold validate at reported
  split at reported
  · rcases List.mem_append.mp reported with content | place
    · obtain ⟨node, _, found⟩ := List.mem_flatMap.mp content
      exact Node.payloadViolations_tolerated found lenient
    · rw [Node.predicateViolations_emptySet root violation place lenient]
      exact .emptySet
  · cases List.mem_singleton.mp reported
    cases lenient

/-- **Code is made for a root exactly if every finding of validation is tolerated.** -/
theorem isPredicate_iff_tolerated {root : Node}
    (known : ∀ node ∈ root.preorder, node.hasKnownCodes = true)
    (single : ∀ node ∈ root.preorder, node.negatesOne = true) :
    root.isPredicate = true ↔ ∀ finding ∈ validate root, finding.IsTolerated := by
  have tolerated : (∀ finding ∈ validate root, finding.IsTolerated) ↔
      (validate root).all Violation.isLenient = true := by
    rw [List.all_eq_true]
    exact ⟨fun all finding member => (all finding member).isLenient,
      fun all finding member => isTolerated_of_lenient member (all finding member)⟩
  rw [tolerated, Node.isPredicate_eq root known single]
  by_cases present : root.isPresent = true
  · rw [validate, if_pos present, List.all_append]
    rfl
  · match root with
    | .missing => exact iff_of_false Bool.false_ne_true Bool.false_ne_true

end DisplayFilter
