/-
**Compiling decoded trees.**

What validation reports of a tree without gaps is never that something is missing: its nodes are
complete and only stand where they do not belong, or have the wrong number of arguments. A decoded
tree that validation accepts always compiles, so a document is refused by its decoding or by
validation.

* `Violation.isMisuse`: the findings about complete nodes.
* `validate_misuse`: what validation reports of a tree without gaps.
* `decoded_compiles`: decoded trees and documents.
-/

import DisplayFilter.Filter.Document
import DisplayFilter.Proofs.Compiler.WellFormed
import DisplayFilter.Proofs.Decoding.Trees
import DisplayFilter.Proofs.Field.Chains

namespace DisplayFilter

/-- Whether a finding is about the use of a complete node. -/
def Violation.isMisuse : Violation → Bool
  | .oneArgument .. | .argumentCount .. | .valueStringArgument _ | .noQuantifiedForm ..
  | .notAPredicate _ | .notASet .. | .emptySet | .noValue _ | .setOutOfPlace => true
  | _ => false

theorem Violation.isMisuse_code {violation : Violation} (misuse : violation.isMisuse = true) :
    violation.code ∈ [.invalidEntity, .argumentCount, .invalidQuantifier, .invalidPredicate,
        .invalidSet] ∧
      violation ≠ .notTakesOneOperand ∧ violation ≠ .negationTakesOneOperand := by
  cases violation <;> cases misuse <;> exact ⟨by simp [code], nofun, nofun⟩

namespace Node

/-! ### Findings about trees without gaps -/

/-- Findings about complete nodes only. -/
def areMisuses (violations : List Violation) : Prop :=
  ∀ violation ∈ violations, violation.isMisuse = true

theorem areMisuses_nil : areMisuses [] :=
  List.forall_mem_nil _

theorem areMisuses_singleton {violation : Violation} (misuse : violation.isMisuse = true) :
    areMisuses [violation] :=
  List.forall_mem_singleton.mpr misuse

theorem areMisuses_append {violations others : List Violation} (first : areMisuses violations)
    (second : areMisuses others) : areMisuses (violations ++ others) :=
  List.forall_mem_append.mpr ⟨first, second⟩

theorem callViolations_misuse (definition : FunctionDef) (arguments : List Node) :
    areMisuses (callViolations (some definition) arguments) := by
  unfold callViolations
  dsimp only
  split
  · split
    · exact areMisuses_nil
    · exact areMisuses_singleton rfl
  split
  · split
    · exact areMisuses_nil
    · exact areMisuses_nil
    · exact areMisuses_singleton rfl
    · exact areMisuses_singleton rfl
  split
  · exact areMisuses_nil
  · exact areMisuses_singleton rfl

theorem testViolations_misuse {operator : Operator} (quantifier : Quantifier)
    (declared : operator.isDeclared = true) (plain : operator.isArithmetic = false) :
    areMisuses (testViolations operator quantifier) := by
  have known : operator ≠ .invalid := by
    rintro rfl
    cases declared
  unfold testViolations
  refine areMisuses_append ?_ ?_
  · rw [plain, if_neg (by simpa using known)]
    exact areMisuses_nil
  · split
    · exact areMisuses_nil
    · exact areMisuses_singleton rfl

/-- What is missing is not reported of a whole node. -/
theorem areMisuses_ite {condition : Bool} {violations : List Violation}
    (holds : condition = false) : areMisuses (if condition then violations else []) := by
  rw [holds]
  exact areMisuses_nil

theorem payloadViolations_misuse {node : Node} (whole : node.isWhole = true) :
    areMisuses node.payloadViolations := by
  cases node with
  | missing => cases whole
  | value constant | set elements => exact areMisuses_nil
  | field read => exact areMisuses_ite (by simpa [isWhole] using whole)
  | reference read => exact areMisuses_ite (by simpa [isWhole] using whole)
  | pattern pattern? => exact areMisuses_ite (by simpa [isWhole] using whole)
  | slice entity range? =>
    simp only [isWhole, Bool.and_eq_true, Bool.not_eq_true'] at whole
    exact areMisuses_ite whole.2
  | call definition? arguments =>
    cases definition? with
    | none => cases whole
    | some definition => exact callViolations_misuse definition arguments
  | test operator quantifier left right =>
    simp only [isWhole, Bool.and_eq_true, Bool.not_eq_true'] at whole
    exact testViolations_misuse quantifier whole.1.1.1.1 whole.1.1.1.2
  | arithmetic operator left right =>
    simp only [isWhole, Bool.and_eq_true] at whole
    have computes := whole.1.1
    exact areMisuses_ite (by cases operator <;> first | rfl | cases computes)

mutual

/-- Where a value is wanted, nothing is missing in a tree without gaps. -/
theorem entityViolations_misuse (node : Node) (present : node.isPresent = true)
    (whole : ∀ below ∈ node.preorder, below.isWhole = true) :
    areMisuses node.entityViolations := by
  match node with
  | .missing => cases present
  | .field _ | .reference _ | .value _ | .pattern _ =>
    unfold entityViolations
    exact areMisuses_nil
  | .test .. | .set _ =>
    unfold entityViolations
    exact areMisuses_singleton rfl
  | .slice entity range? =>
    rw [preorder, List.forall_mem_cons] at whole
    obtain ⟨here, below⟩ := whole
    simp only [isWhole, Bool.and_eq_true] at here
    unfold entityViolations
    exact entityViolations_misuse entity here.1 below
  | .call definition? arguments =>
    rw [preorder, List.forall_mem_cons] at whole
    obtain ⟨here, below⟩ := whole
    simp only [isWhole, Bool.and_eq_true] at here
    unfold entityViolations
    exact entitiesViolations_misuse arguments here.2 below
  | .arithmetic operator left right =>
    rw [preorder, List.forall_mem_cons, List.forall_mem_append] at whole
    obtain ⟨here, first, second⟩ := whole
    simp only [isWhole, Bool.and_eq_true, beq_iff_eq] at here
    obtain ⟨⟨_, present⟩, rest⟩ := here
    unfold entityViolations
    refine areMisuses_append (entityViolations_misuse left present first) ?_
    split
    · rename_i negates
      exact areMisuses_ite (by rw [rest, negates]; rfl)
    · rename_i binary
      exact entityViolations_misuse right (by rw [rest]; simpa using binary) second

theorem entitiesViolations_misuse (nodes : List Node) (present : nodes.all isPresent = true)
    (whole : ∀ below ∈ preorderAll nodes, below.isWhole = true) :
    areMisuses (entitiesViolations nodes) := by
  match nodes with
  | [] =>
    unfold entitiesViolations
    exact areMisuses_nil
  | node :: nodes =>
    rw [preorderAll, List.forall_mem_append] at whole
    rw [List.all_cons, Bool.and_eq_true] at present
    unfold entitiesViolations
    exact areMisuses_append (entityViolations_misuse node present.1 whole.1)
      (entitiesViolations_misuse nodes present.2 whole.2)

end

theorem elementViolations_misuse (elements : List Element)
    (present : elements.all Element.isPresent = true)
    (whole : ∀ below ∈ preorderElements elements, below.isWhole = true) :
    areMisuses (elementViolations elements) := by
  match elements with
  | [] =>
    unfold elementViolations
    exact areMisuses_nil
  | .single low :: elements =>
    rw [preorderElements, List.forall_mem_append] at whole
    rw [List.all_cons, Bool.and_eq_true] at present
    unfold elementViolations
    exact areMisuses_append (entityViolations_misuse low present.1 whole.1)
      (elementViolations_misuse elements present.2 whole.2)
  | .between low high :: elements =>
    rw [preorderElements, List.forall_mem_append, List.forall_mem_append] at whole
    rw [List.all_cons, Bool.and_eq_true, Element.isPresent, Bool.and_eq_true] at present
    unfold elementViolations
    exact areMisuses_append (entityViolations_misuse low present.1.1 whole.1)
      (areMisuses_append (entityViolations_misuse high present.1.2 whole.2.1)
        (elementViolations_misuse elements present.2 whole.2.2))

theorem membershipViolations_misuse (operator : Operator) {right : Node}
    (whole : ∀ below ∈ right.preorder, below.isWhole = true) :
    areMisuses (membershipViolations operator right) := by
  unfold membershipViolations
  split
  · exact areMisuses_singleton rfl
  · rename_i elements _
    rw [preorder, List.forall_mem_cons] at whole
    exact elementViolations_misuse elements whole.1 whole.2
  · exact areMisuses_singleton rfl

/-- Where a truth value is wanted, nothing is missing in a tree without gaps. -/
theorem predicateViolations_misuse (node : Node) (present : node.isPresent = true)
    (whole : ∀ below ∈ node.preorder, below.isWhole = true) :
    areMisuses node.predicateViolations := by
  match node with
  | .missing => cases present
  | .field _ =>
    unfold predicateViolations
    exact areMisuses_nil
  | .reference _ | .value _ | .pattern _ | .set _ => exact areMisuses_singleton rfl
  | .arithmetic operator left right =>
    exact entityViolations_misuse (.arithmetic operator left right) present whole
  | .call definition? arguments =>
    exact entityViolations_misuse (.call definition? arguments) present whole
  | .slice entity range? => exact entityViolations_misuse (.slice entity range?) present whole
  | .test operator quantifier left right =>
    rw [preorder, List.forall_mem_cons, List.forall_mem_append] at whole
    obtain ⟨here, first, second⟩ := whole
    simp only [isWhole, Bool.and_eq_true, beq_iff_eq] at here
    obtain ⟨⟨_, leftPresent⟩, rest⟩ := here
    unfold predicateViolations
    split
    · rename_i negates
      exact areMisuses_append (predicateViolations_misuse left leftPresent first)
        (areMisuses_ite (by rw [rest, negates]; rfl))
    rename_i binary
    have rightPresent : right.isPresent = true := by
      rw [rest]
      simpa using binary
    split
    · exact areMisuses_append (predicateViolations_misuse left leftPresent first)
        (predicateViolations_misuse right rightPresent second)
    split
    · exact areMisuses_append (entityViolations_misuse left leftPresent first)
        (membershipViolations_misuse operator second)
    split
    · exact areMisuses_append (entityViolations_misuse left leftPresent first)
        (entityViolations_misuse right rightPresent second)
    · exact areMisuses_nil

end Node

/-- **Nothing is missing in a tree without gaps.** What validation reports of it is about the use of
complete nodes. -/
theorem validate_misuse {root : Node} (present : root.isPresent = true)
    (whole : ∀ node ∈ root.preorder, node.isWhole = true) : Node.areMisuses (validate root) := by
  rw [validate, if_pos present]
  refine Node.areMisuses_append (fun violation member => ?_)
    (root.predicateViolations_misuse present whole)
  obtain ⟨node, below, reported⟩ := List.mem_flatMap.mp member
  exact Node.payloadViolations_misuse (whole node below) violation reported

/-! ### Compiling -/

theorem Node.isDeclared_of_isWhole {node : Node} (whole : node.isWhole = true) :
    node.isDeclared = true := by
  cases node with
  | test operator quantifier left right =>
    simp only [isWhole, Bool.and_eq_true] at whole
    rw [isDeclared, whole.1.1.1.1, whole.1.1.2]
    rfl
  | _ => rfl

/-- A tree without gaps that validation accepts compiles, whatever is asked for. -/
theorem compiles_of_whole {root : Node} (whole : ∀ node ∈ root.preorder, node.isWhole = true)
    (valid : validate root = []) (config : CompileConfig) :
    ∃ compiled, compileTree config root = .ok compiled := by
  have admitted : validationFault? root = none := by
    rw [validationFault?, valid]
  refine compiles_iff.mpr ⟨.inr admitted, (isPredicate_of_valid valid).mpr fun node below => ?_⟩
  exact Node.isDeclared_of_isWhole (whole node below)

/-- Whatever validation reports is reported together. -/
theorem validationFault?_eq {root : Node} (invalid : validate root ≠ []) :
    validationFault? root = some (.several ((validate root).map Violation.toFault)) := by
  unfold validationFault?
  split
  · contradiction
  · rfl

theorem Outline.decode_decoded (resolver : Resolver) (text : RawText) :
    DecodesNode resolver (decode resolver text) := by
  unfold decode
  split
  · exact toNode_decoded _ _
  · exact fun _ => Decoding.ends_throw _ _

/-- Documents are decoded to trees without gaps. -/
theorem decodeDocument_decoded {table? : Option Table} {text : RawText} {root : Node} {after : Table}
    (decoded : decodeDocument table? text = .ok (root, after)) :
    root.isPresent = true ∧ ∀ node ∈ root.preorder, node.isWhole = true := by
  cases table? with
  | none =>
    obtain ⟨present, made⟩ := Outline.decode_decoded .registering text .empty root after decoded
    exact ⟨present, made.whole⟩
  | some table =>
    obtain ⟨present, made⟩ := Outline.decode_decoded .lookup text table root after decoded
    exact ⟨present, made.whole⟩

/-- A document that is decoded compiles as its tree does. -/
theorem compileDocument_eq {table? : Option Table} {text : RawText} {root : Node} {table : Table}
    (options : List FilterOption) (decoded : decodeDocument table? text = .ok (root, table)) :
    compileDocument table? options text =
      (compileTree ((FilterOptions.collect options).config table.registry) root).map fun compiled =>
        (compiled.1.toProgram, logged (FilterOptions.collect options).log? compiled.2, table) := by
  unfold compileDocument compileFilter compile
  rw [decoded]
  dsimp only [bind, Except.bind]
  cases compileTree ((FilterOptions.collect options).config table.registry) root <;> rfl

/-- **Decoded trees have no gaps, so nothing but misuse is reported of them and code generation never
refuses them.** Whatever the resolver, what validation reports of a decoded tree is about the use of
complete nodes, and a decoded tree of which it reports nothing compiles. A document that is compiled
with validation is refused by its decoding or by what validation reports of its tree. -/
theorem decoded_compiles :
    (∀ (resolver : Resolver) (outline : Outline) (path : String) (before after : Table) (root : Node),
      outline.toNode resolver path before = .ok (root, after) →
        (∀ finding ∈ validate root,
          finding.code ∈ [.invalidEntity, .argumentCount, .invalidQuantifier, .invalidPredicate,
              .invalidSet] ∧
            finding ≠ .notTakesOneOperand ∧ finding ≠ .negationTakesOneOperand) ∧
        (validate root = [] → ∀ config, ∃ compiled, compileTree config root = .ok compiled)) ∧
    ∀ (table? : Option Table) (options : List FilterOption) (text : RawText) (fault : Fault),
      (FilterOptions.collect options).skipValidation = false →
      compileDocument table? options text = .error fault →
        decodeDocument table? text = .error fault ∨
          ∃ root table, decodeDocument table? text = .ok (root, table) ∧ validate root ≠ [] ∧
            fault = .several ((validate root).map Violation.toFault) := by
  refine ⟨fun resolver outline path before after root decoded => ?_,
    fun table? options text fault validates failed => ?_⟩
  · obtain ⟨present, made⟩ := Outline.toNode_decoded outline path before root after decoded
    refine ⟨fun finding reported => ?_, compiles_of_whole made.whole⟩
    exact Violation.isMisuse_code (validate_misuse present made.whole finding reported)
  · cases decoded : decodeDocument table? text with
    | error cause =>
      unfold compileDocument at failed
      rw [decoded] at failed
      cases failed
      exact .inl rfl
    | ok reached =>
      obtain ⟨root, table⟩ := reached
      obtain ⟨present, whole⟩ := decodeDocument_decoded decoded
      refine .inr ⟨root, table, rfl, ?_⟩
      rw [compileDocument_eq options decoded] at failed
      by_cases valid : validate root = []
      · -- Code generation has nothing left to refuse.
        obtain ⟨compiled, made⟩ := compiles_of_whole whole valid
          ((FilterOptions.collect options).config table.registry)
        rw [made] at failed
        cases failed
      · rw [compileTree_refused present validates (validationFault?_eq valid)] at failed
        cases failed
        exact ⟨valid, rfl⟩

/-- The document of a reference that stands alone. -/
def loneReference : RawText := .ofString "reference: a"

/-- What is written there. -/
def loneReferenceOutline : Outline :=
  .node { OutlineKeys.empty with reference := .ofString "a" } none none none [] none none

theorem loneReference_tokens : Yaml.tokens loneReference.octets =
    [.blockMapping, .key, .scalar "reference" true, .value, .scalar "a" true, .blockEnd,
      .streamEnd] := by
  decide +kernel

theorem loneReference_read : Outline.read loneReference = .ok loneReferenceOutline := by
  unfold Outline.read Yaml.Document.read
  dsimp only
  rw [loneReference_tokens]
  rfl

theorem loneReferenceOutline_toNode : ∃ read table,
    loneReferenceOutline.toNode .registering "root" .empty = .ok (.reference read, table) := by
  unfold loneReferenceOutline Outline.toNode
  exact ⟨_, _, rfl⟩

/-! ### A tree of several nodes -/

theorem Decoding.bind_ok {α β : Type} {step : Decoding α} {next : α → Decoding β} {value : α}
    {before after : Table} (first : step before = .ok (value, after)) :
    (step >>= next) before = next value after := by
  show (step before >>= fun reached => next reached.1 reached.2) = _
  rw [first]
  rfl

namespace Outline

/-- The outline of a field. -/
def ofField (name : String) : Outline :=
  .node { OutlineKeys.empty with field := .ofString name } none none none [] none none

/-- The outline of a test with two operands. -/
def ofTest (operator : String) (left right : Outline) : Outline :=
  .node { OutlineKeys.empty with test := .ofString operator } (some left) (some right) none []
    none none

variable {resolver : Resolver} {name path : String} {before middle after : Table}

theorem toNode_ofField {field : Field} (kind : (ofField name).variants = [.field])
    (found : resolver (.ofString name) before = .ok (field, after)) :
    (ofField name).toNode resolver path before =
      .ok (.field ⟨some field, none, false, false⟩, after) := by
  have chosen : variant (ofField name) path = pure .field := by
    unfold variant
    rw [kind]
  have asked : (fun table => (resolver (.ofString name) table).mapError (located path)) before =
      .ok (field, after) := by
    dsimp only
    rw [found]
    rfl
  have read : fieldOf resolver { OutlineKeys.empty with field := .ofString name } (.ofString name)
      path before = .ok (⟨some field, none, false, false⟩, after) :=
    Decoding.bind_ok asked
  unfold ofField at chosen ⊢
  unfold toNode
  rw [chosen, pure_bind]
  exact Decoding.bind_ok read

theorem toNode_ofTest {operator : Operator} {left right : Outline} {first second : Node}
    (kind : (ofTest name left right).variants = [.test])
    (known : (RawText.ofString name).string?.bind Operator.ofName? = some operator)
    (plain : operator.isArithmetic = false) (binary : operator ≠ .not)
    (leftMade : left.toNode resolver (path ++ ".left") before = .ok (first, middle))
    (rightMade : right.toNode resolver (path ++ ".right") middle = .ok (second, after)) :
    (ofTest name left right).toNode resolver path before =
      .ok (.test operator .baseline first second, after) := by
  have chosen : variant (ofTest name left right) path = pure .test := by
    unfold variant
    rw [kind]
  have named : testOperator { OutlineKeys.empty with test := .ofString name } path =
      pure operator := by
    unfold testOperator
    simp only [known, plain, Bool.false_eq_true, if_false]
  have unquantified : quantifierOf { OutlineKeys.empty with test := .ofString name } path =
      pure .baseline := rfl
  unfold ofTest at chosen ⊢
  unfold toNode partNode
  rw [chosen, pure_bind]
  dsimp only
  rw [named, pure_bind, unquantified, pure_bind, Decoding.bind_ok leftMade, if_neg binary]
  exact Decoding.bind_ok rightMade

end Outline

/-- The outline of a field, which is compared with another one if it is present. -/
def comparedOutline : Outline :=
  .ofTest "and" (.ofField "b") (.ofTest "==" (.ofField "a") (.ofField "b"))

/-- The fields of `comparedOutline`, numbered as they are met. -/
def comparedTable : Table :=
  .ofList [(.ofString "b", .empty, .empty), (.ofString "a", .empty, .empty)]

/-- The tree of `comparedOutline`. -/
def comparedTree : Node :=
  let field (id : Int) (name : String) : Node :=
    .field ⟨some ⟨id, .ofString name, .empty, .empty⟩, none, false, false⟩
  .test .and .baseline (field 0 "b") (.test .anyEq .baseline (field 1 "a") (field 0 "b"))

theorem comparedOutline_toNode : comparedOutline.toNode .registering "root" .empty =
    .ok (comparedTree, comparedTable) := by
  have again : Resolver.registering (.ofString "b") comparedTable =
      .ok (⟨0, .ofString "b", .empty, .empty⟩, comparedTable) := by
    have known : comparedTable.lookup? (.ofString "b") =
        some ⟨0, .ofString "b", .empty, .empty⟩ := (Table.chained_ofList _).lookup _
    unfold Resolver.registering
    rw [known]
  refine Outline.toNode_ofTest rfl rfl rfl nofun (Outline.toNode_ofField rfl rfl) ?_
  exact Outline.toNode_ofTest rfl rfl rfl nofun (Outline.toNode_ofField rfl rfl)
    (Outline.toNode_ofField rfl again)

/-- A tree of several nodes is decoded and compiles. A reference that stands alone is decoded and
reported, and its document is refused by validation. -/
theorem decoded_compiles_or_refused :
    (comparedOutline.toNode .registering "root" .empty = .ok (comparedTree, comparedTable) ∧
      validate comparedTree = [] ∧
      ∀ config, ∃ compiled, compileTree config comparedTree = .ok compiled) ∧
    (∃ root after, loneReferenceOutline.toNode .registering "root" .empty = .ok (root, after) ∧
      validate root ≠ [] ∧
      ∀ finding ∈ validate root,
        finding.code ∈ [.invalidEntity, .argumentCount, .invalidQuantifier, .invalidPredicate,
            .invalidSet] ∧
          finding ≠ .notTakesOneOperand ∧ finding ≠ .negationTakesOneOperand) ∧
    ∃ fault, compileDocument none [] loneReference = .error fault ∧
      (decodeDocument none loneReference = .error fault ∨
        ∃ root table, decodeDocument none loneReference = .ok (root, table) ∧ validate root ≠ [] ∧
          fault = .several ((validate root).map Violation.toFault)) := by
  obtain ⟨read, table, decoded⟩ := loneReferenceOutline_toNode
  have invalid : validate (.reference read) ≠ [] := by
    simp [validate, Node.isPresent, Node.predicateViolations]
  refine ⟨⟨comparedOutline_toNode, rfl, ?_⟩,
    ⟨_, table, decoded, invalid, (decoded_compiles.1 _ _ _ _ _ _ decoded).1⟩, ?_⟩
  · exact (decoded_compiles.1 _ _ _ _ _ _ comparedOutline_toNode).2 rfl
  have document : decodeDocument none loneReference = .ok (.reference read, table) := by
    unfold decodeDocument Outline.decode
    rw [loneReference_read]
    exact decoded
  have failed := compileDocument_eq [] document
  rw [compileTree_refused rfl rfl (validationFault?_eq invalid)] at failed
  exact ⟨_, failed, decoded_compiles.2 _ _ _ _ rfl failed⟩

end DisplayFilter
