/-
**Code for alike trees.**

Code generation asks for the field that stands for a written one before it does anything with it,
except where it applies the value-string table of the field. So the code for two trees that are
alike is alike: only the operands of those tables tell which of the fields was written.

* `Node.tabled`: the fields of a tree whose tables are applied.
* `Compile.entity_agrees`: the code for a value.
* `Compile.predicate_agrees`: the code for a truth value.
* `generated_agrees`: the code of a root.
-/

import DisplayFilter.Proofs.Interchange.Steps

namespace DisplayFilter

/-! ### Tables that are applied -/

/-- The field of a read, if its value-string table is wanted. -/
def FieldRead.tabled (read : FieldRead) : List Field :=
  if read.valueString then read.field?.toList else []

namespace Node

/-- The field that a node itself reads. -/
def written : Node → List Field
  | .field read | .reference read => read.field?.toList
  | _ => []

mutual

/-- The fields whose value-string tables are applied by the code for a tree at a position, as they
are written in it and in its order. A field that is only tested for presence has no use for its
table, `vals` applies the table of its argument however that is marked, and nothing is generated for
a second operand of a negation. -/
def tabled (position : Position) : Node → List Field
  | .missing | .value _ | .pattern _ => []
  | .test operator _ left right =>
    if operator = .not then left.tabled .truth
    else left.tabled operator.operandPosition ++ right.tabled operator.operandPosition
  | .arithmetic _ left right => left.tabled .value ++ right.tabled .value
  | .field read => if position = .value then read.tabled else []
  | .reference read => read.tabled
  | .slice entity _ => entity.tabled .value
  | .call definition? arguments =>
    if definition?.map FunctionDef.name = some "vals" then arguments.flatMap written
    else tabledAll arguments
  | .set elements => tabledElements elements

/-- The fields whose tables are applied in several trees. -/
def tabledAll : List Node → List Field
  | [] => []
  | node :: nodes => node.tabled .value ++ tabledAll nodes

/-- The fields whose tables are applied in the members of a set. -/
def tabledElements : List Element → List Field
  | [] => []
  | .single low :: elements => low.tabled .value ++ tabledElements elements
  | .between low high :: elements =>
    low.tabled .value ++ (high.tabled .value ++ tabledElements elements)

end

theorem tabled_comparison {operator : Operator} (logical : operator.isLogical = false)
    (position : Position) (quantifier : Quantifier) (left right : Node) :
    tabled position (.test operator quantifier left right) =
      left.tabled .value ++ right.tabled .value := by
  have values : operator.operandPosition = .value := by
    rw [Operator.operandPosition, logical]
    rfl
  rw [tabled, if_neg (Operator.ne_not logical), values]

theorem tabled_vals {definition : FunctionDef} (named : definition.name = "vals")
    (position : Position) (arguments : List Node) :
    tabled position (.call (some definition) arguments) = arguments.flatMap written :=
  if_pos (congrArg some named)

theorem tabled_call {definition : FunctionDef} (other : definition.name ≠ "vals")
    (position : Position) (arguments : List Node) :
    tabled position (.call (some definition) arguments) = tabledAll arguments :=
  if_neg fun same => other (Option.some.inj same)

end Node

namespace Compile

open Gen

variable {registry registry' : Registry} (pairing : Pairing registry registry')

/-! ### Reads -/

theorem agrees_markInteresting {field field' : Field} (same : pairing.same field field') :
    Agrees pairing.noted [] []
      (modify fun code => code.markInteresting registry (registry.canonical field))
      (modify fun code => code.markInteresting registry' (registry.canonical field)) :=
  agrees_change fun alike => ⟨rfl, alike.markInteresting pairing same⟩

theorem withValueString_agrees {noted : List Field → List Field → Prop} (wanted : Bool)
    (field field' : Field) (value : Value) :
    Agrees noted (if wanted then [field] else []) (if wanted then [field'] else [])
      (withValueString wanted field value) (withValueString wanted field' value) := by
  unfold withValueString
  cases wanted with
  | true => exact (valueString_agrees field field' value.1).andThen fun _ => agrees_pure _
  | false => exact agrees_pure _

theorem readField_agrees {read read' : FieldRead} (alike : read.Alike pairing.same read') :
    Agrees pairing.noted read.tabled read'.tabled (readField registry read)
      (readField registry' read') := by
  unfold readField
  cases alike with
  | unknown => exact agrees_fail _
  | @known field field' related range? raw valueString =>
    simp only [pairing.canonical related]
    split
    · refine (agrees_plainRegister _ _).behind fun register => ?_
      refine (agrees_newOperand _).behind fun operand => ?_
      refine (agrees_emit _ (by decide)).behind fun _ => ?_
      refine (agrees_pure register).behind fun register => ?_
      refine agrees_emitJump.behind fun jump => ?_
      refine (agrees_markInteresting pairing related).behind fun _ => ?_
      exact withValueString_agrees valueString field field' _
    · refine agrees_newRegister.behind fun register => ?_
      refine (agrees_newOperand _).behind fun operand => ?_
      refine (agrees_newOperand _).behind fun bytes => ?_
      refine (agrees_emit _ (by decide)).behind fun _ => ?_
      refine (agrees_pure register).behind fun register => ?_
      refine agrees_emitJump.behind fun jump => ?_
      refine (agrees_markInteresting pairing related).behind fun _ => ?_
      exact withValueString_agrees valueString field field' _

theorem readReference_agrees {read read' : FieldRead} (alike : read.Alike pairing.same read') :
    Agrees pairing.noted read.tabled read'.tabled (readReference registry read)
      (readReference registry' read') := by
  unfold readReference
  cases alike with
  | unknown => exact agrees_fail _
  | @known field field' related range? raw valueString =>
    simp only [pairing.canonical related]
    have noted : Agrees pairing.noted [] []
        (modify fun code => (code.addReference (registry.canonical field) raw).markInteresting
          registry (registry.canonical field))
        (modify fun code => (code.addReference (registry.canonical field) raw).markInteresting
          registry' (registry.canonical field)) :=
      agrees_change fun alike => ⟨rfl, (alike.addReference _ raw).markInteresting pairing related⟩
    refine agrees_newRegister.behind fun register => ?_
    refine (agrees_newOperand _).behind fun operand => ?_
    split
    · refine (agrees_emit _ (by decide)).behind fun _ => ?_
      refine agrees_emitJump.behind fun jump => ?_
      refine noted.behind fun _ => ?_
      exact withValueString_agrees valueString field field' _
    · refine (agrees_newOperand _).behind fun bytes => ?_
      refine (agrees_emit _ (by decide)).behind fun _ => ?_
      refine agrees_emitJump.behind fun jump => ?_
      refine noted.behind fun _ => ?_
      exact withValueString_agrees valueString field field' _

theorem existence_agrees {read read' : FieldRead} (alike : read.Alike pairing.same read') :
    Agrees pairing.noted [] [] (existence registry read) (existence registry' read') := by
  unfold existence
  cases alike with
  | unknown => exact agrees_fail _
  | @known field field' related range? raw valueString =>
    simp only [pairing.canonical related]
    refine (agrees_newOperand _).behind fun operand => ?_
    split
    · exact (agrees_emit _ (by decide)).behind fun _ => agrees_markInteresting pairing related
    · refine (agrees_newOperand _).behind fun bytes => ?_
      exact (agrees_emit _ (by decide)).behind fun _ => agrees_markInteresting pairing related

/-- A read and the table of `vals` together apply the table of the field once. -/
theorem withTable_agrees {read read' : FieldRead} {reading reading' : Gen Value}
    (alike : read.Alike pairing.same read')
    (agrees : Agrees pairing.noted read.tabled read'.tabled reading reading') :
    Agrees pairing.noted read.field?.toList read'.field?.toList (reading >>= withTable read)
      (reading' >>= withTable read') := by
  cases alike with
  | unknown range? raw valueString =>
    have both := agrees.andThen fun value => agrees_pure value
    cases valueString <;> exact both
  | @known field field' related range? raw valueString =>
    have both := agrees.bind fun value => withValueString_agrees (!valueString) field field' value
    cases valueString <;> exact both

/-! ### Values -/

theorem arithmeticOpcode?_ne {operator : Operator} {opcode : Opcode}
    (chosen : operator.arithmeticOpcode? = some opcode) : opcode ≠ .valueString := by
  rintro rfl
  cases operator <;> cases chosen

theorem selectOpcode_ne {operator : Operator} {quantifier : Quantifier} {opcode : Opcode}
    (chosen : selectOpcode operator quantifier = .ok opcode) : opcode ≠ .valueString := by
  rintro rfl
  cases operator <;> cases quantifier <;> cases chosen

theorem slice_agrees {inner inner' : Node} (range? : Option ByteRange)
    (agrees : Agrees pairing.noted (inner.tabled .value) (inner'.tabled .value)
      (entity registry inner) (entity registry' inner')) :
    Agrees pairing.noted (inner.tabled .value) (inner'.tabled .value)
      (entity registry (.slice inner range?)) (entity registry' (.slice inner' range?)) := by
  unfold entity
  dsimp only
  split
  · exact agrees_fail _
  · refine agrees.andThen fun value => ?_
    refine agrees_newRegister.behind fun register => ?_
    refine (agrees_newOperand _).behind fun bytes => ?_
    exact (agrees_emit _ (by decide)).behind fun _ => agrees_pure _

theorem length_agrees {definition : FunctionDef} {argument argument' : Node}
    (named : definition.name = "len")
    (agrees : Agrees pairing.noted (argument.tabled .value) (argument'.tabled .value)
      (entity registry argument) (entity registry' argument')) :
    Agrees pairing.noted (argument.tabled .value) (argument'.tabled .value)
      (entity registry (.call (some definition) [argument]))
      (entity registry' (.call (some definition) [argument'])) := by
  unfold entity
  simp only [named, if_true]
  refine agrees.andThen fun value => ?_
  refine agrees_newRegister.behind fun register => ?_
  exact (agrees_emit _ (by decide)).behind fun _ => agrees_pure _

theorem vals_agrees {definition : FunctionDef} {args args' : List Node}
    (named : definition.name = "vals") (alike : Node.AllAlike pairing.same args args') :
    Agrees pairing.noted (args.flatMap Node.written) (args'.flatMap Node.written)
      (entity registry (.call (some definition) args))
      (entity registry' (.call (some definition) args')) := by
  unfold entity
  simp only [named, if_neg (show ¬ "vals" = "len" by decide), if_true]
  cases alike with
  | nil => exact agrees_fail _
  | cons first rest =>
    cases rest with
    | cons _ rest =>
      simp only [List.length_cons, rest.length_eq]
      exact agrees_fail _
    | nil =>
      rw [List.flatMap_singleton, List.flatMap_singleton]
      have described := first.describe_eq pairing.named
      cases first with
      | field reads => exact withTable_agrees pairing reads (readField_agrees pairing reads)
      | reference reads =>
        exact withTable_agrees pairing reads (readReference_agrees pairing reads)
      | _ =>
        simp only [described]
        exact agrees_fail _

/-- The code for arguments of calls is alike if that for their values is. -/
theorem arguments_agrees {args args' : List Node}
    (agree : List.Forall₂ (fun node node' => Agrees pairing.noted (node.tabled .value)
      (node'.tabled .value) (entity registry node) (entity registry' node')) args args') :
    Agrees pairing.noted (Node.tabledAll args) (Node.tabledAll args') (arguments registry args)
      (arguments registry' args') := by
  induction agree with
  | nil => exact agrees_pure _
  | cons first _ ih =>
    unfold Node.tabledAll arguments
    refine first.bind fun value => ?_
    refine (agrees_fixup _).behind fun _ => ?_
    exact (agrees_emit _ (by decide)).behind fun _ => ih

/-- A call through the argument stack. -/
theorem stackCall_agrees {definition : FunctionDef} {args args' : List Node}
    (notLen : definition.name ≠ "len") (notVals : definition.name ≠ "vals")
    (count : args'.length = args.length)
    (agrees : Agrees pairing.noted (Node.tabledAll args) (Node.tabledAll args')
      (arguments registry args) (arguments registry' args')) :
    Agrees pairing.noted (Node.tabledAll args) (Node.tabledAll args')
      (entity registry (.call (some definition) args))
      (entity registry' (.call (some definition) args')) := by
  unfold entity
  simp only [notLen, notVals, if_false, count]
  refine (agrees_newOperand _).behind fun function => ?_
  refine agrees_newRegister.behind fun register => ?_
  refine agrees.andThen fun _ => ?_
  refine (agrees_newOperand _).behind fun passed => ?_
  refine (agrees_emit _ (by decide)).behind fun _ => ?_
  refine (agrees_newOperand _).behind fun popped => ?_
  refine (agrees_emit _ (by decide)).behind fun _ => ?_
  exact agrees_emitJump.behind fun jump => agrees_pure _

theorem call_agrees (definition? : Option FunctionDef) {args args' : List Node}
    (all : Node.AllAlike pairing.same args args')
    (agree : List.Forall₂ (fun node node' => Agrees pairing.noted (node.tabled .value)
      (node'.tabled .value) (entity registry node) (entity registry' node')) args args') :
    Agrees pairing.noted (Node.tabled .value (.call definition? args))
      (Node.tabled .value (.call definition? args')) (entity registry (.call definition? args))
      (entity registry' (.call definition? args')) := by
  cases definition? with
  | none => exact agrees_fail _
  | some definition =>
    by_cases vals : definition.name = "vals"
    · rw [Node.tabled_vals vals, Node.tabled_vals vals]
      exact vals_agrees pairing vals all
    rw [Node.tabled_call vals, Node.tabled_call vals]
    by_cases len : definition.name = "len"
    · cases agree with
      | nil =>
        rw [entity_length len (by simp), entity_length len (by simp)]
        exact agrees_fail _
      | cons first rest =>
        cases rest with
        | nil =>
          unfold Node.tabledAll Node.tabledAll
          rw [List.append_nil, List.append_nil]
          exact length_agrees pairing len first
        | cons _ rest =>
          rw [entity_length len (by simp), entity_length len (by simp)]
          simp only [List.length_cons, rest.length_eq]
          exact agrees_fail _
    · exact stackCall_agrees pairing len vals all.length_eq.symm (arguments_agrees pairing agree)

/-- What has no value is refused alike. -/
theorem noValue_agrees {node node' : Node} {tabled tabled' : List Field}
    (alike : node.Alike pairing.same node')
    (refused : entity registry node = Gen.fail (.noValue node.describe))
    (refused' : entity registry' node' = Gen.fail (.noValue node'.describe)) :
    Agrees pairing.noted tabled tabled' (entity registry node) (entity registry' node') := by
  rw [refused, refused', alike.describe_eq pairing.named]
  exact agrees_fail _

theorem arithmetic_agrees (operator : Operator) {left right left' right' : Node}
    (alike : right.Alike pairing.same right')
    (first : Agrees pairing.noted (left.tabled .value) (left'.tabled .value)
      (entity registry left) (entity registry' left'))
    (second : Agrees pairing.noted (right.tabled .value) (right'.tabled .value)
      (entity registry right) (entity registry' right')) :
    Agrees pairing.noted (left.tabled .value ++ right.tabled .value)
      (left'.tabled .value ++ right'.tabled .value)
      (entity registry (.arithmetic operator left right))
      (entity registry' (.arithmetic operator left' right')) := by
  unfold entity
  split
  · exact agrees_fail _
  rename_i opcode chosen
  refine first.bind fun value => ?_
  dsimp only
  split
  · -- A negation has nothing on its right side that could be read.
    cases alike with
    | missing =>
      refine agrees_newRegister.behind fun register => ?_
      exact (agrees_emit _ (arithmeticOpcode?_ne chosen)).behind fun _ => agrees_pure _
    | _ => exact agrees_fail _
  · refine second.andThen fun other => ?_
    refine agrees_newRegister.behind fun register => ?_
    exact (agrees_emit _ (arithmeticOpcode?_ne chosen)).behind fun _ => agrees_pure _

mutual

/-- **The code for values of alike nodes is alike.** -/
theorem entity_agrees {node node' : Node} (alike : node.Alike pairing.same node') :
    Agrees pairing.noted (node.tabled .value) (node'.tabled .value) (entity registry node)
      (entity registry' node') := by
  match node, node', alike with
  | _, _, .missing => exact agrees_fail _
  | _, _, .pattern none => exact agrees_fail _
  | _, _, .pattern (some pattern) => exact (agrees_newOperand _).behind fun _ => agrees_pure _
  | _, _, .value constant => exact (agrees_newOperand _).behind fun _ => agrees_pure _
  | _, _, .test operator quantifier first second =>
    exact noValue_agrees pairing (.test operator quantifier first second) rfl rfl
  | _, _, .set all => exact noValue_agrees pairing (.set all) rfl rfl
  | _, _, .field reads => exact readField_agrees pairing reads
  | _, _, .reference reads => exact readReference_agrees pairing reads
  | _, _, .slice inner range? => exact slice_agrees pairing range? (entity_agrees inner)
  | _, _, .arithmetic operator first second =>
    exact arithmetic_agrees pairing operator second (entity_agrees first) (entity_agrees second)
  | _, _, .call definition? all => exact call_agrees pairing definition? all (entities_agree all)

theorem entities_agree {nodes nodes' : List Node} (all : Node.AllAlike pairing.same nodes nodes') :
    List.Forall₂ (fun node node' => Agrees pairing.noted (node.tabled .value)
      (node'.tabled .value) (entity registry node) (entity registry' node')) nodes nodes' := by
  match nodes, nodes', all with
  | _, _, .nil => exact .nil
  | _, _, .cons first rest => exact .cons (entity_agrees first) (entities_agree rest)

end

/-! ### Truth values -/

theorem relation_agrees (operator : Operator) (quantifier : Quantifier)
    {left right left' right' : Node} (first : left.Alike pairing.same left')
    (second : right.Alike pairing.same right') :
    Agrees pairing.noted (left.tabled .value ++ right.tabled .value)
      (left'.tabled .value ++ right'.tabled .value)
      (relation registry operator quantifier left right)
      (relation registry' operator quantifier left' right') := by
  unfold relation
  refine (entity_agrees pairing first).bind fun value => ?_
  refine (entity_agrees pairing second).andThen fun other => ?_
  refine agrees_lift fun opcode chosen => ?_
  exact (agrees_emit _ (selectOpcode_ne chosen)).behind fun _ => agrees_fixup _

theorem single_agrees {low low' : Node} {rest rest' : List Element}
    (alike : low.Alike pairing.same low')
    (agrees : Agrees pairing.noted (Node.tabledElements rest) (Node.tabledElements rest')
      (setElements registry rest) (setElements registry' rest')) :
    Agrees pairing.noted (Node.tabledElements (.single low :: rest))
      (Node.tabledElements (.single low' :: rest')) (setElements registry (.single low :: rest))
      (setElements registry' (.single low' :: rest')) := by
  unfold Node.tabledElements setElements
  refine (entity_agrees pairing alike).bind fun value => ?_
  refine (agrees_emit _ (by decide)).behind fun _ => ?_
  exact (agrees_fixup _).behind fun _ => agrees

theorem between_agrees {low high low' high' : Node} {rest rest' : List Element}
    (alike : low.Alike pairing.same low') (also : high.Alike pairing.same high')
    (agrees : Agrees pairing.noted (Node.tabledElements rest) (Node.tabledElements rest')
      (setElements registry rest) (setElements registry' rest')) :
    Agrees pairing.noted (Node.tabledElements (.between low high :: rest))
      (Node.tabledElements (.between low' high' :: rest'))
      (setElements registry (.between low high :: rest))
      (setElements registry' (.between low' high' :: rest')) := by
  unfold Node.tabledElements setElements
  refine (entity_agrees pairing alike).bind fun value => ?_
  refine (entity_agrees pairing also).bind fun other => ?_
  refine (agrees_emit _ (by decide)).behind fun _ => ?_
  exact (agrees_fixup _).behind fun _ => agrees

theorem setElements_agrees {elements elements' : List Element}
    (all : Node.ElementsAlike pairing.same elements elements') :
    Agrees pairing.noted (Node.tabledElements elements) (Node.tabledElements elements')
      (setElements registry elements) (setElements registry' elements') := by
  match elements, elements', all with
  | _, _, .nil => exact agrees_pure _
  | _, _, .single low rest => exact single_agrees pairing low (setElements_agrees rest)
  | _, _, .between low high rest =>
    exact between_agrees pairing low high (setElements_agrees rest)

theorem membership_agrees (operator : Operator) (quantifier : Quantifier)
    {left right left' right' : Node} (first : left.Alike pairing.same left')
    (second : right.Alike pairing.same right') :
    Agrees pairing.noted (left.tabled .value ++ right.tabled .value)
      (left'.tabled .value ++ right'.tabled .value)
      (membership registry operator quantifier left right)
      (membership registry' operator quantifier left' right') := by
  have described := second.describe_eq pairing.named
  unfold membership
  cases second with
  | set all =>
    refine agrees_lift fun opcode chosen => ?_
    refine (entity_agrees pairing first).bind fun value => ?_
    refine (setElements_agrees pairing all).andThen fun _ => ?_
    refine (agrees_emit _ (selectOpcode_ne chosen)).behind fun _ => ?_
    exact (agrees_emit _ (by decide)).behind fun _ => agrees_fixup _
  | _ =>
    simp only [described]
    exact agrees_fail _

/-- Whether a computed value is not all zero. -/
theorem notZero_agrees {node node' : Node} (alike : node.Alike pairing.same node') :
    Agrees pairing.noted (node.tabled .value) (node'.tabled .value) (notZero registry node)
      (notZero registry' node') := by
  unfold notZero
  refine (entity_agrees pairing alike).andThen fun value => ?_
  refine (agrees_emit _ (by decide)).behind fun _ => ?_
  exact (agrees_fixup _).behind fun _ => agrees_pure _

/-- Whether a slice is not empty. -/
theorem notEmpty_agrees {node node' : Node} (alike : node.Alike pairing.same node') :
    Agrees pairing.noted (node.tabled .value) (node'.tabled .value) (notEmpty registry node)
      (notEmpty registry' node') := by
  unfold notEmpty
  refine (entity_agrees pairing alike).andThen fun value => ?_
  refine agrees_newRegister.behind fun length => ?_
  refine (agrees_emit _ (by decide)).behind fun _ => ?_
  refine (agrees_emit _ (by decide)).behind fun _ => ?_
  exact (agrees_fixup _).behind fun _ => agrees_pure _

/-- A relation or a membership test, or an operator that is refused. -/
theorem comparison_agrees (returnValues : Bool) {operator : Operator} (quantifier : Quantifier)
    {left right left' right' : Node} (first : left.Alike pairing.same left')
    (second : right.Alike pairing.same right') (logical : operator.isLogical = false) :
    Agrees pairing.noted
      (Node.tabled (rootPosition returnValues) (.test operator quantifier left right))
      (Node.tabled (rootPosition returnValues) (.test operator quantifier left' right'))
      (predicate registry returnValues (.test operator quantifier left right))
      (predicate registry' returnValues (.test operator quantifier left' right')) := by
  rw [Node.tabled_comparison logical, Node.tabled_comparison logical]
  obtain relates | tests | ⟨relates, tests⟩ := operator.comparison_cases
  · rw [predicate_relation _ _ _ _ relates, predicate_relation _ _ _ _ relates]
    exact (relation_agrees pairing operator quantifier first second).andThen fun _ => agrees_pure _
  · rw [predicate_membership _ _ _ _ tests, predicate_membership _ _ _ _ tests]
    exact (membership_agrees pairing operator quantifier first second).andThen
      fun _ => agrees_pure _
  · rw [predicate_notATest _ _ _ _ logical relates tests,
      predicate_notATest _ _ _ _ logical relates tests]
    exact agrees_fail _

/-- Two truth values of which the second one may be skipped. -/
theorem shortCircuit_agrees {branch : Opcode} (plain : branch ≠ .valueString)
    {left right left' right' : Node}
    (first : Agrees pairing.noted (left.tabled .truth) (left'.tabled .truth)
      (predicate registry false left) (predicate registry' false left'))
    (second : Agrees pairing.noted (right.tabled .truth) (right'.tabled .truth)
      (predicate registry false right) (predicate registry' false right')) :
    Agrees pairing.noted (left.tabled .truth ++ right.tabled .truth)
      (left'.tabled .truth ++ right'.tabled .truth)
      (do
        let _ ← predicate registry false left
        let target ← Gen.newTarget
        Gen.emit branch [target]
        let _ ← predicate registry false right
        Gen.fixup [target]
        return noOperand)
      (do
        let _ ← predicate registry' false left'
        let target ← Gen.newTarget
        Gen.emit branch [target]
        let _ ← predicate registry' false right'
        Gen.fixup [target]
        return noOperand) := by
  refine first.bind fun _ => ?_
  refine agrees_newTarget.behind fun target => ?_
  refine (agrees_emit _ plain).behind fun _ => ?_
  refine second.andThen fun _ => ?_
  exact (agrees_fixup _).behind fun _ => agrees_pure _

/-- A negation, or two truth values of which the second one may be skipped. -/
theorem connective_agrees {operator : Operator} (logical : operator.isLogical = true)
    (returnValues : Bool) (quantifier : Quantifier) {left right left' right' : Node}
    (first : Agrees pairing.noted (left.tabled .truth) (left'.tabled .truth)
      (predicate registry false left) (predicate registry' false left'))
    (second : Agrees pairing.noted (right.tabled .truth) (right'.tabled .truth)
      (predicate registry false right) (predicate registry' false right')) :
    Agrees pairing.noted
      (Node.tabled (rootPosition returnValues) (.test operator quantifier left right))
      (Node.tabled (rootPosition returnValues) (.test operator quantifier left' right'))
      (predicate registry returnValues (.test operator quantifier left right))
      (predicate registry' returnValues (.test operator quantifier left' right')) := by
  unfold predicate
  obtain rfl | rfl | rfl := Operator.eq_of_isLogical logical
  · refine first.andThen fun _ => ?_
    exact (agrees_emit _ (by decide)).behind fun _ => agrees_pure _
  · exact shortCircuit_agrees pairing (by decide) first second
  · exact shortCircuit_agrees pairing (by decide) first second

/-- A field is loaded or tested for presence. -/
theorem field_agrees {read read' : FieldRead} (alike : read.Alike pairing.same read')
    (returnValues : Bool) :
    Agrees pairing.noted (Node.tabled (rootPosition returnValues) (.field read))
      (Node.tabled (rootPosition returnValues) (.field read'))
      (predicate registry returnValues (.field read))
      (predicate registry' returnValues (.field read')) := by
  unfold predicate
  cases returnValues with
  | false => exact (existence_agrees pairing alike).behind fun _ => agrees_pure _
  | true =>
    refine (readField_agrees pairing alike).andThen fun value => ?_
    exact (agrees_fixup _).behind fun _ => agrees_pure _

/-- What has no truth value is refused alike. -/
theorem noPredicate_agrees {node node' : Node} {returnValues : Bool} {tabled tabled' : List Field}
    (alike : node.Alike pairing.same node')
    (refused : predicate registry returnValues node = Gen.fail (.notAPredicate node.describe))
    (refused' : predicate registry' returnValues node' = Gen.fail (.notAPredicate node'.describe)) :
    Agrees pairing.noted tabled tabled' (predicate registry returnValues node)
      (predicate registry' returnValues node') := by
  rw [refused, refused', alike.describe_eq pairing.named]
  exact agrees_fail _

/-- **The code for truth values of alike nodes is alike.** -/
theorem predicate_agrees {node node' : Node} (alike : node.Alike pairing.same node')
    (returnValues : Bool) :
    Agrees pairing.noted (node.tabled (rootPosition returnValues))
      (node'.tabled (rootPosition returnValues)) (predicate registry returnValues node)
      (predicate registry' returnValues node') := by
  match node, node', alike with
  | _, _, .missing => exact agrees_fail _
  | _, _, .test operator quantifier first second =>
    by_cases logical : operator.isLogical = true
    · exact connective_agrees pairing logical returnValues quantifier
        (predicate_agrees first false) (predicate_agrees second false)
    · exact comparison_agrees pairing returnValues quantifier first second
        (eq_false_of_ne_true logical)
  | _, _, .field reads => exact field_agrees pairing reads returnValues
  | _, _, .arithmetic operator first second =>
    exact notZero_agrees pairing (.arithmetic operator first second)
  | _, _, .call definition? all => exact notZero_agrees pairing (.call definition? all)
  | _, _, .slice inner range? => exact notEmpty_agrees pairing (.slice inner range?)
  | _, _, .reference reads => exact noPredicate_agrees pairing (.reference reads) rfl rfl
  | _, _, .value constant => exact agrees_fail _
  | _, _, .pattern pattern? => exact agrees_fail _
  | _, _, .set all => exact noPredicate_agrees pairing (.set all) rfl rfl

end Compile

/-! ### The code of a root -/

/-- **The code of alike roots is alike.** -/
theorem generated_agrees {registry registry' : Registry} (pairing : Pairing registry registry')
    {root other : Node} (alike : root.Alike pairing.same other) (returnValues : Bool) :
    Agree (Code.Alike pairing.noted (root.tabled (rootPosition returnValues))
        (other.tabled (rootPosition returnValues)))
      (generated registry returnValues root) (generated registry' returnValues other) := by
  have started : Code.Alike pairing.noted [] [] .empty .empty :=
    ⟨rfl, rfl, rfl, rfl, rfl, pairing.start, rfl, fun _ _ => rfl, rfl, rfl⟩
  have run : Compile.Agrees pairing.noted (root.tabled (rootPosition returnValues))
      (other.tabled (rootPosition returnValues)) (generate registry returnValues root)
      (generate registry' returnValues other) :=
    (Compile.predicate_agrees pairing alike returnValues).andThen
      fun _ => Compile.agrees_emit _ (by decide)
  exact (run started).map fun _ _ ended => ended.2

end DisplayFilter
