/-
**Code generation reads every site once.**

Wherever code is generated, it comes by the sites of a tree one after another, reads each of them by
one instruction and notes the fields that are read. `Code.Records` tells this of code before and
after a part of the work, `Compile.Visits` of the steps of code generation themselves.

* `Compile.Visits.bind`: one step after another visits the sites of both.
* `Compile.entity_visits`: the code for a value.
* `Compile.predicate_visits`: the code for a truth value.
* `generated_records`: the code of a root.
-/

import DisplayFilter.Proofs.Generation.ValueActs
import DisplayFilter.Proofs.Optimizer.Threading
import DisplayFilter.Proofs.Reads.Sites
import DisplayFilter.Proofs.Validation.Tolerance

namespace DisplayFilter

namespace Site

/-- The fields that are noted as interesting where a site is read. -/
def interests (registry : Registry) (site : Site) : List Field :=
  (site.read.field?.map fun written => registry.siblings (registry.canonical written)).getD []

theorem interests_eq {registry : Registry} {site : Site} {written : Field}
    (given : site.read.field? = some written) :
    site.interests registry = registry.siblings (registry.canonical written) := by
  rw [interests, given]
  rfl

/-- The field that is noted as a reference, cooked or raw, where a site is read. -/
def reference? (registry : Registry) (raw : Bool) (site : Site) : Option Field :=
  if site.isReference ∧ site.read.raw = raw then site.read.field?.map registry.canonical else none

end Site

namespace Code

variable {code before middle after : Code} {registry : Registry} {sites more : List Site}

/-- From one code to a later one the sites were read, each by one instruction and in order, and their
fields were noted. -/
structure Records (registry : Registry) (before : Code) (sites : List Site) (after : Code) :
    Prop where
  keeps : before.Keeps after
  reads : ∃ added, after.readings = before.readings ++ added ∧
    List.Forall₂ (after.ReadsFor registry) added sites
  interesting : after.interesting =
    (sites.flatMap (Site.interests registry)).foldl addOnce before.interesting
  references : after.references =
    (sites.filterMap (Site.reference? registry false)).foldl addOnce before.references
  rawReferences : after.rawReferences =
    (sites.filterMap (Site.reference? registry true)).foldl addOnce before.rawReferences

namespace Records

/-- Nothing was read or noted. -/
theorem quiet (kept : before.Keeps after) (readings : after.readings = before.readings)
    (interesting : after.interesting = before.interesting)
    (references : after.references = before.references)
    (rawReferences : after.rawReferences = before.rawReferences) :
    Records registry before [] after :=
  ⟨kept, ⟨[], by rw [readings, List.append_nil], .nil⟩, interesting, references, rawReferences⟩

/-- One site was read, by an instruction whose operands were made for it. -/
theorem single {made : Code} {opcode : Opcode} {operands : List Handle} {site : Site}
    (grown : before.Extends made) (same : made.readings = before.readings)
    (reading : opcode.isReading = true)
    (reads : made.ReadsFor registry (.of made.instructions.size opcode operands) site)
    (kept : (made.emit opcode operands).Keeps after)
    (readings : after.readings = (made.emit opcode operands).readings)
    (interesting : after.interesting = (site.interests registry).foldl addOnce before.interesting)
    (references : after.references =
      ([site].filterMap (Site.reference? registry false)).foldl addOnce before.references)
    (rawReferences : after.rawReferences =
      ([site].filterMap (Site.reference? registry true)).foldl addOnce before.rawReferences) :
    Records registry before [site] after := by
  have emitted : made.Keeps after := (Extends.emit opcode operands).keeps.trans kept
  refine ⟨grown.keeps.trans emitted, ⟨_, ?_, .cons (reads.keep emitted) .nil⟩, ?_, references,
    rawReferences⟩
  · rw [readings, readings_emit operands reading, same]
  · rw [interesting, List.flatMap_singleton]

/-- **Sites are recorded one after another.** -/
theorem trans (first : Records registry before sites middle)
    (second : Records registry middle more after) : Records registry before (sites ++ more) after := by
  obtain ⟨added, early, reads⟩ := first.reads
  obtain ⟨further, late, others⟩ := second.reads
  refine ⟨first.keeps.trans second.keeps, ⟨added ++ further, ?_, ?_⟩, ?_, ?_, ?_⟩
  · rw [late, early, List.append_assoc]
  · -- What the earlier instructions name is still there at the end.
    exact List.rel_append (reads.imp fun _ _ reading => reading.keep second.keeps) others
  · rw [second.interesting, first.interesting, List.flatMap_append, List.foldl_append]
  · rw [second.references, first.references, List.filterMap_append, List.foldl_append]
  · rw [second.rawReferences, first.rawReferences, List.filterMap_append, List.foldl_append]

end Records

/-- Noting fields keeps everything else. -/
theorem keeps_note (code : Code) (interesting references rawReferences : List Field) :
    code.Keeps { code with interesting, references, rawReferences } :=
  ⟨fun found _ => found, fun found => ⟨_, found⟩, id⟩

theorem holdsTarget_of_isTarget {handle : Handle}
    (target : (code.operand handle).isTarget = true) : code.HoldsTarget handle := by
  unfold operand operandAt at target
  split at target
  · cases target
  rename_i nonnegative
  obtain ⟨position, rfl⟩ := Int.eq_ofNat_of_zero_le (Int.not_lt.mp nonnegative)
  rw [Int.toNat_natCast] at target
  cases found : code.arena[position]? with
  | none =>
    rw [found] at target
    cases target
  | some operand =>
    obtain ⟨content, number⟩ := operand
    rw [found] at target
    cases content <;> first | exact ⟨position, number, rfl, found⟩ | cases target

/-- Resolving that does not break off changes the numbers of jump targets only. -/
theorem fixup_ok {targets : List Handle} (done : code.fixup targets = (after, none)) :
    after.instructions = code.instructions ∧ after.rest = code.rest ∧ code.Keeps after := by
  induction targets generalizing code with
  | nil =>
    cases done
    exact ⟨rfl, rfl, .refl _⟩
  | cons target targets ih =>
    unfold fixup at done
    dsimp only at done
    split at done
    · cases done
    split at done
    · cases done
    rename_i isTarget _
    have cell := holdsTarget_of_isTarget (by simpa using isTarget)
    have here : code.Keeps (code.resolve [target]) :=
      keeps_resolve (List.forall_mem_singleton.mpr cell)
    obtain ⟨instructions, rest, kept⟩ := ih done
    exact ⟨instructions.trans (setNumber_instructions _ _), rest.trans (rest_setNumber _ _),
      here.trans kept⟩

end Code

namespace Compile

open Gen Code

variable {registry : Registry} {sites more : List Site} {α β : Type} {step : Gen α}
  {next : α → Gen β}

/-- A step of code generation that reads the given sites, whatever code it starts with. -/
def Visits (registry : Registry) (sites : List Site) (step : Gen α) : Prop :=
  ∀ code, Yields step code (fun _ after => Records registry code sites after) fun _ => True

/-! ### Steps one after another -/

namespace Visits

theorem bind (first : Visits registry sites step)
    (rest : ∀ result, Visits registry more (next result)) :
    Visits registry (sites ++ more) (step >>= next) := by
  intro code
  refine (first code).bind (fun _ => id) fun result middle run => ?_
  exact (rest result middle).imp (fun _ _ later => run.trans later) fun _ => id

/-- A step that reads nothing may come first. -/
theorem behind (idle : Visits registry [] step)
    (rest : ∀ result, Visits registry sites (next result)) :
    Visits registry sites (step >>= next) :=
  idle.bind rest

/-- A step that reads nothing may follow. -/
theorem andThen (first : Visits registry sites step)
    (idle : ∀ result, Visits registry [] (next result)) :
    Visits registry sites (step >>= next) := by
  have both := first.bind idle
  rwa [List.append_nil] at both

end Visits

/-! ### Steps that read nothing -/

theorem visits_fail (violation : Violation) : Visits registry sites (Gen.fail violation : Gen α) :=
  fun _ => trivial

theorem visits_pure (value : α) : Visits registry [] (pure value : Gen α) :=
  fun code => .quiet (.refl code) rfl rfl rfl rfl

theorem visits_newOperand (operand : Operand) : Visits registry [] (Gen.newOperand operand) :=
  fun _ => .quiet (Extends.newOperand operand).keeps rfl rfl rfl rfl

theorem visits_newRegister : Visits registry [] Gen.newRegister :=
  fun _ => .quiet Extends.newRegister.keeps rfl rfl rfl rfl

theorem visits_newTarget : Visits registry [] Gen.newTarget :=
  fun _ => .quiet (Extends.newOperand _).keeps rfl rfl rfl rfl

theorem visits_emit {opcode : Opcode} (operands : List Handle) (quiet : opcode.isReading = false) :
    Visits registry [] (Gen.emit opcode operands) :=
  fun _ => .quiet (Extends.emit opcode operands).keeps (readings_emit_quiet operands quiet) rfl rfl
    rfl

theorem visits_emitJump : Visits registry [] Gen.emitJump :=
  fun code => .quiet (Extends.emitJump code).keeps (readings_emit_quiet _ rfl) rfl rfl rfl

theorem visits_fixup (handles : List Handle) : Visits registry [] (Gen.fixup handles) := by
  intro code
  unfold Yields Gen.fixup
  split <;> rename_i ended
  · split at ended
    · rename_i after done
      cases ended
      obtain ⟨instructions, rest, kept⟩ := fixup_ok done
      refine .quiet kept ?_ (congrArg (·.interesting) rest) (congrArg (·.references) rest)
        (congrArg (·.rawReferences) rest)
      unfold readings
      rw [instructions]
    · cases ended
  · trivial

/-! ### Reads -/

theorem valueString_visits (field : Field) (source : Handle) :
    Visits registry [] (valueString field source) := by
  unfold valueString
  refine visits_newRegister.behind fun register => ?_
  refine (visits_newOperand _).behind fun operand => ?_
  refine (visits_emit _ rfl).behind fun _ => ?_
  exact visits_emitJump.behind fun jump => visits_pure _

theorem withValueString_visits (wanted : Bool) (field : Field) (read : Value) :
    Visits registry [] (withValueString wanted field read) := by
  unfold withValueString
  split
  · exact (valueString_visits field read.1).behind fun _ => visits_pure _
  · exact visits_pure _

theorem plainRegister_visits (field : Field) (raw : Bool) :
    Visits registry [] (plainRegister field raw) := by
  intro code
  refine (plainRegister_works field raw).imp (fun register after run => ?_) fun _ => id
  rcases run with ⟨_, rfl⟩ | ⟨absent, _, rfl⟩
  · exact .quiet (.refl _) rfl rfl rfl rfl
  · exact .quiet (code.extends_withRegister absent).keeps rfl rfl rfl rfl

/-- What follows a read that was noted reads nothing more. -/
theorem afterRead_visits {code noted : Code} {site : Site} (wanted : Bool) (field : Field)
    (value : Value) (records : Records registry code [site] noted) :
    Yields (withValueString wanted field value) noted
      (fun _ after => Records registry code [site] after) fun _ => True :=
  (withValueString_visits wanted field value noted).imp (fun _ _ more => records.trans more)
    fun _ => id

/-- A field that is wanted as a value is read by one instruction. -/
theorem readField_visits (read : FieldRead) :
    Visits registry [⟨.value, false, read⟩] (readField registry read) := by
  unfold readField
  split
  · exact visits_fail _
  · rename_i written given
    dsimp only
    split
    · rename_i whole
      refine (plainRegister_visits _ _).behind fun register code => ?_
      simp only [yields_newOperand, yields_emit, yields_pure_bind, yields_emitJump, yields_modify]
      refine afterRead_visits _ _ _ (.single (Extends.newOperand _) rfl rfl
        ⟨?_, ⟨written, given, has_newOperand code _⟩, by rintro slot ⟨⟩⟩
        ((Extends.emitJump _).keeps.trans (keeps_note _ _ _ _)) (readings_emit_quiet _ rfl) ?_
        rfl rfl)
      · rw [Site.opcode_value, if_pos whole]
        rfl
      · rw [Site.interests_eq given]
        rfl
    · rename_i ranged
      intro code
      simp only [yields_newRegister, yields_newOperand, yields_emit, yields_pure_bind,
        yields_emitJump, yields_modify]
      have field := (has_newOperand code.newRegister.2 (.field (registry.canonical written)
        read.raw)).extend (.newOperand (.range (windows read.range?)))
      refine afterRead_visits _ _ _ (.single
        ((Extends.newRegister.trans (.newOperand _)).trans (.newOperand _)) rfl rfl
        ⟨?_, ⟨written, given, field⟩, by rintro slot ⟨⟩; exact ⟨_, rfl, has_newOperand _ _⟩⟩
        ((Extends.emitJump _).keeps.trans (keeps_note _ _ _ _)) (readings_emit_quiet _ rfl) ?_
        rfl rfl)
      · rw [Site.opcode_value, if_neg ranged]
        rfl
      · rw [Site.interests_eq given]
        rfl

/-- Noting a reference is noting what stands at its site. -/
theorem noteReference_eq (code : Code) (position : Position) {read : FieldRead} {written : Field}
    (given : read.field? = some written) :
    (code.addReference (registry.canonical written) read.raw).markInteresting registry
        (registry.canonical written) =
      { code with
        interesting := (Site.interests registry ⟨position, true, read⟩).foldl addOnce
          code.interesting
        references := ([⟨position, true, read⟩].filterMap (Site.reference? registry false)).foldl
          addOnce code.references
        rawReferences := ([⟨position, true, read⟩].filterMap (Site.reference? registry true)).foldl
          addOnce code.rawReferences } := by
  rw [Site.interests_eq given]
  cases raw : read.raw <;> simp [addReference, markInteresting, Site.reference?, given, raw]

/-- A field of an earlier packet is read by one instruction. -/
theorem readReference_visits (position : Position) (read : FieldRead) :
    Visits registry [⟨position, true, read⟩] (readReference registry read) := by
  unfold readReference
  split
  · exact visits_fail _
  · rename_i written given
    dsimp only
    intro code
    simp only [yields_newRegister, yields_newOperand]
    have field := has_newOperand code.newRegister.2 (.field (registry.canonical written) read.raw)
    split
    · rename_i whole
      simp only [yields_emit, yields_emitJump, yields_modify, noteReference_eq _ position given]
      refine afterRead_visits _ _ _ (.single (Extends.newRegister.trans (.newOperand _)) rfl rfl
        ⟨?_, ⟨written, given, field⟩, by rintro slot ⟨⟩⟩
        ((Extends.emitJump _).keeps.trans (keeps_note _ _ _ _)) (readings_emit_quiet _ rfl) rfl rfl
        rfl)
      rw [Site.opcode_reference, if_pos whole]
      rfl
    · rename_i ranged
      simp only [yields_newOperand, yields_emit, yields_emitJump, yields_modify,
        noteReference_eq _ position given]
      refine afterRead_visits _ _ _ (.single
        ((Extends.newRegister.trans (.newOperand _)).trans (.newOperand _)) rfl rfl
        ⟨?_, ⟨written, given, field.extend (.newOperand _)⟩,
          by rintro slot ⟨⟩; exact ⟨_, rfl, has_newOperand _ _⟩⟩
        ((Extends.emitJump _).keeps.trans (keeps_note _ _ _ _)) (readings_emit_quiet _ rfl) rfl rfl
        rfl)
      rw [Site.opcode_reference, if_neg ranged]
      rfl

/-- A field is tested for presence by one instruction. -/
theorem existence_visits (read : FieldRead) :
    Visits registry [⟨.truth, false, read⟩] (existence registry read) := by
  unfold existence
  split
  · exact visits_fail _
  · rename_i written given
    dsimp only
    intro code
    simp only [yields_newOperand]
    have field := has_newOperand code (.field (registry.canonical written) false)
    split
    · rename_i whole
      simp only [yields_emit, yields_modify_last]
      refine .single (Extends.newOperand _) rfl rfl
        ⟨?_, ⟨written, given, field⟩, by rintro slot ⟨⟩⟩ (keeps_note _ _ _ _) rfl ?_ rfl rfl
      · rw [Site.opcode_truth, if_pos whole]
        rfl
      · rw [Site.interests_eq given]
        rfl
    · rename_i ranged
      simp only [yields_newOperand, yields_emit, yields_modify_last]
      refine .single ((Extends.newOperand _).trans (.newOperand _)) rfl rfl
        ⟨?_, ⟨written, given, field.extend (.newOperand _)⟩,
          by rintro slot ⟨⟩; exact ⟨_, rfl, has_newOperand _ _⟩⟩ (keeps_note _ _ _ _) rfl ?_ rfl rfl
      · rw [Site.opcode_truth, if_neg ranged]
        rfl
      · rw [Site.interests_eq given]
        rfl

theorem withTable_visits (read : FieldRead) (value : Value) :
    Visits registry [] (withTable read value) := by
  unfold withTable
  split
  · exact visits_pure _
  · exact withValueString_visits _ _ _

/-! ### Values -/

/-- Opcodes of arithmetic read no fields. -/
theorem arithmeticOpcode?_quiet {operator : Operator} {opcode : Opcode}
    (chosen : operator.arithmeticOpcode? = some opcode) : opcode.isReading = false := by
  cases operator <;> cases chosen <;> rfl

/-- Opcodes of comparisons read no fields. -/
theorem selectOpcode_quiet {operator : Operator} {quantifier : Quantifier} {opcode : Opcode}
    (chosen : selectOpcode operator quantifier = .ok opcode) : opcode.isReading = false := by
  cases operator <;> cases quantifier <;> cases chosen <;> rfl

theorem slice_visits {inner : Node} (range? : Option ByteRange)
    (visits : Visits registry (inner.sites .value) (entity registry inner)) :
    Visits registry (inner.sites .value) (entity registry (.slice inner range?)) := by
  unfold entity
  dsimp only
  split
  · exact visits_fail _
  · refine visits.andThen fun value => ?_
    refine visits_newRegister.behind fun register => ?_
    refine (visits_newOperand _).behind fun bytes => ?_
    exact (visits_emit _ rfl).behind fun _ => visits_pure _

theorem length_visits {definition : FunctionDef} {argument : Node} (named : definition.name = "len")
    (visits : Visits registry (argument.sites .value) (entity registry argument)) :
    Visits registry (argument.sites .value) (entity registry (.call (some definition) [argument])) := by
  unfold entity
  simp only [named, if_true]
  refine visits.andThen fun value => ?_
  refine visits_newRegister.behind fun register => ?_
  exact (visits_emit _ rfl).behind fun _ => visits_pure _

theorem vals_visits {definition : FunctionDef} (args : List Node)
    (named : definition.name = "vals") :
    Visits registry (Node.sitesAll args) (entity registry (.call (some definition) args)) := by
  unfold entity
  simp only [named, if_neg (show ¬ "vals" = "len" by decide), if_true]
  split
  · exact (readField_visits _).andThen fun value => withTable_visits _ value
  · exact (readReference_visits .value _).andThen fun value => withTable_visits _ value
  · exact visits_fail _
  · exact visits_fail _

/-- A call through the argument stack. -/
theorem call_visits {definition : FunctionDef} (args : List Node)
    (notLen : definition.name ≠ "len") (notVals : definition.name ≠ "vals")
    (visits : Visits registry (Node.sitesAll args) (arguments registry args)) :
    Visits registry (Node.sitesAll args) (entity registry (.call (some definition) args)) := by
  unfold entity
  simp only [notLen, notVals, if_false]
  refine (visits_newOperand _).behind fun function => ?_
  refine visits_newRegister.behind fun register => ?_
  refine visits.andThen fun _ => ?_
  refine (visits_newOperand _).behind fun passed => ?_
  refine (visits_emit _ rfl).behind fun _ => ?_
  refine (visits_newOperand _).behind fun popped => ?_
  refine (visits_emit _ rfl).behind fun _ => ?_
  exact visits_emitJump.behind fun jump => visits_pure _

theorem arithmetic_visits (operator : Operator) {left right : Node}
    (first : Visits registry (left.sites .value) (entity registry left))
    (second : Visits registry (right.sites .value) (entity registry right)) :
    Visits registry (left.sites .value ++ right.sites .value)
      (entity registry (.arithmetic operator left right)) := by
  unfold entity
  split
  · exact visits_fail _
  rename_i opcode chosen
  refine first.bind fun value => ?_
  dsimp only
  split
  · -- A negation has nothing on its right side that could be read.
    cases right with
    | missing =>
      refine visits_newRegister.behind fun register => ?_
      exact (visits_emit _ (arithmeticOpcode?_quiet chosen)).behind fun _ => visits_pure _
    | _ => exact visits_fail _
  · refine second.andThen fun other => ?_
    refine visits_newRegister.behind fun register => ?_
    exact (visits_emit _ (arithmeticOpcode?_quiet chosen)).behind fun _ => visits_pure _

mutual

/-- **The code for a value reads the sites of its node.** -/
theorem entity_visits (node : Node) : Visits registry (node.sites .value) (entity registry node) := by
  match node with
  | .missing | .pattern none | .call none _ | .test _ _ _ _ | .set _ => exact visits_fail _
  | .field read => exact readField_visits read
  | .reference read => exact readReference_visits .value read
  | .value constant => exact (visits_newOperand _).behind fun _ => visits_pure _
  | .pattern (some pattern) => exact (visits_newOperand _).behind fun _ => visits_pure _
  | .slice inner range? =>
    rw [Node.sites_slice]
    exact slice_visits range? (entity_visits inner)
  | .call (some definition) args =>
    rw [Node.sites_call]
    by_cases len : definition.name = "len"
    · match args with
      | [] =>
        rw [entity_length len (by simp)]
        exact visits_fail _
      | [argument] =>
        rw [Node.sitesAll_cons]
        have visits := length_visits len (entity_visits argument)
        rwa [← List.append_nil (argument.sites .value)] at visits
      | _ :: _ :: _ =>
        rw [entity_length len (by simp)]
        exact visits_fail _
    by_cases vals : definition.name = "vals"
    · exact vals_visits args vals
    · exact call_visits args len vals (arguments_visits args)
  | .arithmetic operator left right =>
    rw [Node.sites_arithmetic]
    exact arithmetic_visits operator (entity_visits left) (entity_visits right)

/-- The code for the arguments of a call reads their sites. -/
theorem arguments_visits (args : List Node) :
    Visits registry (Node.sitesAll args) (arguments registry args) := by
  match args with
  | [] => exact visits_pure _
  | argument :: rest =>
    rw [Node.sitesAll_cons]
    unfold arguments
    refine (entity_visits argument).bind fun value => ?_
    refine (visits_fixup _).behind fun _ => ?_
    exact (visits_emit _ rfl).behind fun _ => arguments_visits rest

end

/-! ### Tests -/

/-- The choice of an opcode reads nothing, nor does the opcode that is chosen. -/
theorem visits_selectOpcode {operator : Operator} {quantifier : Quantifier} {next : Opcode → Gen α}
    (rest : ∀ opcode, opcode.isReading = false → Visits registry sites (next opcode)) :
    Visits registry sites (liftM (selectOpcode operator quantifier) >>= next) := by
  intro code
  exact yields_lift (fun opcode chosen => rest opcode (selectOpcode_quiet chosen) code)
    fun _ _ => trivial

theorem relation_visits (operator : Operator) (quantifier : Quantifier) (left right : Node) :
    Visits registry (left.sites .value ++ right.sites .value)
      (relation registry operator quantifier left right) := by
  unfold relation
  refine (entity_visits left).bind fun value => ?_
  refine (entity_visits right).andThen fun other => ?_
  refine visits_selectOpcode fun opcode quiet => ?_
  exact (visits_emit _ quiet).behind fun _ => visits_fixup _

/-- The code for the members of a set reads their sites. -/
theorem setElements_visits (elements : List Element) :
    Visits registry (Node.sitesOfElements elements) (setElements registry elements) := by
  match elements with
  | [] => exact visits_pure _
  | .single low :: elements =>
    rw [Node.sitesOfElements_single]
    unfold setElements
    refine (entity_visits low).bind fun value => ?_
    refine (visits_emit _ rfl).behind fun _ => ?_
    exact (visits_fixup _).behind fun _ => setElements_visits elements
  | .between low high :: elements =>
    rw [Node.sitesOfElements_between]
    unfold setElements
    refine (entity_visits low).bind fun value => ?_
    refine (entity_visits high).bind fun other => ?_
    refine (visits_emit _ rfl).behind fun _ => ?_
    exact (visits_fixup _).behind fun _ => setElements_visits elements

theorem membership_visits (operator : Operator) (quantifier : Quantifier) (left right : Node) :
    Visits registry (left.sites .value ++ right.sites .value)
      (membership registry operator quantifier left right) := by
  unfold membership
  split
  · rename_i elements
    rw [Node.sites_set]
    refine visits_selectOpcode fun opcode quiet => ?_
    refine (entity_visits left).bind fun value => ?_
    refine (setElements_visits elements).andThen fun _ => ?_
    refine (visits_emit _ quiet).behind fun _ => ?_
    exact (visits_emit _ rfl).behind fun _ => visits_fixup _
  · exact visits_fail _

theorem notZero_visits (node : Node) :
    Visits registry (node.sites .value) (notZero registry node) := by
  unfold notZero
  refine (entity_visits node).andThen fun value => ?_
  refine (visits_emit _ rfl).behind fun _ => ?_
  exact (visits_fixup _).behind fun _ => visits_pure _

theorem notEmpty_visits (node : Node) :
    Visits registry (node.sites .value) (notEmpty registry node) := by
  unfold notEmpty
  refine (entity_visits node).andThen fun value => ?_
  refine visits_newRegister.behind fun length => ?_
  refine (visits_emit _ rfl).behind fun _ => ?_
  refine (visits_emit _ rfl).behind fun _ => ?_
  exact (visits_fixup _).behind fun _ => visits_pure _

/-- A relation or a membership test, or an operator that is refused. -/
theorem comparison_visits {operator : Operator} (quantifier : Quantifier) (left right : Node)
    (returnValues : Bool) (logical : operator.isLogical = false) :
    Visits registry (left.sites .value ++ right.sites .value)
      (predicate registry returnValues (.test operator quantifier left right)) := by
  obtain relates | tests | ⟨relates, tests⟩ := operator.comparison_cases
  · rw [predicate_relation _ _ _ _ relates]
    exact (relation_visits operator quantifier left right).andThen fun _ => visits_pure _
  · rw [predicate_membership _ _ _ _ tests]
    exact (membership_visits operator quantifier left right).andThen fun _ => visits_pure _
  · rw [predicate_notATest _ _ _ _ logical relates tests]
    exact visits_fail _

/-- Two truth values of which the second one may be skipped: the sites of both are read once. -/
theorem shortCircuit_visits {left right : Node} {branch : Opcode} (quiet : branch.isReading = false)
    (first : Visits registry sites (predicate registry false left))
    (second : Visits registry more (predicate registry false right)) :
    Visits registry (sites ++ more) (do
      let _ ← predicate registry false left
      let target ← Gen.newTarget
      Gen.emit branch [target]
      let _ ← predicate registry false right
      Gen.fixup [target]
      return noOperand) := by
  refine first.bind fun _ => ?_
  refine visits_newTarget.behind fun target => ?_
  refine (visits_emit _ quiet).behind fun _ => ?_
  refine second.andThen fun _ => ?_
  exact (visits_fixup _).behind fun _ => visits_pure _

end Compile

namespace Node

/-- The sites that the code for a truth value comes by: those of the tree, except that nothing is
generated for a second operand of a negation. -/
def visited (position : Position) : Node → List Site
  | .test operator _ left right =>
    if operator = .not then left.visited .truth
    else if operator.isLogical then left.visited .truth ++ right.visited .truth
    else left.sites .value ++ right.sites .value
  | node => node.sites position

theorem visited_comparison {operator : Operator} (logical : operator.isLogical = false)
    (position : Position) (quantifier : Quantifier) (left right : Node) :
    visited position (.test operator quantifier left right) =
      left.sites .value ++ right.sites .value := by
  rw [visited, if_neg (Operator.ne_not logical), logical, if_neg Bool.false_ne_true]

/-- **Where negations have one operand, the code comes by every site of the tree.** -/
theorem visited_eq_sites (node : Node) (position : Position)
    (single : ∀ below ∈ node.preorder, below.negatesOne = true) :
    node.visited position = node.sites position := by
  match node with
  | .missing | .reference _ | .value _ | .pattern _ | .set _ | .field _ | .arithmetic _ _ _
  | .call _ _ | .slice _ _ => rfl
  | .test operator quantifier left right =>
    rw [preorder, List.forall_mem_cons, List.forall_mem_append] at single
    by_cases logical : operator.isLogical = true
    · have first := visited_eq_sites left .truth single.2.1
      have second := visited_eq_sites right .truth single.2.2
      rw [sites_test, Operator.operandPosition, if_pos logical, ← first, ← second]
      obtain rfl | rfl | rfl := Operator.eq_of_isLogical logical
      · have absent : right = .missing := by
          cases right <;> first | rfl | cases single.1
        rw [absent]
        exact (List.append_nil _).symm
      · rfl
      · rfl
    · rw [Bool.not_eq_true] at logical
      rw [visited_comparison logical, sites_test, Operator.operandPosition, logical]
      rfl

end Node

namespace Compile

open Gen Code

variable {registry : Registry}

/-- **The code for a truth value reads the sites that it comes by.** -/
theorem predicate_visits (node : Node) (returnValues : Bool) :
    Visits registry (node.visited (rootPosition returnValues))
      (predicate registry returnValues node) := by
  match node with
  | .missing | .reference _ | .value _ | .pattern _ | .set _ => exact visits_fail _
  | .test operator quantifier left right =>
    by_cases logical : operator.isLogical = true
    · obtain rfl | rfl | rfl := Operator.eq_of_isLogical logical
      · unfold predicate Node.visited
        refine (predicate_visits left false).andThen fun _ => ?_
        exact (visits_emit _ rfl).behind fun _ => visits_pure _
      · unfold predicate Node.visited
        exact shortCircuit_visits rfl (predicate_visits left false) (predicate_visits right false)
      · unfold predicate Node.visited
        exact shortCircuit_visits rfl (predicate_visits left false) (predicate_visits right false)
    · rw [Bool.not_eq_true] at logical
      rw [Node.visited_comparison logical]
      exact comparison_visits quantifier left right returnValues logical
  | .field read =>
    unfold predicate
    cases returnValues with
    | false => exact (existence_visits read).andThen fun _ => visits_pure _
    | true =>
      refine (readField_visits read).andThen fun value => ?_
      exact (visits_fixup _).behind fun _ => visits_pure _
  -- The position of a node that reads nothing itself does not matter.
  | .arithmetic operator left right => exact notZero_visits (.arithmetic operator left right)
  | .call definition? args => exact notZero_visits (.call definition? args)
  | .slice inner range? => exact notEmpty_visits (.slice inner range?)

end Compile

/-- **The code of a root reads the sites that code generation comes by, and notes their fields.** -/
theorem generated_records {registry : Registry} {returnValues : Bool} {root : Node} {code : Code}
    (made : generated registry returnValues root = .ok code) :
    Code.Records registry .empty (root.visited (rootPosition returnValues)) code := by
  have visits : Compile.Visits registry (root.visited (rootPosition returnValues))
      (generate registry returnValues root) :=
    (Compile.predicate_visits root returnValues).andThen fun _ => Compile.visits_emit _ rfl
  exact (generated_yields (visits .empty)).1 code made

end DisplayFilter
