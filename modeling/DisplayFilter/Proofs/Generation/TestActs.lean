/-
**The acts behind the code of tests.**

The code of a test carries out acts that follow the plan of the tree, too, and leaves no jump
pending: what is absent makes a comparison false, and an element that is absent is not added.

* `Compile.relation_works`, `Compile.membership_works`: the code of comparisons.
* `Compile.predicate_works`: the code of truth values.
* `generated_acts`: the code of a root.
-/

import DisplayFilter.Proofs.Generation.ValueActs

namespace DisplayFilter

namespace Compile

open Gen Code

variable {registry : Registry} {code : Code} (plan : List Purpose)

/-! ### Tests -/

/-- Opcodes of relations have no result and do not touch the set. -/
theorem selectOpcode_relation_serves {operator : Operator} {quantifier : Quantifier}
    {opcode : Opcode} (relates : operator.isRelation = true)
    (chosen : selectOpcode operator quantifier = .ok opcode) :
    opcode.resultSlot? = none ∧ opcode.duty = .other := by
  cases operator <;> cases relates <;> cases quantifier <;> cases chosen <;> exact ⟨rfl, rfl⟩

/-- Opcodes of membership tests have no result. -/
theorem selectOpcode_membership_serves {operator : Operator} {quantifier : Quantifier}
    {opcode : Opcode} (tests : operator.isMembership = true)
    (chosen : selectOpcode operator quantifier = .ok opcode) :
    opcode.resultSlot? = none ∧ opcode.duty = .decide := by
  cases operator <;> cases tests <;> cases quantifier <;> cases chosen <;> exact ⟨rfl, rfl⟩

/-- Two values, one after the other. -/
theorem entities_works (left right : Node) (first second : Address)
    (free : (Level.ground.run plan).Free) (workable : Workable code) {β : Type}
    {next : Value → Value → Gen β} {post : β → Code → Prop}
    (rest : ∀ (value other : Value) (last : Code),
      Works plan code (Node.valuePlan first left ++ Node.valuePlan second right)
        (value.2 ++ other.2) [] last →
      (∀ handle ∈ [value.1, other.1], last.Gives handle) → Workable last →
      (∃ middle, last.Delivers first left middle value.1 ∧
        middle + (Node.valuePlan second right).length = last.instructions.size ∧
        last.ValueOf right middle last.instructions.size other.1) →
      Yields (next value other) last post (fun _ => True)) :
    Yields (do let value ← entity registry left
               let other ← entity registry right
               next value other) code post (fun _ => True) := by
  refine ((entity_works left first plan code free workable).valueOf workable).bind (fun _ => id)
    fun value after run => ?_
  obtain ⟨made, gives, result⟩ := run
  have ready := workable.steps made.steps
  have still : (Level.ground.run (plan ++ Node.valuePlan first left)).Free := by
    rw [Level.run_append, run_valuePlan free]
    exact free
  refine ((entity_works right second _ after still ready).valueOf ready).bind (fun _ => id)
    fun other last run => ?_
  obtain ⟨more, also, second⟩ := run
  have grown := more.steps.extends.1
  exact rest value other last (made.append more (run_valuePlan free _ _))
    (List.forall_mem_cons.mpr ⟨gives.extend grown ready.forward, List.forall_mem_singleton.mpr also⟩)
    (ready.steps more.steps) ⟨after.instructions.size,
      (made.delivers result).keep grown.keepsResults (Nat.le_refl _), more.size, second⟩

theorem relation_works {operator : Operator} (quantifier : Quantifier) (left right : Node)
    (address : Address) (relates : operator.isRelation = true)
    (free : (Level.ground.run plan).Free) (workable : Workable code) :
    WorksTest plan (Node.valuePlan (0 :: address) left ++ Node.valuePlan (1 :: address) right ++
      [.plain]) (relation registry operator quantifier left right) code := by
  have takes := ((Node.takes_valuePlan left (0 :: address) free).append
    (Node.takes_valuePlan right (1 :: address) free)).append (free.takes_plain 1)
  unfold WorksTest relation
  refine entities_works plan left right (0 :: address) (1 :: address) free workable
    fun value other last both given _ _ => ?_
  refine yields_lift (fun opcode chosen => ?_) fun _ _ => trivial
  obtain ⟨plain, count⟩ := selectOpcode_relation relates chosen
  obtain ⟨none, serves⟩ := selectOpcode_relation_serves relates chosen
  have compared := both.emit opcode [value.1, other.1] .plain plain count.symm none given serves
  rw [yields_emit, compared.steps.yields_fixup_last]
  exact compared.settled takes.2

/-- The jumps of an element lead behind its addition. -/
theorem opens_add {level : Level} {test : Address} {position : Nat} {element : Element}
    {added : List Purpose}
    (returns : level.run added = level)
    (ready : level.phase = .outside ∨ level.phase = .adding test) :
    level.Opens (level.run (added ++ [.add test position element])) := by
  rw [Level.run_append, returns]
  refine ⟨rfl, rfl, ?_⟩
  rcases ready with outside | adding
  · exact .inr ⟨outside, test, rfl⟩
  · exact .inl adding.symm

/-- The members of a set are added according to their plan. -/
theorem setElements_works (elements : List Element) (test : Address) (position : Nat)
    (plan : List Purpose) (code : Code) (free : (Level.ground.run plan).Free)
    (ready : (Level.ground.run plan).phase = .outside ∨
      (Level.ground.run plan).phase = .adding test) (workable : Workable code) :
    WorksTest plan (Node.elementsPlan test position elements) (setElements registry elements)
      code := by
  induction elements generalizing position plan code with
  | nil => exact Works.refl plan code
  | cons element rest ih =>
    -- The elements behind this one, whose values have the given plan.
    have behind : ∀ {values : List Purpose} {added : Code},
        (Level.ground.run plan).run values = Level.ground.run plan →
        Works plan code (values ++ [.add test position element]) [] [] added →
        Yields (setElements registry rest) added (fun _ after => Works plan code
          (values ++ [.add test position element] ++ Node.elementsPlan test (position + 1) rest) []
          [] after) (fun _ => True) := by
      intro values added returns works
      have reached : Level.ground.run (plan ++ (values ++ [.add test position element])) =
          (Level.ground.run plan).next (.add test position element) := by
        rw [Level.run_append, Level.run_append, returns]
        rfl
      refine (ih (position + 1) _ added ?_ ?_ (workable.steps works.steps)).imp
        (fun _ _ more => works.andThen more) fun _ => id
      · rw [reached]
        exact ⟨free.1, by rintro _ ⟨⟩⟩
      · rw [reached]
        exact .inr rfl
    unfold WorksTest
    cases element with
    | single low =>
      unfold setElements Node.elementsPlan
      have returns := run_valuePlan free low (0 :: position :: 1 :: test)
      refine ((entity_works low (0 :: position :: 1 :: test) plan code free workable).valueOf
        workable).bind (fun _ => id) fun value after run => ?_
      obtain ⟨made, gives, result⟩ := run
      have added := made.emit .setAdd [value.1] (.add test position (.single low)) rfl rfl rfl
        (List.forall_mem_singleton.mpr gives) ⟨rfl, made.delivers result⟩
      simp only [yields_emit, added.steps.yields_fixup]
      exact behind returns (added.resolved (opens_add returns ready))
    | between low high =>
      unfold setElements Node.elementsPlan
      have returns := ((Node.takes_valuePlan low (0 :: position :: 1 :: test) free).append
        (Node.takes_valuePlan high (1 :: position :: 1 :: test) free)).2
      refine entities_works plan low high (0 :: position :: 1 :: test) (1 :: position :: 1 :: test)
        free workable fun value other last both given _ delivers => ?_
      have added := both.emit .setAddRange [value.1, other.1]
        (.add test position (.between low high)) rfl rfl rfl given ⟨rfl, delivers⟩
      simp only [yields_emit, added.steps.yields_fixup]
      exact behind returns (added.resolved (opens_add returns ready))

theorem membership_works {operator : Operator} (quantifier : Quantifier) (left : Node)
    (elements : List Element) (address : Address) (tests : operator.isMembership = true)
    (closed : (Level.ground.run plan).Closed) (workable : Workable code) :
    WorksTest plan (Node.comparisonPlan address left (.set elements))
      (membership registry operator quantifier left (.set elements)) code := by
  have takes := Node.takes_comparisonPlan address left (.set elements) closed
  unfold WorksTest membership
  rw [Node.comparisonPlan_set] at takes ⊢
  refine yields_lift (fun opcode chosen => ?_) fun _ _ => trivial
  obtain ⟨plain, count⟩ := selectOpcode_membership tests chosen
  obtain ⟨none, serves⟩ := selectOpcode_membership_serves tests chosen
  refine (entity_works left (0 :: address) plan code closed.free workable).bind (fun _ => id)
    fun value after run => ?_
  have ready := workable.steps run.1.steps
  have returns := run_valuePlan closed.free left (0 :: address)
  have reached : Level.ground.run (plan ++ Node.valuePlan (0 :: address) left) =
      Level.ground.run plan := (Level.run_append _ _).trans returns
  refine (setElements_works elements address 0 _ after (reached ▸ closed.free)
    (.inl (reached ▸ closed.2)) ready).bind (fun _ => id) fun _ last more => ?_
  have both := run.1.append more returns
  have value := run.2.extend more.steps.extends.1 ready.forward
  have tested := (both.emit opcode [_] (.decide address) plain count.symm none
    (List.forall_mem_singleton.mpr value) serves).emit .setClear [] (.clear address) rfl rfl rfl
    (List.forall_mem_nil _) rfl
  rw [List.append_nil, List.append_assoc] at tested
  rw [yields_emit, yields_emit, tested.steps.yields_fixup_last]
  exact tested.settled takes.2

theorem existence_works (read : FieldRead) :
    WorksTest plan [.plain] (existence registry read) code := by
  unfold WorksTest existence
  split
  · trivial
  · rename_i written given
    dsimp only
    simp only [yields_newOperand]
    have made := (Works.refl plan code).operand (.field (registry.canonical written) false) rfl rfl
    have field := has_newOperand code (.field (registry.canonical written) false)
    split
    · simp only [yields_emit, yields_modify_last]
      exact (made.emit .checkExists [_] .plain rfl rfl rfl
        (List.forall_mem_singleton.mpr (field.gives rfl rfl)) rfl).note _ _ _
    · simp only [yields_newOperand, yields_emit, yields_modify_last]
      have bytes := has_newOperand (code.newOperand (.field (registry.canonical written) false)).2
        (.range (windows read.range?))
      exact ((made.operand (.range (windows read.range?)) rfl rfl).emit .checkExistsRange [_, _]
        .plain rfl rfl rfl (List.forall_mem_cons.mpr ⟨(field.extend (.newOperand _)).gives rfl rfl,
          List.forall_mem_singleton.mpr (bytes.gives rfl rfl)⟩) rfl).note _ _ _

theorem notZero_works (node : Node) (address : Address) (free : (Level.ground.run plan).Free)
    (workable : Workable code) :
    WorksTest plan (Node.valuePlan address node ++ [.plain]) (notZero registry node) code := by
  have takes := (Node.takes_valuePlan node address free).append (free.takes_plain 1)
  unfold WorksTest notZero
  refine (entity_works node address plan code free workable).bind (fun _ => id)
    fun value after run => ?_
  have tested := run.1.emit .notAllZero [value.1] .plain rfl rfl rfl
    (List.forall_mem_singleton.mpr run.2) rfl
  simp only [yields_emit, tested.steps.yields_fixup, yields_pure]
  exact tested.settled takes.2

theorem notEmpty_works (node : Node) (address : Address) (free : (Level.ground.run plan).Free)
    (workable : Workable code) :
    WorksTest plan (Node.valuePlan address node ++ [.plain, .plain]) (notEmpty registry node)
      code := by
  have takes := (Node.takes_valuePlan node address free).append (free.takes_plain 2)
  unfold WorksTest notEmpty
  refine (entity_works node address plan code free workable).bind (fun _ => id)
    fun value after run => ?_
  have made := run.1.register
  have source := run.2.extend .newRegister (workable.steps run.1.steps).forward
  have measured := made.compute .length [value.1] _ [] .plain rfl rfl rfl (has_newRegister after)
    (List.forall_mem_singleton.mpr source) rfl
  have length : (after.newRegister.2.emit .length [value.1, after.newRegister.1]).Gives
      after.newRegister.1 :=
    gives_emit (workable.steps made.steps).forward [value.1] [] rfl (has_newRegister after) rfl
  have tested : Works plan code (Node.valuePlan address node ++ [.plain] ++ [.plain]) value.2 []
      ((after.newRegister.2.emit .length [value.1, after.newRegister.1]).emit .notAllZero
        [after.newRegister.1]) :=
    measured.emit .notAllZero [_] .plain rfl rfl rfl (List.forall_mem_singleton.mpr length) rfl
  rw [List.append_assoc] at tested
  simp only [yields_newRegister, yields_emit, tested.steps.yields_fixup, yields_pure]
  exact tested.settled takes.2

/-! ### Truth values -/

/-- A test that only leaves its answer in the flag returns no operand. -/
theorem WorksTest.unit {plan added : List Purpose} {step : Gen Unit}
    (works : WorksTest plan added step code) :
    WorksTest plan added (do step; return noOperand) code :=
  works.bind (fun _ => id) fun _ _ run => run

/-- Two truth values of which the second one may be skipped. -/
theorem shortCircuit_works {left right : Node} {address : Address} (branch : Opcode)
    (branches : branch.isBranch = true) (closed : (Level.ground.run plan).Closed)
    (workable : Workable code)
    (leftWorks : WorksTest plan (Node.testPlan false (0 :: address) left)
      (predicate registry false left) code)
    (rightWorks : ∀ code : Code, Workable code → WorksTest
      (plan ++ (Node.testPlan false (0 :: address) left ++ [.plain]))
      (Node.testPlan false (1 :: address) right) (predicate registry false right) code) :
    WorksTest plan (Node.testPlan false (0 :: address) left ++ [.plain] ++
        Node.testPlan false (1 :: address) right) (do
      let _ ← predicate registry false left
      let target ← Gen.newTarget
      Gen.emit branch [target]
      let _ ← predicate registry false right
      Gen.fixup [target]
      return noOperand) code := by
  have first := Node.takes_testPlan left false (0 :: address) closed
  have between := first.append (closed.free.takes_plain 1)
  have whole := between.append (Node.takes_testPlan right false (1 :: address) closed)
  unfold WorksTest
  refine leftWorks.bind (fun _ => id) fun _ after run => ?_
  simp only [yields_newTarget, yields_emit]
  have branched := run.branch branch branches first.2
  refine (rightWorks _ (workable.steps branched.steps)).bind (fun _ => id) fun _ last more => ?_
  have both := branched.append more between.2
  simp only [List.nil_append, List.append_nil] at both
  simp only [both.steps.yields_fixup, yields_pure]
  exact both.settled whole.2

/-- A relation or a membership test. -/
theorem comparison_works {operator : Operator} (quantifier : Quantifier) (left right : Node)
    (returnValues : Bool) (address : Address) (closed : (Level.ground.run plan).Closed)
    (workable : Workable code) (logical : operator.isLogical = false) :
    WorksTest plan (Node.comparisonPlan address left right)
      (predicate registry returnValues (.test operator quantifier left right)) code := by
  obtain relates | tests | ⟨relates, tests⟩ := operator.comparison_cases
  · rw [predicate_relation _ _ _ _ relates]
    by_cases set : ∃ elements, right = .set elements
    · obtain ⟨elements, rfl⟩ := set
      unfold relation
      refine WorksTest.unit ((entity_works left (0 :: address) plan code closed.free workable).bind
        (fun _ => id) fun _ _ _ => trivial)
    · have same : Node.comparisonPlan address left right = Node.valuePlan (0 :: address) left ++
          Node.valuePlan (1 :: address) right ++ [.plain] := by
        unfold Node.comparisonPlan
        split
        · exact absurd ⟨_, rfl⟩ set
        · rfl
      rw [same]
      exact (relation_works plan quantifier left right address relates closed.free workable).unit
  · rw [predicate_membership _ _ _ _ tests]
    by_cases set : ∃ elements, right = .set elements
    · obtain ⟨elements, rfl⟩ := set
      exact (membership_works plan quantifier left elements address tests closed workable).unit
    · unfold membership
      split
      · exact absurd ⟨_, rfl⟩ set
      · trivial
  · rw [predicate_notATest _ _ _ _ logical relates tests]
    trivial

/-- The plan of a test that is no logical connective. -/
theorem testPlan_comparison {operator : Operator} (quantifier : Quantifier) (left right : Node)
    (returnValues : Bool) (address : Address) (logical : operator.isLogical = false) :
    Node.testPlan returnValues address (.test operator quantifier left right) =
      Node.comparisonPlan address left right := by
  cases operator <;> first | rfl | cases logical

/-- A field is loaded or tested for presence. -/
theorem field_works (read : FieldRead) (returnValues : Bool) (address : Address)
    (workable : Workable code) :
    WorksTest plan (Node.testPlan returnValues address (.field read))
      (predicate registry returnValues (.field read)) code := by
  unfold predicate Node.testPlan
  cases returnValues with
  | false => exact (existence_works plan read).unit
  | true =>
    have returns : (Level.ground.run plan).run (Node.readPlan read) = Level.ground.run plan := by
      unfold Node.readPlan
      cases read.valueString <;> rfl
    refine (readField_works plan read workable).bind (fun _ => id) fun value after run => ?_
    simp only [run.1.steps.yields_fixup, yields_pure]
    exact run.1.settled returns

/-- **The code for a truth value follows its plan.** -/
theorem predicate_works (node : Node) (returnValues : Bool) (address : Address)
    (plan : List Purpose) (code : Code) (closed : (Level.ground.run plan).Closed)
    (workable : Workable code) :
    WorksTest plan (Node.testPlan returnValues address node)
      (predicate registry returnValues node) code := by
  match node with
  | .missing => trivial
  | .test operator quantifier left right =>
    have leftWorks := predicate_works left false (0 :: address) plan code closed workable
    have rightWorks : ∀ code : Code, Workable code → WorksTest
        (plan ++ (Node.testPlan false (0 :: address) left ++ [.plain]))
        (Node.testPlan false (1 :: address) right) (predicate registry false right) code := by
      intro code workable
      refine predicate_works right false (1 :: address) _ code ?_ workable
      rw [Level.run_append, Level.run_append,
        (Node.takes_testPlan left false (0 :: address) closed).2]
      exact closed
    by_cases logical : operator.isLogical = true
    · obtain rfl | rfl | rfl := Operator.eq_of_isLogical logical
      · unfold predicate Node.testPlan
        refine leftWorks.bind (fun _ => id) fun _ after run => ?_
        simp only [yields_emit, yields_pure]
        exact run.emit .not [] .plain rfl rfl rfl (List.forall_mem_nil _) rfl
      · unfold predicate Node.testPlan
        exact shortCircuit_works plan .ifFalseGoto rfl closed workable leftWorks rightWorks
      · unfold predicate Node.testPlan
        exact shortCircuit_works plan .ifTrueGoto rfl closed workable leftWorks rightWorks
    · rw [Bool.not_eq_true] at logical
      rw [testPlan_comparison _ _ _ _ _ logical]
      exact comparison_works plan quantifier left right returnValues address closed workable logical
  | .field read => exact field_works plan read returnValues address workable
  | .arithmetic operator left right =>
    exact notZero_works plan (.arithmetic operator left right) address closed.free workable
  | .call definition? args =>
    exact notZero_works plan (.call definition? args) address closed.free workable
  | .slice inner range? =>
    exact notEmpty_works plan (.slice inner range?) address closed.free workable
  | .reference read => trivial
  | .value constant => trivial
  | .pattern pattern? => trivial
  | .set elements => trivial

end Compile

/-! ### The code of a root -/

/-- **The code of a root is that of a run according to its plan**, and the instruction that
returns. -/
theorem generated_acts {registry : Registry} {returnValues : Bool} {root : Node} {code : Code}
    (made : generated registry returnValues root = .ok code) :
    ∃ (body : Code) (result : Handle), code = body.emit .halt [result] ∧
      Compile.IsResult result body ∧
      Acts ⟨.empty, [], [], []⟩ ⟨body, [], [], root.testPlan returnValues []⟩ := by
  have workable : Compile.Workable .empty := by
    refine ⟨Code.cachesRegisters_empty, fun index instruction _ found => ?_⟩
    cases found
  have yields : Gen.Yields (generate registry returnValues root) .empty
      (fun _ code => ∃ (body : Code) (result : Handle), code = body.emit .halt [result] ∧
        Compile.IsResult result body ∧
        Acts ⟨.empty, [], [], []⟩ ⟨body, [], [], root.testPlan returnValues []⟩)
      (fun _ => True) := by
    unfold generate
    refine ((Compile.predicate_works root returnValues [] [] .empty ⟨rfl, rfl⟩ workable).and
      (Compile.predicate_runs root returnValues .empty workable.caches)).bind (fun _ _ => trivial)
      fun result body run => ?_
    exact ⟨body, result, rfl, run.2.2.2, run.1 []⟩
  exact (generated_yields yields).1 code made

end DisplayFilter
