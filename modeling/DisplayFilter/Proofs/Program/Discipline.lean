/-
**The argument stack and the set along paths.**

Where each instruction of a program does what a plan has it for, and branches lead only where the plan
lets them, every path is at the level of the instruction it has reached: the stack holds the arguments
of the level, the set holds elements of the one test it is in, and a test that elements were added for
is decided and cleared before anything else happens to the set.

* `Code.Follows`: the program follows the plan.
* `Code.Bears`: what is known of the moves of a path at a level.
* `Bears.step`, `Bears.opens`, `Follows.bears`: one instruction, one branch, a whole path.
* `Code.StackDiscipline`, `Code.SetDiscipline`: what follows for programs that return.
-/

import DisplayFilter.Proofs.Generation.Act
import DisplayFilter.Proofs.Optimizer.Flow

namespace DisplayFilter

/-! ### Levels of a plan -/

/-- The level at an index of a plan. -/
def levelAt (plan : List Purpose) (index : Nat) : Level :=
  Level.ground.run (plan.take index)

section Levels

variable {plan more : List Purpose} {index : Nat} {purpose : Purpose}

theorem levelAt_succ (label : plan[index]? = some purpose) :
    levelAt plan (index + 1) = (levelAt plan index).next purpose :=
  Level.run_take_succ label

theorem levelAt_append (inside : index ≤ plan.length) :
    levelAt (plan ++ more) index = levelAt plan index := by
  unfold levelAt
  rw [List.take_append_of_le_length inside]

theorem levelAt_length (plan : List Purpose) : levelAt plan plan.length = Level.ground.run plan := by
  unfold levelAt
  rw [List.take_length]

/-- Behind a call its arguments are removed, in a plan that owes nothing at its end. -/
theorem Level.Takes.pop_behind (takes : Level.ground.Takes plan .ground) {call : Address}
    {args : List Node} (label : plan[index]? = some (.call call args)) :
    plan[index + 1]? = some (.pop call args) := by
  have level := levelAt_succ label
  have inside := (List.getElem?_eq_some_iff.mp label).1
  rcases Nat.lt_or_eq_of_le (Nat.succ_le_of_lt inside) with more | ended
  · have next := List.getElem?_eq_getElem more
    have allows : (levelAt plan (index + 1)).Allows _ := takes.1.allows next
    rw [next, allows.of_owed (by rw [level]; rfl)]
  · rw [show index + 1 = plan.length from ended, levelAt_length, takes.2] at level
    cases congrArg Level.owed level

end Levels

/-! ### Instructions and their purposes -/

namespace Code

/-- Each instruction does what the plan has it for. -/
structure LaidOut (code : Code) (plan : List Purpose) : Prop where
  length : plan.length = code.instructions.size
  serves : ∀ {index : Nat} {instruction : Instruction} {purpose : Purpose},
    code.instructions[index]? = some instruction → plan[index]? = some purpose →
    purpose.Serves code index instruction

/-- The program follows the plan: each instruction does what the plan has it for, and branches lead
where the plan lets them. -/
structure Follows (code : Code) (plan : List Purpose) : Prop extends code.LaidOut plan where
  opens : ∀ {index target : Nat}, code.Leads index target →
    (levelAt plan index).Opens (levelAt plan target)

variable {code : Code} {plan : List Purpose} {index : Nat} {instruction : Instruction}

theorem LaidOut.purpose (laid : code.LaidOut plan)
    (found : code.instructions[index]? = some instruction) :
    ∃ purpose, plan[index]? = some purpose ∧ purpose.Serves code index instruction := by
  have inside := (Array.getElem?_eq_some_iff.mp found).1
  rw [← laid.length] at inside
  have label := List.getElem?_eq_getElem inside
  exact ⟨_, label, laid.serves found label⟩

end Code

namespace Purpose

/-- What an instruction with the purpose has to do with the argument stack and the set. -/
def duty : Purpose → Duty
  | .plain => .other
  | .push _ => .push
  | .call _ _ => .call
  | .pop _ _ => .pop
  | .add _ _ _ => .add
  | .decide _ => .decide
  | .clear _ => .clear

namespace Serves

variable {code : Code} {purpose : Purpose} {index : Nat} {instruction : Instruction}

theorem duty_eq (serves : purpose.Serves code index instruction) :
    purpose.duty = instruction.opcode.duty := by
  cases purpose with
  | push _ => exact serves.1.symm
  | call _ _ => exact serves.1.symm
  | pop _ _ => exact serves.1.symm
  | add _ _ element => cases element <;> rw [serves.1] <;> rfl
  | _ => exact Eq.symm serves

/-- What has nothing to do with the stack or the set is plain. -/
theorem eq_plain (serves : purpose.Serves code index instruction)
    (other : instruction.opcode.duty = .other) : purpose = .plain := by
  have same := serves.duty_eq.trans other
  cases purpose <;> first | rfl | cases same

variable (serves : purpose.Serves code index instruction)
  (found : code.instructions[index]? = some instruction)
include serves found

/-- What an instruction does to the argument stack. -/
theorem pushed (stack : List Nat) : code.pushed index stack =
    match purpose with
    | .push _ => index :: stack
    | .pop _ args => stack.drop args.length
    | _ => stack := by
  have byDuty : code.pushed index stack = match instruction.opcode.duty with
      | .push => index :: stack
      | .pop => stack.drop (code.operand instruction.first).number.toNat
      | _ => stack := by
    unfold Code.pushed
    rw [found]
    obtain ⟨_, opcode, _⟩ := instruction
    cases opcode <;> rfl
  rw [byDuty, ← serves.duty_eq]
  cases purpose with
  | pop call args =>
    rw [serves.2.operand_eq]
    rfl
  | _ => rfl

/-- What an instruction does to the depth of the argument stack. -/
theorem depthChange : code.depthChange index =
    match purpose with
    | .push _ => 1
    | .pop _ args => -(args.length : Int)
    | _ => 0 := by
  have byDuty : code.depthChange index = match instruction.opcode.duty with
      | .push => 1
      | .pop => -(code.operand instruction.first).number
      | _ => 0 := by
    unfold Code.depthChange
    rw [found]
    obtain ⟨_, opcode, _⟩ := instruction
    cases opcode <;> rfl
  rw [byDuty, ← serves.duty_eq]
  cases purpose with
  | pop call args =>
    rw [serves.2.operand_eq]
    rfl
  | _ => rfl

/-- What an instruction does to the set. -/
theorem gathered (members : List Nat) : code.gathered index members =
    match purpose with
    | .add _ _ _ => index :: members
    | .clear _ => []
    | _ => members := by
  have byDuty : code.gathered index members = match instruction.opcode.duty with
      | .add => index :: members
      | .clear => []
      | _ => members := by
    unfold Code.gathered
    rw [found]
    obtain ⟨_, opcode, _⟩ := instruction
    cases opcode <;> rfl
  rw [byDuty, ← serves.duty_eq]
  cases purpose <;> rfl

end Serves

end Purpose

/-! ### Moves at a level -/

/-- The entries of a stack are the pushes of these arguments. -/
def Holds (plan : List Purpose) (stack : List Nat) (pushes : List Argument) : Prop :=
  stack.map (fun index => plan[index]?) = pushes.map fun argument => some (.push argument)

theorem Holds.length_eq {plan : List Purpose} {stack : List Nat} {pushes : List Argument}
    (holds : Holds plan stack pushes) : stack.length = pushes.length := by
  have lengths := congrArg List.length holds
  rwa [List.length_map, List.length_map] at lengths

/-- The test whose elements are in the set. -/
def Phase.test? : Phase → Option Address
  | .outside => none
  | .adding test | .decided test => some test

/-- The members of the set were added for the test whose elements are in it. -/
def Gathers (plan : List Purpose) (members : List Nat) (phase : Phase) : Prop :=
  ∀ member ∈ members, ∃ test position element,
    phase.test? = some test ∧ plan[member]? = some (.add test position element)

/-- Where a test may add or decide, what is in the set already is its own. -/
theorem Gathers.own {plan : List Purpose} {members : List Nat} {phase : Phase}
    (gathers : Gathers plan members phase) {test : Address}
    (ready : phase = .outside ∨ phase = .adding test) :
    ∀ member ∈ members, ∃ position element, plan[member]? = some (.add test position element) := by
  intro member inside
  obtain ⟨other, position, element, holds, added⟩ := gathers member inside
  rcases ready with rfl | rfl <;> cases holds
  exact ⟨position, element, added⟩

/-- No element of another test is added. -/
def AddsOnly (plan : List Purpose) (test : Address) (moves : List Move) : Prop :=
  ∀ move ∈ moves, ∀ other position element,
    plan[move.index]? = some (.add other position element) → other = test

/-- How the moves go on behind one that added an element for a test: no other test comes in between
until the test is decided and, with the next move, its set cleared. -/
inductive Pursues (plan : List Purpose) (test : Address) : List Move → Phase → Prop
  | adding {middle : List Move} (own : AddsOnly plan test middle) :
      Pursues plan test middle (.adding test)
  | decided {decide : Move} {middle : List Move} (own : AddsOnly plan test middle)
      (decides : plan[decide.index]? = some (.decide test)) :
      Pursues plan test (decide :: middle) (.decided test)
  | cleared {rest : List Move} {clear decide : Move} {middle : List Move} {phase : Phase}
      (own : AddsOnly plan test middle) (decides : plan[decide.index]? = some (.decide test))
      (clears : plan[clear.index]? = some (.clear test)) :
      Pursues plan test (rest ++ clear :: decide :: middle) phase

/-- What is known of moves at a level. -/
structure Code.Bears (code : Code) (plan : List Purpose) (moves : List Move) (level : Level) :
    Prop where
  stack : Holds plan (code.stackAlong moves) level.stack
  depth : code.depthAlong moves = level.stack.length
  members : Gathers plan (code.membersAlong moves) level.phase
  pursued : ∀ later move earlier test position element, moves = later ++ move :: earlier →
    plan[move.index]? = some (.add test position element) → Pursues plan test later level.phase

theorem Code.bears_nil (code : Code) (plan : List Purpose) : code.Bears plan [] .ground := by
  refine ⟨rfl, rfl, List.forall_mem_nil _,
    fun later move earlier test position element split => ?_⟩
  cases List.append_eq_nil_iff.mp split.symm |>.2

section Step

variable {code : Code} {plan : List Purpose} {index : Nat} {instruction : Instruction}
  {purpose : Purpose} {level : Level}

theorem Holds.next {stack : List Nat} (holds : Holds plan stack level.stack)
    (found : code.instructions[index]? = some instruction) (label : plan[index]? = some purpose)
    (serves : purpose.Serves code index instruction) :
    Holds plan (code.pushed index stack) (level.next purpose).stack := by
  rw [serves.pushed found]
  unfold Holds at holds ⊢
  cases purpose with
  | push argument => simp only [List.map_cons, label, holds, Level.next]
  | pop call args => simp only [List.map_drop, holds, Level.next]
  | _ => exact holds

/-- The depth changes as the stack does: there is enough to be removed where arguments are. -/
theorem Level.Allows.depth (allows : level.Allows purpose)
    (found : code.instructions[index]? = some instruction)
    (serves : purpose.Serves code index instruction) :
    code.depthChange index + level.stack.length = ((level.next purpose).stack.length : Int) := by
  rw [serves.depthChange found]
  cases purpose with
  | push argument =>
    simp only [Level.next, List.length_cons]
    omega
  | pop call args =>
    have enough : args.length ≤ level.stack.length := by
      have arguments := allows.2.1.length_le
      rwa [length_argumentsOf] at arguments
    simp only [Level.next, List.length_drop]
    omega
  | _ => exact Int.zero_add _

/-- The set holds elements of one test before and behind an instruction. -/
theorem Level.Allows.members (allows : level.Allows purpose) {members : List Nat}
    (found : code.instructions[index]? = some instruction) (label : plan[index]? = some purpose)
    (serves : purpose.Serves code index instruction) (gathers : Gathers plan members level.phase) :
    Gathers plan (code.gathered index members) (level.next purpose).phase := by
  rw [serves.gathered found]
  cases purpose with
  | add test position element =>
    refine List.forall_mem_cons.mpr ⟨⟨test, position, element, rfl, label⟩, fun member inside => ?_⟩
    obtain ⟨place, other, added⟩ := gathers.own allows.2 member inside
    exact ⟨test, place, other, rfl, added⟩
  | decide test =>
    intro member inside
    obtain ⟨place, other, added⟩ := gathers.own allows.2 member inside
    exact ⟨test, place, other, rfl, added⟩
  | clear test => exact List.forall_mem_nil _
  | _ => exact gathers

theorem AddsOnly.cons {test : Address} {moves : List Move} {move : Move}
    (own : AddsOnly plan test moves) (label : plan[move.index]? = some purpose)
    (other : ∀ test' position element, purpose = .add test' position element → test' = test) :
    AddsOnly plan test (move :: moves) := by
  refine List.forall_mem_cons.mpr ⟨fun test' position element adds => ?_, own⟩
  exact other test' position element (Option.some.inj (label.symm.trans adds))

/-- One more move behind an element that was added. -/
theorem Pursues.next {test : Address} {later : List Move} {move : Move}
    (pursues : Pursues plan test later level.phase) (allows : level.Allows purpose)
    (label : plan[move.index]? = some purpose) :
    Pursues plan test (move :: later) (level.next purpose).phase := by
  obtain ⟨stack, owed, phase⟩ := level
  cases pursues with
  | adding own =>
    -- What a level allows while elements are added for a test belongs to the test.
    have same : ∀ other, (Phase.adding test = .outside ∨ Phase.adding test = .adding other) →
        other = test := by
      rintro other (⟨⟨⟩⟩ | ⟨⟨⟩⟩)
      rfl
    cases purpose with
    | add other position element =>
      cases same other allows.2
      exact .adding (own.cons label (by rintro _ _ _ ⟨⟩; rfl))
    | decide other =>
      cases same other allows.2
      exact .decided own label
    | clear other => cases allows.2
    | _ => exact .adding (own.cons label nofun)
  | @decided decide middle own decides =>
    cases purpose with
    | clear other =>
      cases allows.2
      have cleared : Pursues plan test ([] ++ move :: decide :: middle) .outside :=
        .cleared own decides label
      exact cleared
    | pop call args => exact absurd rfl (allows.2.2 test)
    | call call args => exact absurd rfl (allows.1.2 test)
    | add other position element => exact absurd rfl (allows.1.2 test)
    | decide other => exact absurd rfl (allows.1.2 test)
    | plain => exact absurd rfl (allows.2 test)
    | push argument => exact absurd rfl (allows.2 test)
  | @cleared rest clear decide middle _ own decides clears =>
    rw [← List.cons_append]
    exact .cleared own decides clears

/-- Another level that a branch may lead to. -/
theorem Pursues.opens {test : Address} {later : List Move} {reached : Level}
    (pursues : Pursues plan test later level.phase) (opens : level.Opens reached) :
    Pursues plan test later reached.phase := by
  rcases opens.2.2 with same | ⟨outside, _⟩
  · rw [same]
    exact pursues
  · rw [outside] at pursues
    cases pursues with
    | cleared own decides clears => exact .cleared own decides clears

namespace Code.Bears

variable {moves : List Move}

/-- **One instruction.** -/
theorem step (bears : code.Bears plan moves level) (taken : Bool)
    (found : code.instructions[index]? = some instruction) (label : plan[index]? = some purpose)
    (serves : purpose.Serves code index instruction) (allows : level.Allows purpose) :
    code.Bears plan (⟨index, taken⟩ :: moves) (level.next purpose) := by
  refine ⟨bears.stack.next found label serves, ?_, allows.members found label serves bears.members,
    fun later move earlier test position element split added => ?_⟩
  · rw [← allows.depth found serves, ← bears.depth]
    rfl
  · cases later with
    | nil =>
      cases split
      cases label.symm.trans added
      exact .adding (List.forall_mem_nil _)
    | cons first later =>
      obtain ⟨rfl, further⟩ := List.cons.inj split
      exact (bears.pursued later move earlier test position element further added).next allows label

/-- **One branch.** -/
theorem opens {reached : Level} (bears : code.Bears plan moves level)
    (opens : level.Opens reached) : code.Bears plan moves reached := by
  refine ⟨?_, ?_, fun index member => ?_, fun later move earlier test position element split added =>
    (bears.pursued later move earlier test position element split added).opens opens⟩
  · rw [opens.1]
    exact bears.stack
  · rw [opens.1]
    exact bears.depth
  · obtain ⟨test, position, element, phase, added⟩ := bears.members index member
    refine ⟨test, position, element, ?_, added⟩
    rcases opens.2.2 with same | ⟨outside, _⟩
    · rw [same]
      exact phase
    · rw [outside] at phase
      cases phase

end Code.Bears

/-- **A whole path.** Every path is at the level of the instruction it has reached. -/
theorem Code.Follows.bears (follows : code.Follows plan) (admits : Level.ground.Admits plan)
    {moves : List Move} (path : code.Path moves index) :
    code.Bears plan moves (levelAt plan index) := by
  induction path with
  | start => exact code.bears_nil plan
  | @next moves index instruction path found runs ih =>
    obtain ⟨purpose, label, serves⟩ := follows.purpose found
    rw [levelAt_succ label]
    exact ih.step false found label serves (admits.allows label)
  | @leap moves index target path leads ih =>
    obtain ⟨instruction, found, branches, _⟩ := id leads
    obtain ⟨purpose, label, serves⟩ := follows.purpose found
    obtain rfl := serves.eq_plain (Opcode.duty_of_isBranch branches)
    exact (ih.step true found label serves (admits.allows label)).opens (follows.opens leads)

end Step

/-! ### Programs that return -/

namespace Code

/-- How a program uses the argument stack. -/
structure StackDiscipline (code : Code) (plan : List Purpose) : Prop where
  /-- Nothing is removed that was not pushed. -/
  nonnegative : ∀ moves index, code.Path moves index → 0 ≤ code.depthAlong moves
  /-- The depth is that of the stack. -/
  entries : ∀ moves index, code.Path moves index →
    code.depthAlong moves = (code.stackAlong moves).length
  /-- The depth depends on the instruction reached, and not on the way. -/
  unique : ∀ moves others index, code.Path moves index → code.Path others index →
    code.depthAlong moves = code.depthAlong others
  /-- A call finds the pushes of its own arguments on top, in order; the next instruction removes
  them and nothing else. -/
  calls : ∀ moves index instruction, code.Path moves index →
    code.instructions[index]? = some instruction → instruction.opcode = .callFunction →
    ∃ call args own rest, plan[index]? = some (.call call args) ∧
      code.Has instruction.third (.count args.length) ∧ code.stackAlong moves = own ++ rest ∧
      (own.reverse.map fun push => plan[push]?) =
        (args.mapIdx fun position value => some (.push ⟨call, position, value⟩)) ∧
      plan[index + 1]? = some (.pop call args) ∧
      code.stackAlong (⟨index + 1, false⟩ :: ⟨index, false⟩ :: moves) = rest
  /-- Nothing is left on the stack by a program that returns. -/
  returns : ∀ moves index instruction, code.Path moves index →
    code.instructions[index]? = some instruction → instruction.opcode = .halt →
    code.depthAlong moves = 0

/-- How a program uses the set. -/
structure SetDiscipline (code : Code) (plan : List Purpose) : Prop where
  /-- An element that is added belongs to a test. On a way on which the program returns, the test is
  decided and its set cleared at once, before any element of another test is added. -/
  settled : ∀ moves index halt later add earlier adder, code.Path moves index →
    code.instructions[index]? = some halt → halt.opcode = .halt →
    moves = later ++ add :: earlier → code.instructions[add.index]? = some adder →
    adder.opcode.duty = .add →
    ∃ test position element rest clear decide middle,
      plan[add.index]? = some (.add test position element) ∧
      later = rest ++ clear :: decide :: middle ∧ plan[decide.index]? = some (.decide test) ∧
      plan[clear.index]? = some (.clear test) ∧ AddsOnly plan test middle
  /-- A test is decided on elements of its own. -/
  decides : ∀ moves index instruction, code.Path moves index →
    code.instructions[index]? = some instruction → instruction.opcode.duty = .decide →
    ∃ test, plan[index]? = some (.decide test) ∧
      ∀ member ∈ code.membersAlong moves, ∃ position element,
        plan[member]? = some (.add test position element)

variable {code : Code} {plan : List Purpose} {index last : Nat} {instruction : Instruction}
  {result : Handle}

namespace Follows

/-- What only computes leaves the level as it is. -/
theorem levelAt_behind (follows : code.Follows plan)
    (found : code.instructions[index]? = some instruction)
    (other : instruction.opcode.duty = .other) : levelAt plan (index + 1) = levelAt plan index := by
  obtain ⟨purpose, label, serves⟩ := follows.purpose found
  obtain rfl := serves.eq_plain other
  exact levelAt_succ label

variable (follows : code.Follows plan) (takes : Level.ground.Takes plan .ground)
include follows takes

/-- Returning leaves the ground level. -/
theorem levelAt_halt (finished : code.Finished last result)
    (found : code.instructions[index]? = some instruction) (halts : instruction.opcode = .halt) :
    levelAt plan index = .ground := by
  have length : plan.length = index + 1 := by
    rw [follows.length, finished.size, (finished.halts_iff found).mp halts]
  rw [← follows.levelAt_behind found (by rw [halts]; rfl), ← length, levelAt_length]
  exact takes.2

/-- A call finds its arguments on top of the stack. -/
theorem finds_arguments {moves : List Move} (bears : code.Bears plan moves (levelAt plan index))
    (found : code.instructions[index]? = some instruction)
    (calls : instruction.opcode = .callFunction) :
    ∃ call args own rest, plan[index]? = some (.call call args) ∧
      code.Has instruction.third (.count args.length) ∧ code.stackAlong moves = own ++ rest ∧
      Holds plan own (argumentsOf call args) := by
  obtain ⟨purpose, label, serves⟩ := follows.purpose found
  obtain ⟨call, args, rfl⟩ : ∃ call args, purpose = .call call args := by
    have duty : purpose.duty = .call := serves.duty_eq.trans (by rw [calls]; rfl)
    cases purpose <;> first | exact ⟨_, _, rfl⟩ | cases duty
  obtain ⟨below, whole⟩ := (takes.1.allows label).2
  have held := bears.stack
  unfold Holds at held
  rw [show (levelAt plan index).stack = argumentsOf call args ++ below from whole.symm,
    List.map_append, List.map_eq_append_iff] at held
  obtain ⟨own, rest, split, arguments, _⟩ := held
  exact ⟨call, args, own, rest, label, serves.2, split, arguments⟩

/-- Behind a call its arguments are removed, and nothing else. -/
theorem removes_arguments {moves : List Move} {call : Address} {args : List Node}
    {own rest : List Nat} (label : plan[index]? = some (.call call args))
    (split : code.stackAlong moves = own ++ rest) (held : Holds plan own (argumentsOf call args)) :
    code.stackAlong (⟨index + 1, false⟩ :: ⟨index, false⟩ :: moves) = rest := by
  have behind := takes.pop_behind label
  have inside : index + 1 < code.instructions.size := by
    rw [← follows.length]
    exact (List.getElem?_eq_some_iff.mp behind).1
  have calls := Array.getElem?_eq_getElem (Nat.lt_of_succ_lt inside)
  have pops := Array.getElem?_eq_getElem inside
  have length : own.length = args.length := held.length_eq.trans (length_argumentsOf call args)
  calc code.stackAlong (⟨index + 1, false⟩ :: ⟨index, false⟩ :: moves)
      = code.pushed (index + 1) (code.pushed index (code.stackAlong moves)) := rfl
    _ = (code.stackAlong moves).drop args.length := by
      rw [(follows.serves calls label).pushed calls, (follows.serves pops behind).pushed pops]
    _ = rest := by rw [split, ← length, List.drop_left]

/-- **The argument stack** of a program that follows a plan from the ground and back. -/
theorem stackDiscipline (finished : code.Finished last result) : code.StackDiscipline plan := by
  have bears : ∀ {moves : List Move} {index : Nat}, code.Path moves index →
      code.Bears plan moves (levelAt plan index) := fun path => follows.bears takes.1 path
  refine ⟨fun moves index path => ?_, fun moves index path => ?_, fun moves others index path other =>
    ?_, fun moves index instruction path found calls => ?_,
    fun moves index instruction path found halts => ?_⟩
  · rw [(bears path).depth]
    exact Int.natCast_nonneg _
  · rw [(bears path).depth, (bears path).stack.length_eq]
  · rw [(bears path).depth, (bears other).depth]
  · obtain ⟨call, args, own, rest, label, counts, split, held⟩ :=
      follows.finds_arguments takes (bears path) found calls
    refine ⟨call, args, own, rest, label, counts, split, ?_, takes.pop_behind label,
      follows.removes_arguments takes label split held⟩
    unfold Holds at held
    rw [List.map_reverse, held, argumentsOf, List.map_reverse, List.reverse_reverse,
      List.mapIdx_eq_zipIdx_map, List.map_map, List.mapIdx_eq_zipIdx_map]
    rfl
  · rw [(bears path).depth, follows.levelAt_halt takes finished found halts]
    rfl

/-- **The set** of a program that follows a plan from the ground and back. -/
theorem setDiscipline (finished : code.Finished last result) : code.SetDiscipline plan := by
  refine ⟨fun moves index halt later add earlier adder path found halts split there adds => ?_,
    fun moves index instruction path found decides => ?_⟩
  · obtain ⟨purpose, label, serves⟩ := follows.purpose there
    obtain ⟨test, position, element, rfl⟩ : ∃ test position element,
        purpose = .add test position element := by
      have duty := serves.duty_eq.trans adds
      cases purpose <;> first | exact ⟨_, _, _, rfl⟩ | cases duty
    have pursued :=
      (follows.bears takes.1 path).pursued later add earlier test position element split label
    rw [follows.levelAt_halt takes finished found halts] at pursued
    cases pursued with
    | @cleared rest clear decide middle _ own decides clears =>
      exact ⟨test, position, element, rest, clear, decide, middle, label, rfl, decides, clears, own⟩
  · obtain ⟨purpose, label, serves⟩ := follows.purpose found
    obtain ⟨test, rfl⟩ : ∃ test, purpose = .decide test := by
      have duty := serves.duty_eq.trans decides
      cases purpose <;> first | exact ⟨_, rfl⟩ | cases duty
    exact ⟨test, label, (follows.bears takes.1 path).members.own (takes.1.allows label).2⟩

end Follows

end Code

end DisplayFilter
