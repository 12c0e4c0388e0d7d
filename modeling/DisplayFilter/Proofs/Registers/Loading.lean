/-
**Registers are loaded before they are read.**

On whatever way an instruction is reached, the registers it takes values from were written on the
way, and the branch that would have told a failure was not taken. Only an argument is pushed, and
the result returned, whether or not its register was loaded.

* `Act.fed`, `Acts.fed`: readers are supplied throughout code generation.
* `Code.Supplied.optimized`: optimizing keeps readers supplied.
* `Code.Supplied.loads`: a path to a supplied reader has loaded the register.
* `Code.ReadsLoaded`, `compileTree_readsLoaded`: the paths of compiled programs.
-/

import DisplayFilter.Proofs.Compiler.WellFormed
import DisplayFilter.Proofs.Generation.TestActs
import DisplayFilter.Proofs.Optimizer.Flow

namespace DisplayFilter

open Code

/-! ### Readers in the making -/

namespace Code

variable {code : Code} {reader : Nat} {number : Int}

/-- Whatever takes a value from a register is supplied, unless it pushes or returns the value. -/
def Fed (code : Code) : Prop :=
  ∀ (reader : Nat) (instruction : Instruction) (number : Int),
    code.instructions[reader]? = some instruction → instruction.opcode ≠ .stackPush →
    instruction.opcode ≠ .halt → code.ReadsFrom reader number → code.Supplied number reader

/-- Every plain read of a field is followed by the branch that tells its failure. -/
def ReadsGuarded (code : Code) : Prop :=
  ∀ (index : Nat) (instruction : Instruction), code.instructions[index]? = some instruction →
    instruction.opcode = .readTree →
    ∃ branch, code.instructions[index + 1]? = some branch ∧ branch.opcode = .ifFalseGoto

/-- What was just emitted reads registers among its operands. -/
theorem ReadsFrom.emitted {opcode : Opcode} {operands : List Handle}
    (reads : (code.emit opcode operands).ReadsFrom reader number)
    (new : code.instructions.size ≤ reader) :
    reader = code.instructions.size ∧ ∃ (slot : Nat) (handle : Handle),
      opcode.resultSlot? ≠ some slot ∧ operands[slot]? = some handle ∧
      code.Has handle (.register number) := by
  obtain ⟨instruction, slot, handle, found, source, held, has⟩ := reads
  rcases getElem?_of_push found with old | ⟨same, rfl⟩
  · have inside := (Array.getElem?_eq_some_iff.mp old).1
    omega
  · refine ⟨same, slot, handle, source, (Instruction.slots_of held).resolve_left ?_, has⟩
    rintro rfl
    obtain ⟨_, impossible, _⟩ := has
    cases impossible

/-- What reads alive registers is supplied. -/
theorem supplied_emit (forward : code.ForwardFrom 0) {opcode : Opcode} {operands : List Handle}
    (given : ∀ (slot : Nat) (handle : Handle), opcode.resultSlot? ≠ some slot →
      operands[slot]? = some handle → code.Gives handle)
    (reads : (code.emit opcode operands).ReadsFrom reader number)
    (new : code.instructions.size ≤ reader) :
    (code.emit opcode operands).Supplied number reader := by
  obtain ⟨rfl, slot, handle, source, held, has⟩ := reads.emitted new
  exact ((given slot handle source held).2 number has).supplied (.emit opcode operands) forward

/-- A branch reads no register. -/
theorem not_readsFrom_branch {opcode : Opcode} (new : code.instructions.size ≤ reader) :
    ¬ (code.newTarget.2.emit opcode [code.newTarget.1]).ReadsFrom reader number := by
  intro reads
  obtain ⟨_, slot, handle, _, held, has⟩ := reads.emitted new
  rw [List.mem_singleton.mp (List.mem_of_getElem? held)] at has
  cases has.unique (has_newOperand code (.target unresolved))

/-- Neither a plain read nor its branch reads a register. -/
theorem not_readsFrom_withRead {field : Field} {raw : Bool} {register : Handle}
    (new : code.instructions.size ≤ reader) :
    ¬ (code.withRead field raw register).emitJump.2.ReadsFrom reader number := by
  intro reads
  rcases Nat.lt_or_ge code.instructions.size reader with guard | here
  · refine not_readsFrom_branch ?_ reads
    exact Nat.le_trans (Nat.le_of_eq (Array.size_push _)) guard
  obtain ⟨instruction, slot, handle, found, source, held, has⟩ := reads
  rw [Nat.le_antisymm here new] at found
  cases withRead_found.symm.trans found
  match slot with
  | 0 =>
    cases held
    cases has.unique has_withRead
  | 1 => exact source rfl
  | 2 =>
    cases held
    obtain ⟨_, impossible, _⟩ := has
    cases impossible
  | slot + 3 => cases held

end Code

section Fed

variable {start stop : Stage}

/-- **What an act adds is supplied.** -/
theorem Act.feeds (act : Act start stop) (forward : start.code.ForwardFrom 0) {reader : Nat}
    {instruction : Instruction} {number : Int} (new : start.code.instructions.size ≤ reader)
    (found : stop.code.instructions[reader]? = some instruction)
    (takes : instruction.opcode ≠ .stackPush) (reads : stop.code.ReadsFrom reader number) :
    stop.code.Supplied number reader := by
  have inside := (Array.getElem?_eq_some_iff.mp found).1
  cases act with
  | operand operand noTarget noRegister => exact absurd inside (Nat.not_lt.mpr new)
  | register => exact absurd inside (Nat.not_lt.mpr new)
  | note interesting references rawReferences => exact absurd inside (Nat.not_lt.mpr new)
  | resolve resolved opens =>
    rw [resolve_instructions] at inside
    exact absurd inside (Nat.not_lt.mpr new)
  | emit opcode operands purpose plain count none given serves =>
    exact supplied_emit forward (fun slot handle _ held => given handle (List.mem_of_getElem? held))
      reads new
  | push value call argument held =>
    rcases getElem?_of_push found with old | ⟨_, rfl⟩
    · exact absurd (Array.getElem?_eq_some_iff.mp old).1 (Nat.not_lt.mpr new)
    · exact absurd rfl takes
  | compute opcode before register behind purpose plain count slot waits given serves =>
    refine supplied_emit forward (fun place handle source held => given handle ?_) reads new
    -- The register of the result is the only operand that need not be alive.
    rw [slot] at source
    rw [List.getElem?_append] at held
    split at held
    · exact List.mem_append_left _ (List.mem_of_getElem? held)
    · rename_i late
      obtain ⟨distance, behindRegister⟩ : ∃ distance, place - before.length = distance + 1 :=
        ⟨place - before.length - 1, by
          have apart : before.length ≠ place := fun same => source (congrArg some same)
          omega⟩
      rw [behindRegister, List.getElem?_cons_succ] at held
      exact List.mem_append_right _ (List.mem_of_getElem? held)
  | load field raw first => exact absurd reads (not_readsFrom_withRead new)
  | reload field raw register cached => exact absurd reads (not_readsFrom_withRead new)
  | branch opcode branches => exact absurd reads (not_readsFrom_branch new)

/-- **An act keeps readers supplied.** -/
theorem Act.fed (act : Act start stop) (sound : start.code.Sound start.targets)
    (forward : start.code.ForwardFrom 0) (fed : start.code.Fed) : stop.code.Fed := by
  intro reader instruction number found takes runs reads
  have kept := act.steps.keeps sound
  have continues := act.steps.continues
  rcases Nat.lt_or_ge reader start.code.instructions.size with old | new
  · have supplied := fed reader instruction number (continues.back found old) takes runs
      (reads.back sound kept continues old)
    exact supplied.later kept continues
      (fun branch target early leads => act.steps.leads forward early leads) old
  · exact act.feeds forward new found takes reads

theorem Acts.fed (acts : Acts start stop) (sound : start.code.Sound start.targets)
    (forward : start.code.ForwardFrom 0) (fed : start.code.Fed) : stop.code.Fed := by
  induction acts with
  | refl => exact fed
  | tail run act ih =>
    exact act.fed ((Acts.steps run).sound sound) ((Acts.steps run).forward forward) ih

/-- An act adds a plain read together with its branch. -/
theorem Act.readsGuarded (act : Act start stop) (guarded : start.code.ReadsGuarded) :
    stop.code.ReadsGuarded := by
  intro index instruction found reads
  rcases Nat.lt_or_ge index start.code.instructions.size with old | new
  · obtain ⟨branch, there, guards⟩ :=
      guarded index instruction (act.steps.continues.back found old) reads
    exact ⟨branch, act.steps.continues _ _ there, guards⟩
  have absent : start.code.instructions[index]? ≠ some instruction := fun early =>
    absurd (Array.getElem?_eq_some_iff.mp early).1 (Nat.not_lt.mpr new)
  cases act.grows with
  | nothing grown instructions plan pending =>
    rw [instructions] at found
    exact absurd found absent
  | resolve resolved plan pending code opens =>
    rw [code, resolve_instructions] at found
    exact absurd found absent
  | one added purpose grown instructions plan pending serves differs waits =>
    rw [instructions] at found
    rcases getElem?_of_push found with early | ⟨_, rfl⟩
    · exact absurd early absent
    · exact absurd reads differs
  | read read guard grown instructions plan pending _ guards waits =>
    rw [instructions] at found ⊢
    rcases getElem?_of_push found with early | ⟨_, rfl⟩
    · rcases getElem?_of_push early with earlier | ⟨rfl, _⟩
      · exact absurd earlier absent
      · refine ⟨guard, ?_, guards⟩
        rw [← Array.size_push read]
        exact Array.getElem?_push_size
    · cases guards.symm.trans reads

theorem Acts.readsGuarded (acts : Acts start stop) (guarded : start.code.ReadsGuarded) :
    stop.code.ReadsGuarded := by
  induction acts with
  | refl => exact guarded
  | tail _ act ih => exact act.readsGuarded ih

end Fed

/-! ### Paths to supplied readers -/

namespace Code

variable {code : Code} {moves : List Move} {index last reader : Nat} {number : Int}

/-- **A path passes a gate**: where branches lead forward, and none that stands before the gate or
at it leads behind the gate and not behind the bound, a path to between the two goes through. -/
theorem Path.passes (path : code.Path moves index) {gate bound : Nat}
    (forward : ∀ branch target, code.Leads branch target → branch < target)
    (closed : ∀ branch target, branch ≤ gate → code.Leads branch target →
      target ≤ gate ∨ bound < target)
    (behind : gate < index) (inside : index ≤ bound) : ⟨gate, false⟩ ∈ moves := by
  induction path with
  | start => exact absurd behind (Nat.not_lt_zero _)
  | @next moves index instruction path found runs ih =>
    rcases Nat.lt_or_eq_of_le (Nat.le_of_lt_succ behind) with further | rfl
    · exact List.mem_cons_of_mem _ (ih further (Nat.le_of_succ_le inside))
    · exact List.mem_cons_self
  | @leap moves index target path leads ih =>
    have ahead := forward index target leads
    rcases Nat.lt_or_ge gate index with further | before
    · exact List.mem_cons_of_mem _ (ih further (by omega))
    · rcases closed index target before leads with short | long
      · omega
      · omega

/-- Along the moves the register was written, and the branch that tells a failure of the writing was
not taken. -/
def LoadedAlong (code : Code) (moves : List Move) (number : Int) : Prop :=
  ∃ (index : Nat) (loader : Instruction), ⟨index, false⟩ ∈ moves ∧
    code.instructions[index]? = some loader ∧ code.WritesTo index number ∧
    ∀ distance, loader.opcode.guardDistance? = some distance →
      ⟨index + distance, false⟩ ∈ moves ∧
      ∃ guard, code.instructions[index + distance]? = some guard ∧ guard.opcode = .ifFalseGoto

/-- **A path to a supplied reader has loaded the register.** -/
theorem Supplied.loads (supplied : code.Supplied number reader) (path : code.Path moves reader)
    (forward : ∀ branch target, code.Leads branch target → branch < target) :
    code.LoadedAlong moves number := by
  obtain ⟨index, last, settles, early, entered⟩ := supplied
  have order := settles.le
  have written : ⟨index, false⟩ ∈ moves :=
    path.passes forward (fun branch target low leads => entered branch target (by omega) leads)
      (by omega) (Nat.le_refl _)
  have passed : ⟨last, false⟩ ∈ moves :=
    path.passes forward
      (fun branch target low leads => (entered branch target low leads).imp_left (by omega))
      early (Nat.le_refl _)
  cases settles with
  | @sure loader writes found sure =>
    refine ⟨index, loader, written, found, writes, fun distance fails => ?_⟩
    cases sure.symm.trans fails
  | @guarded loader guard distance writes found fails there guards =>
    refine ⟨index, loader, written, found, writes, fun other also => ?_⟩
    cases fails.symm.trans also
    exact ⟨passed, guard, there, guards⟩

/-! ### Optimized programs -/

/-- What settles a register is no branch. -/
theorem Settles.not_isBranch (settles : code.Settles number index last) {instruction : Instruction}
    (found : code.instructions[index]? = some instruction) :
    instruction.opcode.isBranch = false := by
  obtain ⟨loader, slot, _, there, result, _⟩ := settles.writes
  cases found.symm.trans there
  exact not_isBranch_of_resultSlot? result

/-- A plain read settles its register at the next instruction. -/
theorem Settles.of_readTree (settles : code.Settles number index last) {instruction : Instruction}
    (found : code.instructions[index]? = some instruction)
    (reads : instruction.opcode = .readTree) : last = index + 1 := by
  cases settles with
  | sure writes there sure =>
    cases found.symm.trans there
    rw [reads] at sure
    cases sure
  | guarded writes there fails _ guards =>
    cases found.symm.trans there
    rw [reads] at fails
    cases fails
    rfl

/-- The branch behind a settled register tells its failure. -/
theorem Settles.guards (settles : code.Settles number index last) (apart : index < last)
    {instruction : Instruction} (found : code.instructions[last]? = some instruction) :
    instruction.opcode = .ifFalseGoto := by
  cases settles with
  | sure writes there sure => exact absurd apart (Nat.lt_irrefl _)
  | guarded writes _ fails there guards =>
    cases found.symm.trans there
    exact guards

/-- A branch that passes a repeated read stands behind a read itself. -/
theorem ReadsGuarded.of_repeatsRead (guarded : code.ReadsGuarded) {instruction next : Instruction}
    (found : code.instructions[index]? = some instruction)
    (repeats : code.repeatsRead index next = true) :
    next.opcode = .readTree ∧ instruction.opcode = .ifFalseGoto := by
  obtain ⟨again, positive, before, there, reads⟩ := reads_of_repeatsRead repeats
  obtain ⟨branch, behind, guards⟩ := guarded (index - 1) before there reads
  rw [Nat.sub_add_cancel positive] at behind
  cases found.symm.trans behind
  exact ⟨again, guards⟩

section Threaded

variable {current : Code} (threaded : code.Threaded code.instructions.size current)
  (threadable : code.Threadable) (guarded : code.ReadsGuarded)
include threaded threadable guarded

/-- **Threading leads no branch between a register and its reader.** The only way to get there would
be past a repeated read, and the branch behind that read leads on. -/
theorem Settles.threaded_leads (settles : code.Settles number index last)
    (entered : ∀ branch target, branch ≤ last → code.Leads branch target →
      target ≤ index ∨ reader < target) {branch target : Nat} (low : branch ≤ last)
    (leads : current.Leads branch target) : target ≤ index ∨ reader < target := by
  obtain ⟨instruction, found, branches, threads⟩ := threaded.leads leads
  have order := settles.le
  have strict : ∀ {target : Nat} {next : Instruction}, code.instructions[target]? = some next →
      next.opcode.isBranch = true → target ≤ index → target < index := by
    intro target next there also before
    refine Nat.lt_of_le_of_ne before fun same => ?_
    rw [settles.not_isBranch (same ▸ there)] at also
    cases also
  have reached : target ≤ index ∨ reader < target ∨
      target = last ∧ index < last ∧ instruction.opcode = .ifFalseGoto := by
    refine threaded.leads_induction threadable leads found
      (motive := fun target => target ≤ index ∨ reader < target ∨
        target = last ∧ index < last ∧ instruction.opcode = .ifFalseGoto)
      (fun target leads => (entered branch target low leads).imp_right .inl) ?_ ?_ ?_
    · intro target next holds there inverted
      rcases holds with before | behind | ⟨rfl, apart, guards⟩
      · exact .inl (strict there (inverted ▸ Opcode.isBranch_opposite branches) before)
      · exact .inr (.inl (by omega))
      · rw [settles.guards apart there, guards] at inverted
        cases inverted
    · intro target next holds there repeats
      obtain ⟨again, guards⟩ := guarded.of_repeatsRead found repeats
      rcases holds with before | behind | ⟨rfl, apart, _⟩
      · rcases Nat.lt_or_eq_of_le before with less | rfl
        · exact .inl less
        · have next := settles.of_readTree there again
          exact .inr (.inr ⟨next.symm, by omega, guards⟩)
      · exact .inr (.inl (by omega))
      · cases (settles.guards apart there).symm.trans again
    · intro target next further holds there same leads
      have ahead := threadable.lt_of_leads leads
      rcases holds with before | behind | ⟨rfl, _, _⟩
      · have less := strict there (same ▸ branches) before
        exact (entered target further (by omega) leads).imp_right .inl
      · exact .inr (.inl (by omega))
      · exact (entered target further (Nat.le_refl _) leads).imp (by omega) .inl
  rcases reached with before | behind | ⟨rfl, apart, guards⟩
  · exact .inl before
  · exact .inr behind
  · have there := Array.getElem?_eq_getElem settles.lt_size
    have stops := threadable.thread_stops found branches (by rw [threads]; exact there)
    exact absurd ((settles.guards apart there).trans guards.symm) stops.2.2

/-- **Optimizing keeps readers supplied.** -/
theorem Supplied.optimized (supplied : code.Supplied number reader) :
    current.Supplied number reader := by
  obtain ⟨index, last, settles, early, entered⟩ := supplied
  refine ⟨index, last, ?_, early, fun branch target low leads =>
    settles.threaded_leads threaded threadable guarded entered low leads⟩
  cases settles with
  | sure writes found sure =>
    exact .sure ((threaded.writesTo_iff threadable).mpr writes)
      (threaded.instruction_of_plain found ((Settles.sure writes found sure).not_isBranch found)) sure
  | @guarded loader guard distance writes found fails there guards =>
    have settles := Settles.guarded writes found fails there guards
    refine .guarded ((threaded.writesTo_iff threadable).mpr writes)
      (threaded.instruction_of_plain found (settles.not_isBranch found)) fails ?_ guards
    -- The guard leads behind the reader and is not disabled for that reason.
    have stays : ¬ (index + distance < code.instructions.size ∧
        code.fallsThrough (index + distance) guard = true) := by
      rintro ⟨_, falls⟩
      obtain ⟨branches, next⟩ := fallsThrough_iff.mp falls
      obtain ⟨target, aims, leads⟩ := threadable.leads_aim there branches
      have bound := entered _ target (Nat.le_refl _) leads
      have order := settles.le
      omega
    rw [threaded.instruction, there, Option.map_some, if_neg stays]

end Threaded

/-- Whatever way an instruction is reached, the registers it takes values from were loaded. -/
def ReadsLoaded (code : Code) : Prop :=
  ∀ (moves : List Move) (reader : Nat) (instruction : Instruction) (number : Int),
    code.Path moves reader → code.instructions[reader]? = some instruction →
    instruction.opcode ≠ .stackPush → instruction.opcode ≠ .halt →
    code.ReadsFrom reader number → code.LoadedAlong moves number

theorem Fed.readsLoaded (fed : code.Fed)
    (forward : ∀ branch target, code.Leads branch target → branch < target) : code.ReadsLoaded :=
  fun _ reader instruction number path found takes runs reads =>
    (fed reader instruction number found takes runs reads).loads path forward

theorem Fed.optimized {current : Code} (fed : code.Fed)
    (threaded : code.Threaded code.instructions.size current) (threadable : code.Threadable)
    (guarded : code.ReadsGuarded) : current.Fed := by
  intro reader instruction number found takes runs reads
  obtain ⟨there, before⟩ := threaded.readsFrom found reads
  exact (fed reader instruction number there takes runs before).optimized threaded threadable guarded

end Code

/-! ### Main result -/

/-- The code generated for a root feeds its readers and guards its reads. -/
theorem generated_fed {registry : Registry} {returnValues : Bool} {root : Node} {code : Code}
    (made : generated registry returnValues root = .ok code) : code.Fed ∧ code.ReadsGuarded := by
  obtain ⟨body, result, rfl, _, acts⟩ := generated_acts made
  have forward : Code.empty.ForwardFrom 0 := by rintro _ _ _ ⟨⟩
  have sound := acts.steps.sound Code.sound_empty
  have fed : body.Fed := acts.fed Code.sound_empty forward (by rintro _ _ _ ⟨⟩)
  have guarded : body.ReadsGuarded := acts.readsGuarded (by rintro _ _ ⟨⟩)
  have grown := @Extends.emit body .halt [result]
  refine ⟨fun reader instruction number found takes runs reads => ?_,
    fun index instruction found reads => ?_⟩
  · rcases getElem?_of_push found with old | ⟨_, rfl⟩
    · have inside := (Array.getElem?_eq_some_iff.mp old).1
      refine (fed reader instruction number old takes runs
        (reads.back sound grown.keeps grown.continues inside)).later grown.keeps grown.continues
        (fun branch target early leads => .inl ?_) inside
      exact leads.back grown (acts.steps.forward forward) early
    · exact absurd rfl runs
  · rcases getElem?_of_push found with old | ⟨_, rfl⟩
    · obtain ⟨branch, there, guards⟩ := guarded index instruction old reads
      exact ⟨branch, grown.instruction there, guards⟩
    · cases reads

/-- **Registers of compiled programs are loaded before they are read.** Whatever tree is compiled,
with or without optimization, and whichever way its branches go: where an instruction that neither
pushes an argument nor returns has a register as a source, an instruction passed before has left its
result there, and if that one can fail, the branch behind it that is taken on failure was not
taken. -/
theorem compileTree_readsLoaded (config : CompileConfig) (root : Node) (code : Code)
    (events : List CompileEvent) (compiled : compileTree config root = .ok (code, events)) :
    code.ReadsLoaded := by
  obtain ⟨_, original, made, rfl⟩ := compileTree_ok_iff.mp ⟨events, compiled⟩
  obtain ⟨fed, guarded⟩ := generated_fed made
  obtain ⟨_, last, result, finished⟩ := generated_ok made
  have threadable := finished.threadable
  unfold optimizedCode
  cases config.optimize with
  | false => exact fed.readsLoaded fun _ _ => threadable.lt_of_leads
  | true =>
    exact (fed.optimized threadable.optimize threadable guarded).readsLoaded fun _ _ =>
      threadable.optimize.lt_of_leads threadable

/-- Two fields that are compared. -/
def comparedFields : Node :=
  let field (id : Nat) : Node := .field ⟨some ⟨id, .empty, .empty, .empty⟩, none, false, false⟩
  .test .anyEq .baseline (field 0) (field 1)

/-- The comparison of two fields takes the second one from a register that was loaded on the way. -/
theorem comparedFields_readsLoaded :
    ∃ code events moves, compileTree ⟨.identity, true, false, false⟩ comparedFields =
        .ok (code, events) ∧ code.Path moves 4 ∧ code.ReadsFrom 4 1 ∧ code.LoadedAlong moves 1 := by
  obtain ⟨code, events, compiled, found, path, reads⟩ : ∃ code events,
      compileTree ⟨.identity, true, false, false⟩ comparedFields = .ok (code, events) ∧
      code.instructions[4]? = some (.of 4 .anyEq [0, 3]) ∧
      code.Path [⟨3, false⟩, ⟨2, false⟩, ⟨1, false⟩, ⟨0, false⟩] 4 ∧ code.ReadsFrom 4 1 :=
    ⟨_, _, rfl, rfl, .next (.next (.next (.next .start rfl nofun) rfl nofun) rfl nofun) rfl nofun,
      _, 1, _, rfl, nofun, rfl, 3, rfl, rfl⟩
  exact ⟨code, events, _, compiled, path, reads,
    compileTree_readsLoaded _ _ code events compiled _ 4 _ 1 path found nofun nofun reads⟩

end DisplayFilter
