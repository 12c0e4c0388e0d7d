/-
**Generated code follows its plan.**

While code is generated, a branch whose target is pending is kept together with the level it stands
at; a pending target is resolved only at levels which that one opens. When nothing is pending any
more, every branch leads where the plan lets it.

* `Stage.Planned`: what holds of code in the making and its plan.
* `Act.planned`, `Acts.planned`: one act, and a run of them.
* `generated_follows`: the code generated for a root follows the plan of the root.
-/

import DisplayFilter.Proofs.Generation.TestActs
import DisplayFilter.Proofs.Program.Discipline

namespace DisplayFilter

open Code

/-- What holds of code in the making and its plan. -/
structure Stage.Planned (stage : Stage) : Prop extends stage.code.LaidOut stage.plan where
  /-- A branch is pending from the level it stands at, or leads to a level which that one opens. -/
  branches : ∀ {index : Nat} {instruction : Instruction},
    stage.code.instructions[index]? = some instruction → instruction.opcode.isBranch = true →
    (instruction.first, levelAt stage.plan index) ∈ stage.pending ∨
      ∃ target : Nat, stage.code.Has instruction.first (.target target) ∧
        target ≤ stage.plan.length ∧
        (levelAt stage.plan index).Opens (levelAt stage.plan target)

variable {start stop : Stage}

/-- Planned code to which instructions are added that serve what is added to the plan. -/
theorem Stage.Planned.grow (planned : start.Planned) {more : List Purpose}
    (grown : start.code.Extends stop.code) (plan : stop.plan = start.plan ++ more)
    (pending : start.pending <+: stop.pending)
    (length : stop.plan.length = stop.code.instructions.size)
    (new : ∀ (index : Nat) (instruction : Instruction) (purpose : Purpose),
      start.plan.length ≤ index → stop.code.instructions[index]? = some instruction →
      stop.plan[index]? = some purpose → purpose.Serves stop.code index instruction ∧
        (instruction.opcode.isBranch = true →
          (instruction.first, levelAt stop.plan index) ∈ stop.pending)) : stop.Planned := by
  have old : ∀ {index : Nat} {instruction : Instruction}, index < start.plan.length →
      stop.code.instructions[index]? = some instruction →
      start.code.instructions[index]? = some instruction := by
    intro index instruction early found
    rw [planned.length] at early
    exact grown.continues.back found early
  have level : ∀ {index : Nat}, index ≤ start.plan.length →
      levelAt stop.plan index = levelAt start.plan index := by
    intro index inside
    rw [plan]
    exact levelAt_append inside
  refine ⟨⟨length, fun {index instruction purpose} found label => ?_⟩,
    fun {index instruction} found branches => ?_⟩
  · rcases Nat.lt_or_ge index start.plan.length with early | late
    · rw [plan, List.getElem?_append_left early] at label
      have inside : index ≤ start.code.instructions.size := by
        rw [← planned.length]
        exact Nat.le_of_lt early
      exact (planned.serves (old early found) label).keep
        (grown.keeps.keepsResults grown.continues inside)
    · exact (new index instruction purpose late found label).1
  · rcases Nat.lt_or_ge index start.plan.length with early | late
    · rw [level (Nat.le_of_lt early)]
      rcases planned.branches (old early found) branches with waits | ⟨target, has, inside, opens⟩
      · exact .inl (pending.subset waits)
      · refine .inr ⟨target, has.extend grown, ?_, level inside ▸ opens⟩
        rw [plan, List.length_append]
        omega
    · have inside := (Array.getElem?_eq_some_iff.mp found).1
      rw [← length] at inside
      exact .inl ((new index instruction _ late found (List.getElem?_eq_getElem inside)).2 branches)

section Resolving

variable {code : Code} {handle : Handle} {targets : List Handle}

/-- A target that is resolved is the next instruction. -/
theorem Code.Has.resolved {number : Int} (has : code.Has handle (.target number))
    (member : handle ∈ targets) :
    (code.resolve targets).Has handle (.target code.instructions.size) := by
  obtain ⟨position, rfl, found⟩ := has
  refine ⟨position, rfl, ?_⟩
  rw [arena_resolve, if_pos member, found]
  rfl

/-- Any other operand is as it was. -/
theorem Code.Has.resolve {operand : Operand} (has : code.Has handle operand)
    (absent : handle ∉ targets) : (code.resolve targets).Has handle operand := by
  obtain ⟨position, rfl, found⟩ := has
  refine ⟨position, rfl, ?_⟩
  rw [arena_resolve, if_neg absent, found]

/-- What is pending in a run from no code is unresolved. -/
theorem Code.Steps.waiting {pending : List Handle} (steps : Steps (.empty, []) (code, pending)) :
    ∀ target ∈ pending, code.Has target (.target unresolved) := by
  intro target member
  have cells : code.unresolvedCells = [] ++ pending := steps.unresolvedCells rfl
  have cell : target ∈ code.unresolvedCells := by
    rw [cells]
    exact member
  obtain ⟨position, operand, same, found, waits⟩ := mem_positions.mp cell
  rw [Operand.eq_of_isPending waits] at found
  exact ⟨position, same, found⟩

end Resolving

/-- Pending targets are resolved where the levels of their branches open. -/
theorem Stage.Planned.resolve (planned : start.Planned) (kept : start.code.Keeps stop.code)
    {resolved : List (Handle × Level)} (plan : stop.plan = start.plan)
    (pending : start.pending = stop.pending ++ resolved)
    (code : stop.code = start.code.resolve (resolved.map Prod.fst))
    (opens : ∀ target ∈ resolved, target.2.Opens start.level)
    (waiting : ∀ target ∈ start.targets, start.code.Has target (.target unresolved)) :
    stop.Planned := by
  have same : stop.code.instructions = start.code.instructions := by
    rw [code]
    exact resolve_instructions _
  have length := planned.length
  refine ⟨⟨by rw [plan, same, length], fun {index instruction purpose} found label => ?_⟩,
    fun {index instruction} found branches => ?_⟩
  · rw [same] at found
    rw [plan] at label
    have inside := (Array.getElem?_eq_some_iff.mp found).1
    refine (planned.serves found label).keep (kept.keepsResults ?_ (Nat.le_of_lt inside))
    rw [Continues, same]
    exact fun _ _ => id
  rw [same] at found
  rw [plan]
  rcases planned.branches found branches with waits | ⟨target, has, inside, opened⟩
  · have cell := waiting instruction.first (List.mem_map_of_mem waits)
    rw [pending] at waits
    rcases List.mem_append.mp waits with still | now
    · exact .inl still
    · have member : instruction.first ∈ resolved.map Prod.fst := List.mem_map_of_mem now
      refine .inr ⟨start.code.instructions.size, code ▸ cell.resolved member, Nat.le_of_eq length.symm,
        ?_⟩
      rw [← length, levelAt_length]
      exact opens _ now
  · refine .inr ⟨target, ?_, inside, opened⟩
    rw [code]
    refine has.resolve fun member => ?_
    -- A branch that leads somewhere is not pending.
    have pendingAlso : instruction.first ∈ start.targets := by
      unfold Stage.targets
      rw [pending, List.map_append]
      exact List.mem_append_right _ member
    have equal : (target : Int) = unresolved :=
      congrArg Operand.number (has.unique (waiting _ pendingAlso))
    unfold unresolved at equal
    omega

/-- The level behind a plan is that at its end, whatever is added. -/
theorem Stage.levelAt_end (stage : Stage) (more : List Purpose) :
    levelAt (stage.plan ++ more) stage.plan.length = stage.level := by
  rw [levelAt_append (Nat.le_refl _), levelAt_length]
  rfl

/-- **An act keeps code planned.** -/
theorem Act.planned (act : Act start stop) (sound : start.code.Sound start.targets)
    (waiting : ∀ target ∈ start.targets, start.code.Has target (.target unresolved))
    (planned : start.Planned) : stop.Planned := by
  have length := planned.length
  have outside : ∀ {index : Nat} {instruction : Instruction}, start.plan.length ≤ index →
      start.code.instructions[index]? ≠ some instruction := by
    intro index instruction late early
    rw [length] at late
    exact absurd (Array.getElem?_eq_some_iff.mp early).1 (Nat.not_lt.mpr late)
  cases act.grows with
  | nothing grown instructions plan pending =>
    refine planned.grow grown (plan.trans (List.append_nil _).symm) (pending ▸ List.prefix_rfl)
      (by rw [plan, instructions, length]) fun index instruction purpose late found label => ?_
    rw [instructions] at found
    exact absurd found (outside late)
  | one added purpose grown instructions plan pending serves differs waits =>
    refine planned.grow grown plan pending
      (by rw [plan, instructions, List.length_append, Array.size_push, length]; rfl)
      fun index instruction other late found label => ?_
    rw [instructions] at found
    rcases getElem?_of_push found with early | ⟨rfl, rfl⟩
    · exact absurd early (outside late)
    · rw [plan, ← length, List.getElem?_concat_length] at label
      cases label
      refine ⟨serves.keep grown.keepsResults, fun branches => ?_⟩
      rw [plan, ← length, start.levelAt_end]
      exact waits branches
  | read read guard grown instructions plan pending reads guards waits =>
    refine planned.grow grown plan pending
      (by rw [plan, instructions, List.length_append, Array.size_push, Array.size_push, length]; rfl)
      fun index instruction other late found label => ?_
    have plain : other = .plain := by
      rw [plan, List.getElem?_append_right late] at label
      simpa using List.mem_of_getElem? label
    subst plain
    rw [instructions] at found
    rcases getElem?_of_push found with early | ⟨same, rfl⟩
    · rcases getElem?_of_push early with earlier | ⟨_, rfl⟩
      · exact absurd earlier (outside late)
      · refine ⟨by rw [Purpose.Serves, reads]; rfl, fun branches => ?_⟩
        rw [reads] at branches
        cases branches
    · -- The branch stands one plain instruction further, at the level of the read.
      have first : stop.plan[start.plan.length]? = some .plain := by
        rw [plan, List.getElem?_append_right (Nat.le_refl _), Nat.sub_self]
        rfl
      have level : levelAt stop.plan index = start.level := by
        rw [same, Array.size_push, ← length, levelAt_succ first, plan, start.levelAt_end]
        rfl
      exact ⟨by rw [Purpose.Serves, guards]; rfl, fun _ => level ▸ waits⟩
  | resolve resolved plan pending code opens =>
    exact planned.resolve (act.steps.keeps sound) plan pending code opens waiting

/-- **A run from no code makes planned code.** -/
theorem Acts.planned (acts : Acts ⟨.empty, [], [], []⟩ stop) : stop.Planned := by
  induction acts with
  | refl => exact ⟨⟨rfl, by rintro _ _ _ ⟨⟩⟩, by rintro _ _ ⟨⟩⟩
  | tail run act ih =>
    have steps := Acts.steps run
    exact act.planned (steps.sound sound_empty) steps.waiting ih

/-- **The code generated for a root follows the plan of the root.** -/
theorem generated_follows {registry : Registry} {returnValues : Bool} {root : Node} {code : Code}
    (made : generated registry returnValues root = .ok code) :
    code.Follows (root.plan returnValues) := by
  obtain ⟨body, result, rfl, _, acts⟩ := generated_acts made
  have planned := acts.planned
  have length : (root.testPlan returnValues []).length = body.instructions.size := planned.length
  have grown := @Extends.emit body .halt [result]
  unfold Node.plan
  refine ⟨⟨?_, fun {index instruction purpose} found label => ?_⟩, fun {index target} leads => ?_⟩
  · rw [List.length_append, length]
    exact (Array.size_push _).symm
  · rcases getElem?_of_push found with old | ⟨rfl, rfl⟩
    · have inside := (Array.getElem?_eq_some_iff.mp old).1
      rw [List.getElem?_append_left (by omega)] at label
      exact (planned.serves old label).keep
        (grown.keeps.keepsResults grown.continues (Nat.le_of_lt inside))
    · rw [← length, List.getElem?_concat_length] at label
      cases label
      rfl
  · obtain ⟨instruction, found, branches, has⟩ := leads
    rcases getElem?_of_push found with old | ⟨_, rfl⟩
    · have inside := (Array.getElem?_eq_some_iff.mp old).1
      rcases planned.branches old branches with waits | ⟨aim, cell, bound, opens⟩
      · cases waits
      · have same : (aim : Int) = target :=
          congrArg Operand.number ((cell.extend grown).unique has)
        cases Int.ofNat.inj same
        rwa [levelAt_append (by omega), levelAt_append bound]
    · cases branches

end DisplayFilter
