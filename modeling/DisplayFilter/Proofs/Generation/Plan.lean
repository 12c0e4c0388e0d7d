/-
**What the instructions of a tree are for.**

The code of a tree is laid out by the tree alone: `Node.plan` lists, instruction by instruction, what
each is for. Most compute; the others push an argument of a call, call, remove the arguments, add a
member to the set of a membership test, decide the test or clear the set. Calls and tests are told
apart by their addresses in the tree, and a plan names the values that are pushed and added.

Read from the first purpose to the last, a plan moves between levels: the arguments on the stack, the
arguments that are still to be removed and the state of the set. A level says which purposes may
come next.

* `Level.Allows`, `Level.next`: what may come at a level, and the level behind it.
* `Node.plan`: the plan of a tree.
* `Node.takes_plan`: a plan is allowed throughout, and it ends at the level it starts from.
-/

import DisplayFilter.Node
import Mathlib.Tactic.Common

namespace DisplayFilter

/-- The place of a node in a tree: the number of the child taken at each node on the way, the last
one first. -/
abbrev Address := List Nat

/-- An argument of a call: the call, its position there and its value. -/
structure Argument where
  call : Address
  position : Nat
  value : Node

/-- What an instruction is for. -/
inductive Purpose where
  | plain
  | push (argument : Argument)
  /-- Calls a function with the arguments that were pushed. -/
  | call (call : Address) (arguments : List Node)
  /-- Removes the arguments of a call. -/
  | pop (call : Address) (arguments : List Node)
  /-- Adds the element at a position to the set of a membership test. -/
  | add (test : Address) (position : Nat) (element : Element)
  /-- Decides a membership test. -/
  | decide (test : Address)
  /-- Clears the set of a membership test. -/
  | clear (test : Address)

/-! ### Levels -/

/-- The state of the set: empty, holding elements of a test, or holding those of a test that is
decided. -/
inductive Phase where
  | outside
  | adding (test : Address)
  | decided (test : Address)
deriving DecidableEq, Repr

/-- What is on the argument stack, which arguments are to be removed next, and the state of the set. -/
structure Level where
  stack : List Argument
  owed : Option (Address × List Node)
  phase : Phase

/-- The first arguments of a call, the last one on top. -/
def argumentsOf (call : Address) (arguments : List Node) : List Argument :=
  (arguments.mapIdx fun position value => ⟨call, position, value⟩).reverse

@[simp] theorem length_argumentsOf (call : Address) (arguments : List Node) :
    (argumentsOf call arguments).length = arguments.length := by
  simp [argumentsOf]

theorem argumentsOf_concat (call : Address) (arguments : List Node) (value : Node) :
    argumentsOf call (arguments ++ [value]) =
      ⟨call, arguments.length, value⟩ :: argumentsOf call arguments := by
  simp [argumentsOf, List.mapIdx_concat]

namespace Level

variable {level : Level} {call test : Address} {arguments : List Node}

/-- Nothing on the stack and no set. -/
def ground : Level := ⟨[], none, .outside⟩

/-- Nothing has to be done before anything else. -/
def Free (level : Level) : Prop :=
  level.owed = none ∧ ∀ test, level.phase ≠ .decided test

/-- Nothing has to be done, and there is no set. -/
def Closed (level : Level) : Prop :=
  level.owed = none ∧ level.phase = .outside

theorem Closed.free (closed : level.Closed) : level.Free :=
  ⟨closed.1, fun test decided => by cases closed.2.symm.trans decided⟩

/-- The level behind an instruction with a purpose. -/
def next (level : Level) : Purpose → Level
  | .plain => level
  | .push argument => { level with stack := argument :: level.stack }
  | .call call arguments => { level with owed := some (call, arguments) }
  | .pop _ arguments => { level with stack := level.stack.drop arguments.length, owed := none }
  | .add test _ _ => { level with phase := .adding test }
  | .decide test => { level with phase := .decided test }
  | .clear _ => { level with phase := .outside }

/-- Which purposes may come at a level. A call needs its arguments on top of the stack, and nothing
comes between it and their removal. Elements are added to an empty set or to those of the same test,
and nothing comes between the decision of a test and the clearing of its set. -/
def Allows (level : Level) : Purpose → Prop
  | .plain | .push _ => level.Free
  | .call call arguments => level.Free ∧ argumentsOf call arguments <+: level.stack
  | .pop call arguments =>
    level.owed = some (call, arguments) ∧ argumentsOf call arguments <+: level.stack ∧
      ∀ test, level.phase ≠ .decided test
  | .add test _ _ | .decide test =>
    level.Free ∧ (level.phase = .outside ∨ level.phase = .adding test)
  | .clear test => level.owed = none ∧ level.phase = .decided test

/-- Where arguments are to be removed, nothing else may come. -/
theorem Allows.of_owed {purpose : Purpose} (allows : level.Allows purpose)
    (owes : level.owed = some (call, arguments)) : purpose = .pop call arguments := by
  have busy : ∀ {claim : Prop}, level.owed = none → claim := fun free => by
    cases free.symm.trans owes
  cases purpose with
  | pop other removed =>
    cases allows.1.symm.trans owes
    rfl
  | plain => exact busy allows.1
  | push _ => exact busy allows.1
  | clear _ => exact busy allows.1
  | call _ _ => exact busy allows.1.1
  | add _ _ _ => exact busy allows.1.1
  | decide _ => exact busy allows.1.1

/-- A branch may lead from one level to another: the argument stack is the same, and so is the state
of the set, unless it was empty and elements have been added since. -/
def Opens (level reached : Level) : Prop :=
  reached.stack = level.stack ∧ reached.owed = level.owed ∧
    (reached.phase = level.phase ∨ level.phase = .outside ∧ ∃ test, reached.phase = .adding test)

theorem Opens.refl (level : Level) : level.Opens level := ⟨rfl, rfl, .inl rfl⟩

theorem Opens.trans {middle reached : Level} (first : level.Opens middle)
    (second : middle.Opens reached) : level.Opens reached := by
  obtain ⟨stack, owed, phase⟩ := first
  obtain ⟨stack', owed', phase'⟩ := second
  refine ⟨stack'.trans stack, owed'.trans owed, ?_⟩
  rcases phase' with same | ⟨outside, opened⟩
  · rw [same]
    exact phase
  · rcases phase with equal | ⟨_, test, adding⟩
    · exact .inr ⟨equal ▸ outside, opened⟩
    · cases outside.symm.trans adding

/-- The level behind a plan. -/
def run (level : Level) (plan : List Purpose) : Level :=
  plan.foldl next level

/-- Every purpose of a plan is allowed where it comes. -/
def Admits : Level → List Purpose → Prop
  | _, [] => True
  | level, purpose :: plan => level.Allows purpose ∧ (level.next purpose).Admits plan

@[simp] theorem run_nil : level.run [] = level := rfl

@[simp] theorem run_cons (purpose : Purpose) (plan : List Purpose) :
    level.run (purpose :: plan) = (level.next purpose).run plan := rfl

@[simp] theorem run_append (plan more : List Purpose) :
    level.run (plan ++ more) = (level.run plan).run more :=
  List.foldl_append

theorem admits_append {plan more : List Purpose} :
    level.Admits (plan ++ more) ↔ level.Admits plan ∧ (level.run plan).Admits more := by
  induction plan generalizing level with
  | nil => simp [Admits]
  | cons purpose plan ih => simp [Admits, ih, and_assoc]

/-- What a plan is for at an index is allowed there. -/
theorem Admits.allows {plan : List Purpose} (admits : level.Admits plan) {index : Nat}
    {purpose : Purpose} (found : plan[index]? = some purpose) :
    (level.run (plan.take index)).Allows purpose := by
  induction plan generalizing level index with
  | nil => cases found
  | cons first plan ih =>
    cases index with
    | zero =>
      cases found
      exact admits.1
    | succ index => exact ih admits.2 found

/-- The level behind one more purpose of a plan. -/
theorem run_take_succ {plan : List Purpose} {index : Nat} {purpose : Purpose}
    (found : plan[index]? = some purpose) :
    level.run (plan.take (index + 1)) = (level.run (plan.take index)).next purpose := by
  rw [List.take_add_one, found]
  simp

/-- A plan leads from a level to another, and is allowed throughout. -/
def Takes (level : Level) (plan : List Purpose) (reached : Level) : Prop :=
  level.Admits plan ∧ level.run plan = reached

theorem takes_nil : level.Takes [] level := ⟨trivial, rfl⟩

theorem Allows.takes {purpose : Purpose} (allows : level.Allows purpose) :
    level.Takes [purpose] (level.next purpose) :=
  ⟨⟨allows, trivial⟩, rfl⟩

/-- **One plan after another.** -/
theorem Takes.append {plan more : List Purpose} {reached last : Level}
    (takes : level.Takes plan reached) (further : reached.Takes more last) :
    level.Takes (plan ++ more) last := by
  obtain ⟨admits, rfl⟩ := takes
  exact ⟨admits_append.mpr ⟨admits, further.1⟩, (run_append _ _).trans further.2⟩

theorem Free.takes_plain (free : level.Free) (count : Nat) :
    level.Takes (List.replicate count .plain) level := by
  induction count with
  | zero => exact takes_nil
  | succ count ih => exact ⟨⟨free, ih.1⟩, ih.2⟩

/-- A call behind its arguments, and their removal. -/
theorem Free.takes_call (free : level.Free) :
    ({ level with stack := argumentsOf call arguments ++ level.stack } : Level).Takes
      [.call call arguments, .pop call arguments, .plain] level := by
  obtain ⟨stack, owed, phase⟩ := level
  cases (free.1 : owed = none)
  refine ⟨⟨⟨free, List.prefix_append _ _⟩, ⟨rfl, List.prefix_append _ _, free.2⟩, ⟨rfl, free.2⟩,
    trivial⟩, ?_⟩
  simp [next]

end Level

/-! ### The plan of a tree -/

namespace Node

/-- The plan of a read: the read with its branch, and the value-string table with its own. -/
def readPlan (read : FieldRead) : List Purpose :=
  List.replicate (if read.valueString then 4 else 2) .plain

mutual

/-- The plan of a value. -/
def valuePlan (address : Address) : Node → List Purpose
  | .field read => readPlan read
  | .reference read => readPlan read
  | .slice inner _ => valuePlan (0 :: address) inner ++ [.plain]
  | .call none _ => []
  | .call (some definition) arguments =>
    if definition.name = "len" then
      match arguments with
      | [argument] => valuePlan (0 :: address) argument ++ [.plain]
      | _ => []
    else if definition.name = "vals" then List.replicate 4 .plain
    else
      argumentsPlan address 0 arguments ++ [.call address arguments, .pop address arguments, .plain]
  | .arithmetic operator left right =>
    if operator = .negate then valuePlan (0 :: address) left ++ [.plain]
    else valuePlan (0 :: address) left ++ valuePlan (1 :: address) right ++ [.plain]
  | _ => []

/-- The plan of the arguments of a call from a position on. -/
def argumentsPlan (call : Address) (position : Nat) : List Node → List Purpose
  | [] => []
  | argument :: rest =>
    valuePlan (position :: call) argument ++ [.push ⟨call, position, argument⟩] ++
      argumentsPlan call (position + 1) rest

end

/-- The plan of the elements of a set from a position on. -/
def elementsPlan (test : Address) (position : Nat) : List Element → List Purpose
  | [] => []
  | .single low :: rest =>
    valuePlan (0 :: position :: 1 :: test) low ++ [.add test position (.single low)] ++
      elementsPlan test (position + 1) rest
  | .between low high :: rest =>
    valuePlan (0 :: position :: 1 :: test) low ++ valuePlan (1 :: position :: 1 :: test) high ++
      [.add test position (.between low high)] ++ elementsPlan test (position + 1) rest

/-- The plan of a relation, or of a membership test if the right side is a set. -/
def comparisonPlan (address : Address) (left right : Node) : List Purpose :=
  match right with
  | .set elements =>
    valuePlan (0 :: address) left ++ elementsPlan address 0 elements ++
      [.decide address, .clear address]
  | _ => valuePlan (0 :: address) left ++ valuePlan (1 :: address) right ++ [.plain]

theorem comparisonPlan_set (address : Address) (left : Node) (elements : List Element) :
    comparisonPlan address left (.set elements) = valuePlan (0 :: address) left ++
      elementsPlan address 0 elements ++ [.decide address, .clear address] := rfl

/-- The plan of a truth value. -/
def testPlan (returnValues : Bool) (address : Address) : Node → List Purpose
  | .test operator _ left right =>
    match operator with
    | .not => testPlan false (0 :: address) left ++ [.plain]
    | .and | .or =>
      testPlan false (0 :: address) left ++ [.plain] ++ testPlan false (1 :: address) right
    | _ => comparisonPlan address left right
  | .field read => if returnValues then readPlan read else [.plain]
  | .arithmetic operator left right => valuePlan address (.arithmetic operator left right) ++ [.plain]
  | .call definition? arguments => valuePlan address (.call definition? arguments) ++ [.plain]
  | .slice inner range? => valuePlan address (.slice inner range?) ++ [.plain, .plain]
  | _ => []

/-- The plan of a tree: that of its truth value, and the instruction that returns. -/
def plan (returnValues : Bool) (root : Node) : List Purpose :=
  testPlan returnValues [] root ++ [.plain]

/-! ### Plans return to their level -/

mutual

/-- **The plan of a value returns to its level.** -/
theorem takes_valuePlan (node : Node) (address : Address) {level : Level} (free : level.Free) :
    level.Takes (valuePlan address node) level := by
  have plain := free.takes_plain 1
  match node with
  | .missing | .value _ | .pattern _ | .test .. | .set _ | .call none _ => exact Level.takes_nil
  | .field read => exact free.takes_plain _
  | .reference read => exact free.takes_plain _
  | .slice inner range? => exact (takes_valuePlan inner _ free).append plain
  | .call (some definition) args =>
    unfold valuePlan
    split
    · match args with
      | [] => exact Level.takes_nil
      | [argument] => exact (takes_valuePlan argument _ free).append plain
      | _ :: _ :: _ => exact Level.takes_nil
    split
    · exact free.takes_plain 4
    · exact (takes_argumentsPlan args address [] free rfl).append free.takes_call
  | .arithmetic operator left right =>
    unfold valuePlan
    split
    · exact (takes_valuePlan left _ free).append plain
    · exact ((takes_valuePlan left _ free).append (takes_valuePlan right _ free)).append plain

/-- The plan of arguments pushes one after the other, on top of those that were pushed earlier. -/
theorem takes_argumentsPlan (args : List Node) (call : Address) (earlier : List Node)
    {level : Level} {base : List Argument} (free : level.Free)
    (stack : level.stack = argumentsOf call earlier ++ base) :
    level.Takes (argumentsPlan call earlier.length args)
      { level with stack := argumentsOf call (earlier ++ args) ++ base } := by
  match args with
  | [] =>
    rw [List.append_nil, ← stack]
    exact Level.takes_nil
  | argument :: rest =>
    have first := takes_valuePlan argument (earlier.length :: call) free
    have push : level.Allows (.push ⟨call, earlier.length, argument⟩) := free
    have grown : (level.next (.push ⟨call, earlier.length, argument⟩)).stack =
        argumentsOf call (earlier ++ [argument]) ++ base := by
      rw [argumentsOf_concat, List.cons_append, ← stack]
      rfl
    have still : (level.next (.push ⟨call, earlier.length, argument⟩)).Free := free
    have more := takes_argumentsPlan rest call (earlier ++ [argument]) still grown
    rw [List.length_append, List.append_assoc] at more
    exact (first.append push.takes).append more

end

/-- The plan of elements leaves the set to the test. -/
theorem takes_elementsPlan (elements : List Element) (test : Address) (position : Nat)
    {level : Level} (free : level.Free)
    (ready : level.phase = .outside ∨ level.phase = .adding test) :
    ∃ phase, (phase = .outside ∨ phase = .adding test) ∧
      level.Takes (elementsPlan test position elements) { level with phase } := by
  have added (element : Element) : level.Allows (.add test position element) := ⟨free, ready⟩
  have still (element : Element) : (level.next (.add test position element)).Free :=
    ⟨free.1, by rintro _ ⟨⟩⟩
  match elements with
  | [] => exact ⟨level.phase, ready, Level.takes_nil⟩
  | .single low :: rest =>
    have first := takes_valuePlan low (0 :: position :: 1 :: test) free
    obtain ⟨phase, left, more⟩ := takes_elementsPlan rest test (position + 1) (still _) (.inr rfl)
    exact ⟨phase, left, (first.append (added (.single low)).takes).append more⟩
  | .between low high :: rest =>
    have both := (takes_valuePlan low (0 :: position :: 1 :: test) free).append
      (takes_valuePlan high (1 :: position :: 1 :: test) free)
    obtain ⟨phase, left, more⟩ := takes_elementsPlan rest test (position + 1) (still _) (.inr rfl)
    exact ⟨phase, left, (both.append (added (.between low high)).takes).append more⟩

theorem takes_comparisonPlan (address : Address) (left right : Node) {level : Level}
    (closed : level.Closed) : level.Takes (comparisonPlan address left right) level := by
  have value := takes_valuePlan left (0 :: address) closed.free
  unfold comparisonPlan
  split
  · rename_i elements
    obtain ⟨phase, ready, gathered⟩ :=
      takes_elementsPlan elements address 0 closed.free (.inl closed.2)
    refine (value.append gathered).append ⟨⟨⟨⟨closed.1, ?_⟩, ready⟩, ⟨closed.1, rfl⟩, trivial⟩, ?_⟩
    · rcases ready with rfl | rfl <;> exact nofun
    · simp only [Level.run_cons, Level.run_nil, Level.next, ← closed.2]
  · exact (value.append (takes_valuePlan right (1 :: address) closed.free)).append
      (closed.free.takes_plain 1)

/-- **The plan of a truth value returns to its level.** -/
theorem takes_testPlan (node : Node) (returnValues : Bool) (address : Address) {level : Level}
    (closed : level.Closed) : level.Takes (testPlan returnValues address node) level := by
  have plain := closed.free.takes_plain 1
  match node with
  | .missing | .value _ | .pattern _ | .reference _ | .set _ => exact Level.takes_nil
  | .test operator quantifier left right =>
    have both := ((takes_testPlan left false (0 :: address) closed).append plain).append
      (takes_testPlan right false (1 :: address) closed)
    unfold testPlan
    split
    · exact (takes_testPlan left false (0 :: address) closed).append plain
    · exact both
    · exact both
    · exact takes_comparisonPlan address left right closed
  | .field read =>
    unfold testPlan
    split
    · exact closed.free.takes_plain _
    · exact plain
  | .arithmetic operator left right => exact (takes_valuePlan _ _ closed.free).append plain
  | .call definition? arguments => exact (takes_valuePlan _ _ closed.free).append plain
  | .slice inner range? =>
    exact (takes_valuePlan _ _ closed.free).append (closed.free.takes_plain 2)

/-- **A plan is allowed throughout.** -/
theorem takes_plan (returnValues : Bool) (root : Node) :
    Level.ground.Takes (root.plan returnValues) .ground :=
  (takes_testPlan root returnValues [] ⟨rfl, rfl⟩).append
    (Level.Closed.free ⟨rfl, rfl⟩ |>.takes_plain 1)

end Node

end DisplayFilter
