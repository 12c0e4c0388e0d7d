/-
**Whose instructions they are.**

The instructions that push, call, remove arguments, add members, decide or clear belong to a call or
a test of the tree. What belongs below one child of a node is not what belongs below another one, so
that no purpose of a plan is that of two instructions, unless they only compute.

* `Purpose.owner?`: the call or test that an instruction belongs to.
* `Purpose.place?`: the place of the argument or element that an instruction hands over.
* `Distinct`: plans without such repetitions.
* `Node.distinct_plan`: the plan of a tree is one of them.
-/

import DisplayFilter.Proofs.Generation.Plan

namespace DisplayFilter

namespace Purpose

/-- The call or test that an instruction belongs to. -/
def owner? : Purpose → Option Address
  | .plain => none
  | .push argument => some argument.call
  | .call owner _ | .pop owner _ => some owner
  | .add owner _ _ | .decide owner | .clear owner => some owner

/-- The call or test that an argument or element is handed over to, and its position there. -/
def place? : Purpose → Option (Address × Nat)
  | .push argument => some (argument.call, argument.position)
  | .add test position _ => some (test, position)
  | _ => none

/-- The owner is the node at an address or one below it. -/
def Within (address : Address) (purpose : Purpose) : Prop :=
  ∀ owner, purpose.owner? = some owner → address <:+ owner

/-- Two instructions do different things, unless they only compute. -/
def Differs (first second : Purpose) : Prop :=
  first ≠ .plain → first ≠ second

variable {first second : Purpose} {address : Address} {child other : Nat}

theorem Within.up (within : first.Within (child :: address)) : first.Within address :=
  fun owner owns => (List.suffix_cons child address).trans (within owner owns)

theorem within_plain : Within address .plain := by
  intro owner owns
  cases owns

theorem within_self (owns : first.owner? = some address) : first.Within address := by
  intro owner also
  cases owns.symm.trans also
  exact List.suffix_rfl

theorem owner?_of_ne_plain (labelled : first ≠ .plain) : ∃ owner, first.owner? = some owner := by
  cases first <;> first | exact ⟨_, rfl⟩ | exact absurd rfl labelled

/-- What belongs below different children differs. -/
theorem Within.differs (here : first.Within (child :: address))
    (there : second.Within (other :: address)) (apart : child ≠ other) : first.Differs second := by
  rintro labelled rfl
  obtain ⟨owner, owns⟩ := owner?_of_ne_plain labelled
  have inside := List.suffix_of_suffix_length_le (here owner owns) (there owner owns) (Nat.le_refl _)
  exact apart (List.cons.inj (inside.eq_of_length rfl)).1

/-- A node's own purposes are not those of what is below it. -/
theorem Within.differs_own (here : first.Within (child :: address))
    (owns : second.owner? = some address) : first.Differs second := by
  rintro labelled rfl
  have short := (here address owns).length_le
  rw [List.length_cons] at short
  omega

theorem Within.own_differs (there : second.Within (child :: address))
    (owns : first.owner? = some address) : first.Differs second := by
  rintro labelled rfl
  exact there.differs_own owns labelled rfl

theorem owner?_of_place? {item : Nat} (placed : first.place? = some (address, item)) :
    first.owner? = some address := by
  cases first <;> cases placed <;> rfl

/-- What hands over from different places differs. -/
theorem differs_of_place? (apart : first.place? ≠ second.place?) : first.Differs second := by
  rintro - rfl
  exact apart rfl

theorem differs_unplaced {place : Address × Nat} (placed : first.place? = some place)
    (unplaced : second.place? = none) : first.Differs second := by
  refine differs_of_place? ?_
  rw [placed, unplaced]
  exact nofun

/-- Belongs to one of the items of a list from a position on, or hands over such an item. -/
def Among (owner list : Address) (position : Nat) (purpose : Purpose) : Prop :=
  (∃ item, position ≤ item ∧ purpose.Within (item :: list)) ∨
    ∃ item, position ≤ item ∧ purpose.place? = some (owner, item)

variable {owner list : Address} {position : Nat}

theorem among_of_within (within : first.Within (position :: list)) :
    first.Among owner list position :=
  .inl ⟨position, Nat.le_refl _, within⟩

theorem among_of_place? (placed : first.place? = some (owner, position)) :
    first.Among owner list position :=
  .inr ⟨position, Nat.le_refl _, placed⟩

theorem Among.earlier (among : first.Among owner list (position + 1)) :
    first.Among owner list position := by
  rcases among with ⟨item, behind, below⟩ | ⟨item, behind, placed⟩
  · exact .inl ⟨item, Nat.le_of_succ_le behind, below⟩
  · exact .inr ⟨item, Nat.le_of_succ_le behind, placed⟩

end Purpose

/-- No two instructions of a plan do the same thing, unless they only compute. -/
def Distinct (plan : List Purpose) : Prop :=
  plan.Pairwise Purpose.Differs

namespace Distinct

variable {plan more : List Purpose}

theorem plain (count : Nat) : Distinct (List.replicate count .plain) := by
  refine List.pairwise_replicate.mpr ?_
  exact .inr fun labelled => absurd rfl labelled

theorem single (purpose : Purpose) : Distinct [purpose] :=
  List.pairwise_singleton _ _

theorem append (distinct : Distinct plan) (also : Distinct more)
    (apart : ∀ first ∈ plan, ∀ second ∈ more, first.Differs second) : Distinct (plan ++ more) :=
  List.pairwise_append.mpr ⟨distinct, also, apart⟩

theorem append_plain (distinct : Distinct plan) (count : Nat) :
    Distinct (plan ++ List.replicate count .plain) := by
  refine distinct.append (plain count) fun first _ second member => ?_
  rw [List.eq_of_mem_replicate member]
  exact id

/-- The plans of two children. -/
theorem children (distinct : Distinct plan) (also : Distinct more) {address : Address}
    {child other : Nat} (here : ∀ purpose ∈ plan, purpose.Within (child :: address))
    (there : ∀ purpose ∈ more, purpose.Within (other :: address)) (apart : child ≠ other) :
    Distinct (plan ++ more) :=
  distinct.append also fun first member second belongs =>
    (here first member).differs (there second belongs) apart

/-- The plan of an item, its own purpose, and the plans of the items behind it. -/
theorem item {owner list : Address} {position : Nat} {own : Purpose}
    (under : ∀ {purpose : Purpose} {item : Nat}, purpose.Within (item :: list) →
      ∃ child, purpose.Within (child :: owner))
    (placed : own.place? = some (owner, position)) (distinct : Distinct plan)
    (below : ∀ purpose ∈ plan, purpose.Within (position :: list)) (rest : Distinct more)
    (later : ∀ purpose ∈ more, purpose.Among owner list (position + 1)) :
    Distinct (plan ++ [own] ++ more) := by
  have differs_placed : ∀ {purpose second : Purpose} {item other : Nat},
      purpose.Within (item :: list) → second.place? = some (owner, other) →
      purpose.Differs second ∧ second.Differs purpose := by
    intro purpose second item other within placed
    obtain ⟨child, inside⟩ := under within
    have owns := Purpose.owner?_of_place? placed
    exact ⟨inside.differs_own owns, inside.own_differs owns⟩
  refine (distinct.append (.single _) fun first member => List.forall_mem_singleton.mpr
    (differs_placed (below first member) placed).1).append rest fun first member second behind => ?_
  rcases later second behind with ⟨other, further, inside⟩ | ⟨other, further, elsewhere⟩
  · rcases List.mem_append.mp member with here | self
    · exact (below first here).differs inside (by omega)
    · rw [List.mem_singleton.mp self]
      exact (differs_placed inside placed).2
  · rcases List.mem_append.mp member with here | self
    · exact (differs_placed (below first here) elsewhere).1
    · rw [List.mem_singleton.mp self]
      refine Purpose.differs_of_place? fun same => ?_
      rw [placed, elsewhere] at same
      cases same
      omega

/-- A purpose other than computing is that of one instruction. -/
theorem index_eq (distinct : Distinct plan) {index other : Nat} {purpose : Purpose}
    (here : plan[index]? = some purpose) (there : plan[other]? = some purpose)
    (labelled : purpose ≠ .plain) : index = other := by
  have apart := List.pairwise_iff_getElem.mp distinct
  obtain ⟨inside, same⟩ := List.getElem?_eq_some_iff.mp here
  obtain ⟨within, equal⟩ := List.getElem?_eq_some_iff.mp there
  rcases Nat.lt_trichotomy index other with earlier | equals | later
  · have differ := apart index other inside within earlier
    rw [same, equal] at differ
    exact absurd rfl (differ labelled)
  · exact equals
  · have differ := apart other index within inside later
    rw [same, equal] at differ
    exact absurd rfl (differ labelled)

end Distinct

namespace Node

open Purpose

theorem within_replicate (address : Address) (count : Nat) :
    ∀ purpose ∈ List.replicate count Purpose.plain, purpose.Within address := by
  intro purpose member
  rw [List.eq_of_mem_replicate member]
  exact within_plain

mutual

/-- The purposes of a value belong to its node or below. -/
theorem within_valuePlan (node : Node) (address : Address) :
    ∀ purpose ∈ valuePlan address node, purpose.Within address := by
  have plain := within_replicate address 1
  have child : ∀ (inner : Node) (position : Nat),
      (∀ purpose ∈ valuePlan (position :: address) inner, purpose.Within (position :: address)) →
      ∀ purpose ∈ valuePlan (position :: address) inner, purpose.Within address :=
    fun _ _ within purpose member => (within purpose member).up
  match node with
  | .missing | .value _ | .pattern _ | .test .. | .set _ | .call none _ => exact List.forall_mem_nil _
  | .field read => exact within_replicate _ _
  | .reference read => exact within_replicate _ _
  | .slice inner range? =>
    exact List.forall_mem_append.mpr ⟨child inner 0 (within_valuePlan inner _), plain⟩
  | .call (some definition) args =>
    unfold valuePlan
    split
    · match args with
      | [] => exact List.forall_mem_nil _
      | [argument] =>
        exact List.forall_mem_append.mpr ⟨child argument 0 (within_valuePlan argument _), plain⟩
      | _ :: _ :: _ => exact List.forall_mem_nil _
    split
    · exact within_replicate _ _
    · refine List.forall_mem_append.mpr ⟨fun purpose member => ?_, ?_⟩
      · rcases among_argumentsPlan args address 0 purpose member with ⟨_, _, below⟩ | ⟨_, _, placed⟩
        · exact below.up
        · exact within_self (owner?_of_place? placed)
      · simp only [List.forall_mem_cons]
        exact ⟨within_self rfl, within_self rfl, within_plain, List.forall_mem_nil _⟩
  | .arithmetic operator left right =>
    have first := child left 0 (within_valuePlan left _)
    unfold valuePlan
    split
    · exact List.forall_mem_append.mpr ⟨first, plain⟩
    · exact List.forall_mem_append.mpr ⟨List.forall_mem_append.mpr
        ⟨first, child right 1 (within_valuePlan right _)⟩, plain⟩

/-- The purposes of arguments belong to the arguments, or push one of them. -/
theorem among_argumentsPlan (args : List Node) (call : Address) (position : Nat) :
    ∀ purpose ∈ argumentsPlan call position args, purpose.Among call call position := by
  match args with
  | [] => exact List.forall_mem_nil _
  | argument :: rest =>
    refine List.forall_mem_append.mpr ⟨List.forall_mem_append.mpr ⟨fun purpose member => ?_,
      List.forall_mem_singleton.mpr (among_of_place? rfl)⟩, fun purpose member => ?_⟩
    · exact among_of_within (within_valuePlan argument _ purpose member)
    · exact (among_argumentsPlan rest call (position + 1) purpose member).earlier

end

mutual

/-- **The purposes of a value are distinct.** -/
theorem distinct_valuePlan (node : Node) (address : Address) :
    Distinct (valuePlan address node) := by
  match node with
  | .missing | .value _ | .pattern _ | .test .. | .set _ | .call none _ => exact List.Pairwise.nil
  | .field read => exact .plain _
  | .reference read => exact .plain _
  | .slice inner range? => exact (distinct_valuePlan inner _).append_plain 1
  | .call (some definition) args =>
    unfold valuePlan
    split
    · match args with
      | [] => exact List.Pairwise.nil
      | [argument] => exact (distinct_valuePlan argument _).append_plain 1
      | _ :: _ :: _ => exact List.Pairwise.nil
    split
    · exact .plain _
    · refine (distinct_argumentsPlan args address 0).append ?_ fun first member => ?_
      · simp [Distinct, Differs]
      · simp only [List.forall_mem_cons]
        rcases among_argumentsPlan args address 0 first member with
          ⟨_, _, below⟩ | ⟨_, _, placed⟩
        · exact ⟨below.differs_own rfl, below.differs_own rfl, id, List.forall_mem_nil _⟩
        · exact ⟨differs_unplaced placed rfl, differs_unplaced placed rfl, id, List.forall_mem_nil _⟩
  | .arithmetic operator left right =>
    unfold valuePlan
    split
    · exact (distinct_valuePlan left _).append_plain 1
    · exact ((distinct_valuePlan left _).children (distinct_valuePlan right _)
        (within_valuePlan left _) (within_valuePlan right _) Nat.zero_ne_one).append_plain 1

/-- The purposes of arguments are distinct. -/
theorem distinct_argumentsPlan (args : List Node) (call : Address) (position : Nat) :
    Distinct (argumentsPlan call position args) := by
  match args with
  | [] => exact List.Pairwise.nil
  | argument :: rest =>
    exact .item (fun within => ⟨_, within⟩) rfl (distinct_valuePlan argument _)
      (within_valuePlan argument _) (distinct_argumentsPlan rest call (position + 1))
      (among_argumentsPlan rest call (position + 1))

end

/-- The purposes of elements belong to the elements, or add one of them. -/
theorem among_elementsPlan (elements : List Element) (test : Address) (position : Nat) :
    ∀ purpose ∈ elementsPlan test position elements,
      purpose.Among test (1 :: test) position := by
  have value : ∀ (node : Node) (child : Nat), ∀ purpose ∈
      valuePlan (child :: position :: 1 :: test) node, purpose.Among test (1 :: test) position :=
    fun node child purpose member => among_of_within (within_valuePlan node _ purpose member).up
  have own : ∀ element, ∀ purpose ∈ [Purpose.add test position element],
      purpose.Among test (1 :: test) position :=
    fun element => List.forall_mem_singleton.mpr (among_of_place? rfl)
  match elements with
  | [] => exact List.forall_mem_nil _
  | .single low :: rest =>
    exact List.forall_mem_append.mpr ⟨List.forall_mem_append.mpr ⟨value low 0, own _⟩,
      fun purpose member => (among_elementsPlan rest test (position + 1) purpose member).earlier⟩
  | .between low high :: rest =>
    exact List.forall_mem_append.mpr ⟨List.forall_mem_append.mpr
      ⟨List.forall_mem_append.mpr ⟨value low 0, value high 1⟩, own _⟩,
      fun purpose member => (among_elementsPlan rest test (position + 1) purpose member).earlier⟩

/-- The purposes of elements are distinct. -/
theorem distinct_elementsPlan (elements : List Element) (test : Address) (position : Nat) :
    Distinct (elementsPlan test position elements) := by
  match elements with
  | [] => exact List.Pairwise.nil
  | .single low :: rest =>
    exact .item (fun within => ⟨1, within.up⟩) rfl
      (distinct_valuePlan low _) (fun purpose member => (within_valuePlan low _ purpose member).up)
      (distinct_elementsPlan rest test (position + 1))
      (among_elementsPlan rest test (position + 1))
  | .between low high :: rest =>
    refine .item (fun within => ⟨1, within.up⟩) rfl
      ((distinct_valuePlan low _).children (distinct_valuePlan high _)
        (within_valuePlan low _) (within_valuePlan high _) Nat.zero_ne_one)
      (List.forall_mem_append.mpr ⟨fun purpose member => (within_valuePlan low _ purpose member).up,
        fun purpose member => (within_valuePlan high _ purpose member).up⟩)
      (distinct_elementsPlan rest test (position + 1))
      (among_elementsPlan rest test (position + 1))

/-- The purposes of a set belong below its node or hand over elements to the test. -/
theorem within_set (elements : List Element) (test : Address) :
    ∀ purpose ∈ elementsPlan test 0 elements,
      purpose.Within (1 :: test) ∨ ∃ position, purpose.place? = some (test, position) := by
  intro purpose member
  rcases among_elementsPlan elements test 0 purpose member with ⟨_, _, below⟩ | ⟨position, _, placed⟩
  · exact .inl below.up
  · exact .inr ⟨position, placed⟩

theorem within_comparisonPlan (address : Address) (left right : Node) :
    ∀ purpose ∈ comparisonPlan address left right, purpose.Within address := by
  have first : ∀ purpose ∈ valuePlan (0 :: address) left, purpose.Within address :=
    fun purpose member => (within_valuePlan left _ purpose member).up
  unfold comparisonPlan
  split
  · refine List.forall_mem_append.mpr ⟨List.forall_mem_append.mpr ⟨first, fun purpose member => ?_⟩,
      ?_⟩
    · rcases within_set _ address purpose member with below | ⟨_, placed⟩
      · exact below.up
      · exact within_self (owner?_of_place? placed)
    · simp only [List.forall_mem_cons]
      exact ⟨within_self rfl, within_self rfl, List.forall_mem_nil _⟩
  · exact List.forall_mem_append.mpr ⟨List.forall_mem_append.mpr ⟨first, fun purpose member =>
      (within_valuePlan right _ purpose member).up⟩, within_replicate address 1⟩

theorem distinct_comparisonPlan (address : Address) (left right : Node) :
    Distinct (comparisonPlan address left right) := by
  have below := within_valuePlan left (0 :: address)
  unfold comparisonPlan
  split
  · rename_i elements
    refine ((distinct_valuePlan left _).append (distinct_elementsPlan elements address 0)
      fun first member second later => ?_).append ?_ fun first member => ?_
    · rcases within_set elements address second later with further | ⟨_, placed⟩
      · exact (below first member).differs further Nat.zero_ne_one
      · exact (below first member).differs_own (owner?_of_place? placed)
    · simp [Distinct, Differs]
    · simp only [List.forall_mem_cons]
      rcases List.mem_append.mp member with inside | own
      · exact ⟨(below first inside).differs_own rfl, (below first inside).differs_own rfl,
          List.forall_mem_nil _⟩
      · rcases within_set elements address first own with further | ⟨_, placed⟩
        · exact ⟨further.differs_own rfl, further.differs_own rfl, List.forall_mem_nil _⟩
        · exact ⟨differs_unplaced placed rfl, differs_unplaced placed rfl, List.forall_mem_nil _⟩
  · exact ((distinct_valuePlan left _).children (distinct_valuePlan right _) below
      (within_valuePlan right _) Nat.zero_ne_one).append_plain 1

/-- The purposes of a truth value belong to its node or below. -/
theorem within_testPlan (node : Node) (returnValues : Bool) (address : Address) :
    ∀ purpose ∈ testPlan returnValues address node, purpose.Within address := by
  have plain := within_replicate address 1
  have value := fun node => within_valuePlan node address
  match node with
  | .missing | .value _ | .pattern _ | .reference _ | .set _ => exact List.forall_mem_nil _
  | .test operator quantifier left right =>
    have first : ∀ purpose ∈ testPlan false (0 :: address) left, purpose.Within address :=
      fun purpose member => (within_testPlan left false _ purpose member).up
    have second : ∀ purpose ∈ testPlan false (1 :: address) right, purpose.Within address :=
      fun purpose member => (within_testPlan right false _ purpose member).up
    have both := List.forall_mem_append.mpr ⟨List.forall_mem_append.mpr ⟨first, plain⟩, second⟩
    unfold testPlan
    split
    · exact List.forall_mem_append.mpr ⟨first, plain⟩
    · exact both
    · exact both
    · exact within_comparisonPlan address left right
  | .field read =>
    unfold testPlan
    split
    · exact within_replicate _ _
    · exact plain
  | .arithmetic operator left right => exact List.forall_mem_append.mpr ⟨value _, plain⟩
  | .call definition? arguments => exact List.forall_mem_append.mpr ⟨value _, plain⟩
  | .slice inner range? =>
    exact List.forall_mem_append.mpr ⟨value _, within_replicate address 2⟩

/-- **The purposes of a truth value are distinct.** -/
theorem distinct_testPlan (node : Node) (returnValues : Bool) (address : Address) :
    Distinct (testPlan returnValues address node) := by
  match node with
  | .missing | .value _ | .pattern _ | .reference _ | .set _ => exact List.Pairwise.nil
  | .test operator quantifier left right =>
    have first := (distinct_testPlan left false (0 :: address)).append_plain 1
    have both := first.children (distinct_testPlan right false (1 :: address))
      (List.forall_mem_append.mpr ⟨within_testPlan left false _, within_replicate _ 1⟩)
      (within_testPlan right false _) Nat.zero_ne_one
    unfold testPlan
    split
    · exact first
    · exact both
    · exact both
    · exact distinct_comparisonPlan address left right
  | .field read =>
    unfold testPlan
    split
    · exact .plain _
    · exact .plain 1
  | .arithmetic operator left right => exact (distinct_valuePlan _ _).append_plain 1
  | .call definition? arguments => exact (distinct_valuePlan _ _).append_plain 1
  | .slice inner range? => exact (distinct_valuePlan _ _).append_plain 2

/-- **The purposes of a tree are distinct.** -/
theorem distinct_plan (returnValues : Bool) (root : Node) : Distinct (root.plan returnValues) :=
  (distinct_testPlan root returnValues []).append_plain 1

end Node

end DisplayFilter
