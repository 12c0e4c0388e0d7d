/-
**Compiled trees outlive registrations.**

Fields registered later are hooked in behind the chains of a table, or start chains of their own. So
the fields that were there keep their canonical field, and their chains only get longer at the end.
A tree over these fields is compiled as before; only the list of interesting fields grows by the
newcomers of the chains that the program reads.

* `Table.registerAll`: a table with more fields.
* `Table.growth`: fields stand for themselves while their table grows.
* `Code.Grown`: what becomes of a program.
* `compileTree_growth`: compiling a tree before and after more fields are registered.
-/

import DisplayFilter.Proofs.Compiler.Reads
import DisplayFilter.Proofs.Interchange.SameName

namespace DisplayFilter

/-! ### Tables that grow -/

namespace Table

variable (registrations more : List (RawText × RawText × RawText))

/-- The table with more fields registered in order. -/
def registerAll (table : Table) (more : List (RawText × RawText × RawText)) : Table :=
  more.foldl (fun table field => (table.register field.1 field.2.1 field.2.2).2) table

theorem registerAll_ofList :
    (ofList registrations).registerAll more = ofList (registrations ++ more) :=
  (List.foldl_append ..).symm

/-- The fields that were there come first, and their numbers are lower. -/
theorem registered_append : ∃ later,
    registered (registrations ++ more) = registered registrations ++ later ∧
      (∀ field ∈ registered registrations, field.id < (ofList registrations).size) ∧
      ∀ field ∈ later, (ofList registrations).size ≤ field.id := by
  have chained := chained_ofList registrations
  refine ⟨_, List.mapIdx_append, fun field member => ?_, fun field member => ?_⟩
  · obtain ⟨id, found⟩ := List.mem_iff_getElem?.mp member
    rw [chained.ids id field found, chained.size]
    exact Int.ofNat_lt.mpr (List.getElem?_eq_some_iff.mp found).1
  · obtain ⟨index, within, rfl⟩ := List.mem_mapIdx.mp member
    rw [chained.size, registered, List.length_mapIdx]
    exact Int.ofNat_le.mpr (Nat.le_add_left _ _)

/-- The fields that were there still are. -/
theorem lists_append {registrations : List (RawText × RawText × RawText)} {field : Field}
    (lists : (ofList registrations).Lists field)
    (more : List (RawText × RawText × RawText)) :
    (ofList (registrations ++ more)).Lists field := by
  obtain ⟨later, split, _⟩ := registered_append registrations more
  refine (chained_ofList (registrations ++ more)).lists_iff.mpr (split ▸ ?_)
  exact List.mem_append_left later ((chained_ofList registrations).lists_iff.mp lists)

end Table

/-- Adding fields, of which only some are wanted, adds the wanted ones to those that are. -/
theorem filter_foldl_addOnce (wanted : Field → Bool) (fields known : List Field) :
    (fields.foldl addOnce known).filter wanted =
      (fields.filter wanted).foldl addOnce (known.filter wanted) := by
  induction fields generalizing known with
  | nil => rfl
  | cons field fields ih =>
    have added : (addOnce known field).filter wanted =
        if wanted field then addOnce (known.filter wanted) field else known.filter wanted := by
      unfold addOnce
      split
      · simp_all
      · rename_i new
        rw [List.filter_append, List.filter_singleton]
        cases held : wanted field <;> simp [new]
    rw [List.foldl_cons, ih, added, List.filter_cons]
    split <;> rfl

theorem fieldsNamed_append (fields later : List Field) (name : RawText) :
    fieldsNamed (fields ++ later) name = fieldsNamed fields name ++ fieldsNamed later name :=
  List.filter_append ..

/-! ### What a registry answers that follows a table -/

section Follows

variable {registry : Registry} {table : Table} {fields : List Field} {field : Field}
  (follows : registry.FollowsChains table) (chained : table.Chained fields)
  (member : field ∈ fields)

include follows chained member

theorem Registry.FollowsChains.canonical_head :
    (fieldsNamed fields field.abbreviation).head? = some (registry.canonical field) := by
  rw [(follows field (chained.lists_iff.mpr member)).1]
  exact chained.canonical member

/-- The field that stands for another one is one of its chain. -/
theorem Registry.FollowsChains.canonical_mem : registry.canonical field ∈ fields ∧
    (registry.canonical field).abbreviation = field.abbreviation := by
  have head := List.mem_of_mem_head? (follows.canonical_head chained member)
  exact ⟨(List.mem_filter.mp head).1, of_decide_eq_true (List.mem_filter.mp head).2⟩

/-- What is noted where a field is read. -/
theorem Registry.FollowsChains.siblings_canonical :
    registry.siblings (registry.canonical field) = fieldsNamed fields field.abbreviation := by
  obtain ⟨among, named⟩ := follows.canonical_mem chained member
  rw [(follows _ (chained.lists_iff.mpr among)).2, chained.siblings among, named]

end Follows

section Growing

variable {registrations more : List (RawText × RawText × RawText)} {registry registry' : Registry}
  (follows : registry.FollowsChains (.ofList registrations))
  (follows' : registry'.FollowsChains ((Table.ofList registrations).registerAll more))

include follows follows'

/-- The field that stands for another one still does. -/
theorem canonical_registerAll {field : Field} (lists : (Table.ofList registrations).Lists field) :
    registry'.canonical field = registry.canonical field := by
  rw [Table.registerAll_ofList] at follows'
  obtain ⟨later, split, _⟩ := Table.registered_append registrations more
  have chained := Table.chained_ofList registrations
  have grown := Table.chained_ofList (registrations ++ more)
  have member := chained.lists_iff.mp lists
  have here := follows.canonical_head chained member
  have there := follows'.canonical_head grown (grown.lists_iff.mp (Table.lists_append lists more))
  rw [split, fieldsNamed_append, List.head?_append, here, Option.some_or] at there
  exact (Option.some.inj there).symm

/-- The fields of a chain that were there are noted as before. -/
theorem siblings_registerAll {field : Field} (lists : (Table.ofList registrations).Lists field) :
    (registry'.siblings (registry.canonical field)).filter
        (fun other : Field => other.id < (Table.ofList registrations).size) =
      registry.siblings (registry.canonical field) := by
  have same := canonical_registerAll follows follows' lists
  rw [Table.registerAll_ofList] at follows'
  obtain ⟨later, split, below, above⟩ := Table.registered_append registrations more
  have chained := Table.chained_ofList registrations
  have grown := Table.chained_ofList (registrations ++ more)
  have member := chained.lists_iff.mp lists
  have there := follows'.siblings_canonical grown
    (grown.lists_iff.mp (Table.lists_append lists more))
  have old : (fieldsNamed (Table.registered registrations) field.abbreviation).filter
      (fun other : Field => other.id < (Table.ofList registrations).size) =
        fieldsNamed (Table.registered registrations) field.abbreviation :=
    List.filter_eq_self.mpr fun other noted =>
      decide_eq_true (below other (List.mem_filter.mp noted).1)
  have new : (fieldsNamed later field.abbreviation).filter
      (fun other : Field => other.id < (Table.ofList registrations).size) = [] :=
    List.filter_eq_nil_iff.mpr fun other noted early =>
      Int.not_lt.mpr (above other (List.mem_filter.mp noted).1) (of_decide_eq_true early)
  rw [follows.siblings_canonical chained member, ← same, there, split, fieldsNamed_append,
    List.filter_append, old, new, List.append_nil]

end Growing

/-- **Fields stand for themselves while their table grows.** -/
def Table.growth (registrations more : List (RawText × RawText × RawText))
    {registry registry' : Registry} (follows : registry.FollowsChains (ofList registrations))
    (follows' : registry'.FollowsChains ((ofList registrations).registerAll more)) :
    Pairing registry registry' where
  same field other := field = other ∧ (ofList registrations).Lists field
  noted fields fields' :=
    fields'.filter (fun field : Field => field.id < (ofList registrations).size) = fields
  named := by
    rintro field _ ⟨rfl, _⟩
    rfl
  start := rfl
  canonical := by
    rintro field _ ⟨rfl, lists⟩
    exact canonical_registerAll follows follows' lists
  noting := by
    rintro field _ fields fields' ⟨rfl, lists⟩ rfl
    rw [filter_foldl_addOnce, siblings_registerAll follows follows' lists]

/-! ### Programs while tables grow -/

namespace Code

variable {code code' : Code}

/-- What becomes of the code of a tree when its table grows. -/
structure Grown (table grown : Table) (code code' : Code) : Prop where
  instructions : code'.instructions = code.instructions
  arena : code'.arena = code.arena
  registers : code'.registers = code.registers
  references : code'.references = code.references
  rawReferences : code'.rawReferences = code.rawReferences
  /-- Without the newcomers, the interesting fields are those from before, in their order. -/
  interesting :
    code'.interesting.filter (fun field : Field => field.id < table.size) = code.interesting
  /-- A newcomer has the abbreviation of a field that some instruction reads. -/
  added : ∀ field ∈ code'.interesting, table.size ≤ field.id → grown.Lists field ∧
    ∃ reading ∈ code'.readings, ∃ read raw, code'.fieldRead? reading = some (read, raw) ∧
      read.abbreviation = field.abbreviation

/-- Where the same tables are applied, alike code has the same operands. -/
theorem Alike.arena_eq {noted : List Field → List Field → Prop} {written : List Field}
    (alike : code.Alike noted written written code') : code'.arena = code.arena := by
  have operands (handle : Handle) : code'.operand handle = code.operand handle := by
    by_cases table : handle ∈ code.tableHandles
    · exact (List.map_inj_left.mp (alike.tables'.trans alike.tables.symm)) handle table
    · exact alike.operand handle table
  refine Array.ext alike.size fun position here there => ?_
  have same := operands position
  unfold Code.operand at same
  rwa [operandAt_natCast, operandAt_natCast, Array.getElem?_eq_getElem here,
    Array.getElem?_eq_getElem there] at same

end Code

/-- Code generation comes by no other sites than those of the tree. -/
theorem Node.visited_subset (node : Node) (position : Position) :
    node.visited position ⊆ node.sites position := by
  match node with
  | .missing | .reference _ | .value _ | .pattern _ | .set _ | .field _ | .arithmetic _ _ _
  | .call _ _ | .slice _ _ => exact List.Subset.refl _
  | .test operator quantifier left right =>
    by_cases logical : operator.isLogical = true
    · have first := visited_subset left .truth
      have second := visited_subset right .truth
      rw [sites_test, Operator.operandPosition, if_pos logical]
      obtain rfl | rfl | rfl := Operator.eq_of_isLogical logical
      · exact fun site member => List.mem_append_left _ (first member)
      · exact List.append_subset.mpr ⟨List.subset_append_of_subset_left _ first,
          List.subset_append_of_subset_right _ second⟩
      · exact List.append_subset.mpr ⟨List.subset_append_of_subset_left _ first,
          List.subset_append_of_subset_right _ second⟩
    · rw [Bool.not_eq_true] at logical
      rw [visited_comparison logical, sites_test, Operator.operandPosition, logical]
      exact List.Subset.refl _

/-! ### Main result -/

/-- The fields that code names where it reads sites. -/
theorem Code.map_fieldRead? {code : Code} {registry : Registry} {readings : List Instruction}
    {sites : List Site} (reads : List.Forall₂ (code.ReadsFor registry) readings sites) :
    readings.map code.fieldRead? = sites.map fun site =>
      site.read.field?.map fun written => (registry.canonical written, site.raw) := by
  refine map_eq_of_forall₂ reads fun reading site here => ?_
  obtain ⟨written, given, read⟩ := here.fieldRead?
  rw [read, given, Option.map_some]

/-- Where the fields of a tree are in a table, all fields that are noted are, and each has the
abbreviation of a field that is read. -/
theorem compileTree_noted {table : Table} {fields : List Field} {config : CompileConfig}
    {root : Node} {code : Code} {events : List CompileEvent} (chained : table.Chained fields)
    (follows : config.registry.FollowsChains table)
    (covered : ∀ field ∈ fieldsOf (root.preorder.filterMap Node.read?), table.Lists field)
    (compiled : compileTree config root = .ok (code, events)) {field : Field}
    (noted : field ∈ code.interesting) : table.Lists field ∧
      ∃ reading ∈ code.readings, ∃ read raw, code.fieldRead? reading = some (read, raw) ∧
        read.abbreviation = field.abbreviation := by
  have records := compileTree_records compiled
  obtain ⟨added, readings, reads⟩ := records.reads
  obtain rfl : code.readings = added := readings
  obtain ⟨site, visited, here⟩ : ∃ site ∈ root.visited (rootPosition config.returnValues),
      field ∈ site.interests config.registry := by
    rw [records.interesting.trans (foldl_addOnce _), List.mem_eraseDups] at noted
    exact List.mem_flatMap.mp noted
  obtain ⟨written, given⟩ : ∃ written, site.read.field? = some written := by
    refine Option.ne_none_iff_exists'.mp fun unknown => ?_
    rw [Site.interests, unknown] at here
    cases here
  have member : written ∈ fields := by
    refine chained.lists_iff.mp (covered written (List.mem_filterMap.mpr ⟨site.read, ?_, given⟩))
    rw [← root.map_read_sites (rootPosition config.returnValues)]
    exact List.mem_map_of_mem (root.visited_subset _ visited)
  obtain ⟨among, named⟩ := follows.canonical_mem chained member
  rw [Site.interests_eq given, follows.siblings_canonical chained member] at here
  obtain ⟨listed, same⟩ := List.mem_filter.mp here
  obtain ⟨reading, reads, read⟩ := List.mem_map.mp
    (Code.map_fieldRead? reads ▸ List.mem_map_of_mem visited)
  refine ⟨chained.lists_iff.mpr listed, reading, reads, config.registry.canonical written, site.raw,
    ?_, ?_⟩
  · rw [read, given, Option.map_some]
  · rw [named, of_decide_eq_true same]

/-- **Compiled trees outlive registrations.** Take any fields registered in a table, a tree over
these fields and a registry that follows the chains of the table. When any more fields are registered
and the registry follows the grown chains, the tree is refused with the same fault as before, or it
is compiled to the same instructions with the same operands, registers and references. The fields
noted as interesting that were in the table are the same in the same order, and each of the others
is a field of the grown table with the abbreviation of a field that the program reads. -/
theorem compileTree_growth (registrations more : List (RawText × RawText × RawText))
    (config : CompileConfig) (registry' : Registry) (root : Node)
    (follows : config.registry.FollowsChains (.ofList registrations))
    (follows' : registry'.FollowsChains ((Table.ofList registrations).registerAll more))
    (covered : ∀ field ∈ fieldsOf (root.preorder.filterMap Node.read?),
      (Table.ofList registrations).Lists field) :
    Agree (fun compiled compiled' => compiled.1.Grown (.ofList registrations)
        ((Table.ofList registrations).registerAll more) compiled'.1)
      (compileTree config root) (compileTree { config with registry := registry' } root) := by
  -- Every read of the tree is of a field that stands for itself.
  have alike : root.Alike (Table.growth registrations more follows follows').same root := by
    refine Node.alike_self fun below member => ?_
    have reads : ∀ read, below.read? = some read →
        read.Alike (Table.growth registrations more follows follows').same read := by
      intro read given
      obtain ⟨field?, range?, raw, valueString⟩ := read
      cases field? with
      | none => exact .unknown ..
      | some field =>
        have known : field ∈ fieldsOf (root.preorder.filterMap Node.read?) :=
          List.mem_filterMap.mpr ⟨_, List.mem_filterMap.mpr ⟨below, member, given⟩, rfl⟩
        exact .known ⟨rfl, covered field known⟩ ..
    cases below with
    | field read | reference read => exact reads read rfl
    | _ => trivial
  have agree := compileTree_agrees config root root _ alike
  generalize compileTree config root = before,
    after : compileTree { config with registry := registry' } root = now at agree
  cases agree with
  | error fault => exact .error fault
  | ok held =>
    rw [Table.registerAll_ofList] at follows' ⊢
    refine .ok ⟨held.instructions, held.arena_eq, held.registers, held.references,
      held.rawReferences, held.interesting, fun field noted _ => ?_⟩
    exact compileTree_noted (Table.chained_ofList _) follows'
      (fun field member => Table.lists_append (covered field member) more) after noted

/-- A program that reads a field whose chain got longer, before and after. -/
theorem tableTest_growth :
    ∃ code events code' events',
      compileTree ⟨(Table.ofList twoNames).registry, true, false, false⟩
        (tableTest (firstNamed 0) (firstNamed 2) (firstNamed 0)) = .ok (code, events) ∧
      compileTree ⟨((Table.ofList twoNames).registerAll [(.ofString "a", .empty, .empty),
          (.ofString "c", .empty, .empty)]).registry, true, false, false⟩
        (tableTest (firstNamed 0) (firstNamed 2) (firstNamed 0)) = .ok (code', events') ∧
      code.Grown (.ofList twoNames) ((Table.ofList twoNames).registerAll
        [(.ofString "a", .empty, .empty), (.ofString "c", .empty, .empty)]) code' := by
  obtain ⟨⟨code, events⟩, compiled⟩ := tableTest_compiles (Table.ofList twoNames).registry
    (firstNamed 0) (firstNamed 2) (firstNamed 0)
  have covered : ∀ field ∈ [firstNamed 0, firstNamed 2, firstNamed 0],
      (Table.ofList twoNames).Lists field := by
    rw [List.forall_mem_cons, List.forall_mem_cons, List.forall_mem_singleton]
    exact ⟨firstNamed_lists (.inl rfl), firstNamed_lists (.inr rfl), firstNamed_lists (.inl rfl)⟩
  obtain ⟨⟨code', events'⟩, also, grown⟩ := Agree.of_ok (compileTree_growth twoNames
    [(.ofString "a", .empty, .empty), (.ofString "c", .empty, .empty)] _ _
    (tableTest (firstNamed 0) (firstNamed 2) (firstNamed 0)) (Table.registry_followsChains _)
    (Table.registry_followsChains _) covered) compiled
  exact ⟨code, events, code', events', compiled, also, grown⟩

end DisplayFilter
