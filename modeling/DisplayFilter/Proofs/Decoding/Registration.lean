/-
**Fields that are registered while a document is decoded.**

Without a field table every abbreviation of a document is registered when it is first met. The table
then numbers the abbreviations of the tree by their first occurrence, each field stands for itself
alone, and since code generation comes by the same fields in the same order, the fields that the
program reads are those of the table from the first to the last.

* `Table.Numbers`: a table numbers the names of a list.
* `Table.Numbers.registering`, `Resolved.numbers`: one resolved abbreviation, and all of a tree.
* `NumbersFields`: a table holds the fields of a tree, and a program reads them.
* `decoded_numbersFields`: so it is with decoded outlines and with documents.
-/

import DisplayFilter.Proofs.Compiler.Reads
import DisplayFilter.Proofs.Decoding.Findings
import DisplayFilter.Proofs.Field.Chains

namespace DisplayFilter

namespace Table

variable {table after : Table} {names seen : List RawText} {name : RawText} {field : Field}

/-- The table numbers the names of a list in order; each of them has one field and no other. -/
structure Numbers (table : Table) (names : List RawText) : Prop where
  entry : ∀ id : Nat, table.entries[id]? =
    names[id]?.map fun name => ⟨⟨id, name, .empty, .empty⟩, none, none⟩
  latest : ∀ (name : RawText) (id : Nat), table.latest? name = some id ↔ names[id]? = some name
  size : table.size = names.length

/-- A name without a field is registered as a chain of its own. -/
theorem register_unknown (absent : table.latest? name = none) :
    (table.register name .empty .empty).2 =
      ⟨table.entries.push ⟨⟨table.size, name, .empty, .empty⟩, none, none⟩,
        (name, table.size) :: table.latest⟩ := by
  have others : table.latest.filter (fun entry => entry.1 != name) = table.latest := by
    rw [List.filter_eq_self]
    intro entry member
    have differs := List.lookup_eq_none_iff.mp absent entry member
    rwa [bne_comm] at differs
  simp only [Table.register, absent, others]

theorem latest?_register (absent : table.latest? name = none) (other : RawText) :
    (table.register name .empty .empty).2.latest? other =
      if other = name then some table.size else table.latest? other := by
  rw [register_unknown absent, latest?, List.lookup_cons]
  by_cases same : other = name
  · rw [if_pos same, beq_iff_eq.mpr same]
  · rw [if_neg same, beq_eq_false_iff_ne.mpr same]
    rfl

theorem numbers_empty : Numbers .empty [] :=
  ⟨fun _ => rfl, fun _ _ => by simp [latest?, empty], rfl⟩

namespace Numbers

theorem field? (numbers : table.Numbers names) (id : Nat) :
    table.field? id = names[id]?.map fun name => ⟨id, name, .empty, .empty⟩ := by
  rw [Table.field?, numbers.entry, Option.map_map]
  rfl

theorem lists_iff (numbers : table.Numbers names) :
    table.Lists field ↔ ∃ (id : Nat) (name : RawText), names[id]? = some name ∧
      field = ⟨id, name, .empty, .empty⟩ := by
  rw [Lists, numbers.field?, Option.map_eq_some_iff]
  constructor
  · rintro ⟨name, found, same⟩
    exact ⟨_, name, found, same.symm⟩
  · rintro ⟨id, name, found, rfl⟩
    exact ⟨name, found, rfl⟩

/-! ### Fields stand for themselves -/

theorem first (numbers : table.Numbers names) (id : Nat) : table.first id = id := by
  have none : table.previous? id = none := by
    rw [previous?, numbers.entry]
    cases names[id]? <;> rfl
  rw [Table.first, none]

theorem chainFrom (numbers : table.Numbers names) (id : Nat) : table.chainFrom id = [id] := by
  have none : table.next? id = none := by
    rw [next?, numbers.entry]
    cases names[id]? <;> rfl
  rw [Table.chainFrom, none]

theorem canonical (numbers : table.Numbers names) (lists : table.Lists field) :
    table.canonical field = field := by
  rw [Table.canonical, lists.place?, Option.bind_some, numbers.first, lists, Option.getD_some]

theorem siblings (numbers : table.Numbers names) (lists : table.Lists field) :
    table.siblings field = [field] := by
  unfold Table.siblings
  rw [lists.place?]
  dsimp only
  rw [numbers.first, numbers.chainFrom, List.filterMap_cons_some lists, List.filterMap_nil]

/-! ### Registering -/

theorem lookup?_known (numbers : table.Numbers names) {id : Nat} (known : names[id]? = some name) :
    table.lookup? name = some ⟨id, name, .empty, .empty⟩ := by
  rw [lookup?, (numbers.latest name id).mpr known, Option.bind_some, numbers.first, numbers.field?,
    known, Option.map_some]

theorem latest?_unknown (numbers : table.Numbers names) (unknown : name ∉ names) :
    table.latest? name = none := by
  rw [Option.eq_none_iff_forall_ne_some]
  intro id found
  exact unknown (List.mem_of_getElem? ((numbers.latest name id).mp found))

/-- A new name is numbered behind the others. -/
theorem register (numbers : table.Numbers names) (unknown : name ∉ names) :
    (table.register name .empty .empty).2.Numbers (names ++ [name]) := by
  have absent := numbers.latest?_unknown unknown
  have size : table.entries.size = names.length := numbers.size
  refine ⟨fun id => ?_, fun other id => ?_, ?_⟩
  · rw [register_unknown absent, Array.getElem?_push, getElem?_concat, numbers.entry, numbers.size,
      size]
    split
    · rename_i same
      rw [same]
      rfl
    · rfl
  · rw [latest?_register absent, getElem?_concat, ← numbers.size]
    by_cases last : id = table.size
    · -- Only the new name has the new number.
      have late : names[id]? = none :=
        List.getElem?_eq_none (Nat.le_of_eq (by rw [last, numbers.size]))
      have fresh : table.latest? other ≠ some id := by
        rw [ne_eq, numbers.latest, late]
        exact nofun
      rw [if_pos last, Option.some_inj, ← last]
      split
      · rename_i same
        exact iff_of_true rfl same.symm
      · rename_i differs
        exact iff_of_false fresh (Ne.symm differs)
    · rw [if_neg last, ← numbers.latest]
      split
      · rename_i same
        rw [same, absent]
        exact iff_of_false (fun found => last (Option.some.inj found).symm) nofun
      · rfl
  · rw [register_unknown absent, Table.size, Array.size_push, size, List.length_append,
      List.length_singleton]

theorem register_lists (numbers : table.Numbers names) (unknown : name ∉ names)
    (lists : table.Lists field) : (table.register name .empty .empty).2.Lists field := by
  obtain ⟨id, known, found, same⟩ := numbers.lists_iff.mp lists
  refine (numbers.register unknown).lists_iff.mpr ⟨id, known, ?_, same⟩
  exact List.getElem?_append_left (List.getElem?_eq_some_iff.mp found).1 ▸ found

/-- **One abbreviation is resolved.** It is numbered behind those seen before unless it is among
them; its field stands in the table, and so do the earlier ones. -/
theorem registering (numbers : table.Numbers seen.eraseDups)
    (found : Resolver.registering name table = .ok (field, after)) :
    field.abbreviation = name ∧ after.Numbers (seen ++ [name]).eraseDups ∧ after.Lists field ∧
      ∀ other, table.Lists other → after.Lists other := by
  unfold Resolver.registering at found
  rw [eraseDups_concat]
  -- A name seen before is found in the table, a new one is registered.
  by_cases known : name ∈ seen
  · obtain ⟨id, there⟩ := List.mem_iff_getElem?.mp (List.mem_eraseDups.mpr known)
    rw [numbers.lookup?_known there] at found
    cases found
    rw [if_pos known]
    exact ⟨rfl, numbers, numbers.lists_iff.mpr ⟨id, name, there, rfl⟩, fun _ lists => lists⟩
  · have unknown : name ∉ seen.eraseDups := fun member => known (List.mem_eraseDups.mp member)
    have absent : table.lookup? name = none := by
      rw [lookup?, numbers.latest?_unknown unknown, Option.bind_none]
    rw [absent] at found
    cases found
    rw [if_neg known]
    have registered := numbers.register unknown
    refine ⟨rfl, registered, registered.lists_iff.mpr ⟨table.size, name, ?_, rfl⟩,
      fun _ lists => numbers.register_lists unknown lists⟩
    exact (getElem?_concat _ name table.size).trans (if_pos numbers.size)

/-- A name stands at one place. -/
theorem index_eq (numbers : table.Numbers names) {index other : Nat}
    (here : names[index]? = some name) (there : names[other]? = some name) : index = other := by
  have found := (numbers.latest name index).mpr here
  rw [(numbers.latest name other).mpr there] at found
  exact (Option.some.inj found).symm

/-- Different fields have different abbreviations. -/
theorem eq_of_abbreviation (numbers : table.Numbers names) {other : Field}
    (lists : table.Lists field) (also : table.Lists other)
    (same : field.abbreviation = other.abbreviation) : field = other := by
  obtain ⟨id, name, found, rfl⟩ := numbers.lists_iff.mp lists
  obtain ⟨otherId, otherName, otherFound, rfl⟩ := numbers.lists_iff.mp also
  obtain rfl : name = otherName := same
  rw [numbers.index_eq found otherFound]

/-- The number of a field is the place of its name. -/
theorem id_eq (numbers : table.Numbers names) (lists : table.Lists field) {index : Nat}
    (here : names[index]? = some field.abbreviation) : field.id = index := by
  obtain ⟨id, name, found, rfl⟩ := numbers.lists_iff.mp lists
  exact congrArg _ (numbers.index_eq found here)

end Numbers

end Table

/-! ### All fields of a tree -/

/-- The fields that are read. -/
def fieldsOf (reads : List FieldRead) : List Field :=
  reads.filterMap FieldRead.field?

/-- **All abbreviations are resolved.** The table numbers them by their first occurrence behind those
seen before, and every field that is read stands in it. -/
theorem Resolved.numbers {before after : Table} {reads : List FieldRead}
    (resolved : Resolved .registering before reads after) {seen : List RawText}
    (numbers : before.Numbers seen.eraseDups) :
    after.Numbers (seen ++ (fieldsOf reads).map Field.abbreviation).eraseDups ∧
      (∀ read ∈ reads, ∃ field, read.field? = some field ∧ after.Lists field) ∧
      ∀ field, before.Lists field → after.Lists field := by
  induction resolved generalizing seen with
  | nil table =>
    refine ⟨?_, List.forall_mem_nil _, fun _ lists => lists⟩
    rw [fieldsOf, List.filterMap_nil, List.map_nil, List.append_nil]
    exact numbers
  | cons found known _ ih =>
    obtain ⟨rfl, registered, lists, kept⟩ := numbers.registering found
    obtain ⟨others, listed, still⟩ := ih registered
    refine ⟨?_, List.forall_mem_cons.mpr ⟨⟨_, known, still _ lists⟩, listed⟩,
      fun field member => still field (kept field member)⟩
    rw [fieldsOf, List.filterMap_cons_some known, List.map_cons]
    rw [List.append_assoc, List.singleton_append] at others
    exact others

/-- **The fields of a table that numbers them are its numbers.** -/
theorem Table.Numbers.map_id {table : Table} {fields : List Field}
    (numbers : table.Numbers (fields.map Field.abbreviation).eraseDups)
    (listed : ∀ field ∈ fields, table.Lists field) :
    fields.eraseDups.map Field.id = (List.range table.size).map Int.ofNat := by
  have names : (fields.map Field.abbreviation).eraseDups =
      fields.eraseDups.map Field.abbreviation :=
    eraseDups_map _ _ fun field here other there =>
      numbers.eq_of_abbreviation (listed field here) (listed other there)
  refine List.ext_getElem ?_ fun index here there => ?_
  · rw [numbers.size, names, List.length_map, List.length_map, List.length_map, List.length_range]
  · rw [List.length_map] at here
    have member : fields.eraseDups[index] ∈ fields := List.mem_eraseDups.mp (List.getElem_mem here)
    have found : (fields.map Field.abbreviation).eraseDups[index]? =
        some fields.eraseDups[index].abbreviation := by
      rw [names, List.getElem?_map, List.getElem?_eq_getElem here, Option.map_some]
    rw [List.getElem_map, List.getElem_map, List.getElem_range]
    exact numbers.id_eq (listed _ member) found

/-! ### Documents -/

namespace Node

/-- The abbreviations of the fields of a tree, in its order. -/
def abbreviations (node : Node) : List RawText :=
  (fieldsOf (node.preorder.filterMap read?)).map Field.abbreviation

theorem negatesOne_of_isWhole {node : Node} (whole : node.isWhole = true) :
    node.negatesOne = true := by
  unfold negatesOne
  split
  · simp only [isWhole, Bool.and_eq_true, beq_iff_eq] at whole
    rw [whole.2]
    rfl
  · rfl

/-- What is read at the sites of a tree is what its nodes read. -/
theorem map_read_sites (node : Node) (position : Position) :
    (node.sites position).map Site.read = node.preorder.filterMap read? := by
  have reads (site : Site) : site.node.read? = some site.read := by
    unfold Site.node
    split <;> rfl
  have others : node.preorder.filterMap read? = (node.preorder.filter isSite).filterMap read? := by
    rw [List.filterMap_filter]
    refine List.filterMap_congr fun below _ => ?_
    cases below <;> rfl
  rw [others, ← map_node_sites node position, List.filterMap_map, ← List.filterMap_eq_map]
  exact List.filterMap_congr fun site _ => (reads site).symm

end Node

/-- A registry answers about the fields of a table as the chains of the table tell. -/
def Registry.FollowsChains (registry : Registry) (table : Table) : Prop :=
  ∀ field, table.Lists field → registry.canonical field = table.canonical field ∧
    registry.siblings field = table.siblings field

/-- In a table that numbers them, fields stand for themselves. -/
theorem Table.Numbers.identity_followsChains {table : Table} {names : List RawText}
    (numbers : table.Numbers names) : Registry.identity.FollowsChains table :=
  fun _ lists => ⟨(numbers.canonical lists).symm, (numbers.siblings lists).symm⟩

/-- Where every field stands for itself, the fields that are noted are those that are read. -/
theorem flatMap_interests {table : Table} {names : List RawText} {registry : Registry}
    {sites : List Site} (numbers : table.Numbers names) (follows : registry.FollowsChains table)
    (listed : ∀ read ∈ sites.map Site.read, ∃ field, read.field? = some field ∧ table.Lists field) :
    sites.flatMap (Site.interests registry) = fieldsOf (sites.map Site.read) := by
  rw [fieldsOf, List.filterMap_map, List.filterMap_eq_flatMap_toList]
  refine List.flatMap_congr fun site member => ?_
  obtain ⟨field, known, lists⟩ := listed site.read (List.mem_map_of_mem member)
  obtain ⟨canonical, siblings⟩ := follows field lists
  rw [Site.interests_eq known, canonical, numbers.canonical lists, siblings, numbers.siblings lists,
    Function.comp_apply, known, Option.toList_some]

/-- The program of a filter is that of its tree. -/
theorem compileFilter_ok {registry : Registry} {options : List FilterOption} {root : Node}
    {program : Program} {events : List CompileEvent}
    (compiled : compileFilter registry options root = .ok (program, events)) :
    ∃ code log, compileTree ((FilterOptions.collect options).config registry) root =
      .ok (code, log) ∧ program = code.toProgram := by
  dsimp only [compileFilter, compile] at compiled
  cases made : compileTree ((FilterOptions.collect options).config registry) root with
  | error fault =>
    rw [made] at compiled
    cases compiled
  | ok result =>
    rw [made] at compiled
    cases compiled
    exact ⟨result.1, result.2, rfl, rfl⟩

/-- A document is compiled as the tree that it holds. -/
theorem compileDocument_ok {table? : Option Table} {options : List FilterOption} {text : RawText}
    {program : Program} {events : List CompileEvent} {table : Table}
    (compiled : compileDocument table? options text = .ok (program, events, table)) :
    ∃ root, decodeDocument table? text = .ok (root, table) ∧
      compileFilter table.registry options root = .ok (program, events) := by
  unfold compileDocument at compiled
  cases decoded : decodeDocument table? text with
  | error fault =>
    rw [decoded] at compiled
    cases compiled
  | ok reached =>
    obtain ⟨root, found⟩ := reached
    rw [decoded] at compiled
    dsimp only [bind, Except.bind] at compiled
    cases made : compileFilter found.registry options root with
    | error fault =>
      rw [made] at compiled
      cases compiled
    | ok result =>
      rw [made] at compiled
      cases compiled
      exact ⟨root, rfl, made⟩

/-- The table in which all fields of a tree were registered numbers its abbreviations. -/
theorem Decoded.numbers {root : Node} {table : Table}
    (made : Decoded .registering .empty root.preorder table) :
    table.Numbers root.abbreviations.eraseDups ∧
      ∀ read ∈ root.preorder.filterMap Node.read?, ∃ field, read.field? = some field ∧
        table.Lists field := by
  have start : Table.empty.Numbers ([] : List RawText).eraseDups := Table.numbers_empty
  obtain ⟨numbers, listed, _⟩ := made.resolved.numbers start
  exact ⟨numbers, listed⟩

/-- Without a table, the fields of a document are registered in a new one. -/
theorem decodeDocument_registered {text : RawText} {root : Node} {table : Table}
    (decoded : decodeDocument none text = .ok (root, table)) :
    Decoded .registering .empty root.preorder table :=
  (Outline.decode_decoded .registering text .empty root table decoded).2

/-- The fields of a tree are those of a table, and a program reads all of them. -/
structure NumbersFields (root : Node) (table : Table) (program : Program) : Prop where
  /-- The table holds every abbreviation of the tree once, in the order of first occurrence, and with
  no other field of the same name. -/
  entries : table.entries.toList = root.abbreviations.eraseDups.mapIdx
    fun id abbreviation => ⟨⟨id, abbreviation, .empty, .empty⟩, none, none⟩
  /-- The fields that are noted are those of the table, from the first to the last. -/
  interesting : program.interesting.map Field.id = (List.range table.size).map Int.ofNat

/-- A filter reads the fields of the table in which they were registered. -/
theorem compileFilter_numbersFields {root : Node} {table : Table} {options : List FilterOption}
    {program : Program} {events : List CompileEvent}
    (decoded : Decoded .registering .empty root.preorder table)
    (compiled : compileFilter table.registry options root = .ok (program, events))
    (follows : ∀ registry, (FilterOptions.collect options).chosen = some registry →
      registry.FollowsChains table) : NumbersFields root table program := by
  obtain ⟨code, log, made, rfl⟩ := compileFilter_ok compiled
  obtain ⟨numbers, listed⟩ := decoded.numbers
  refine ⟨?_, ?_⟩
  · refine List.ext_getElem? fun id => ?_
    rw [Array.getElem?_toList, numbers.entry, List.getElem?_mapIdx]
  · have chains : ((FilterOptions.collect options).config table.registry).registry.FollowsChains
        table := by
      unfold FilterOptions.config
      cases chosen : (FilterOptions.collect options).chosen with
      | none => exact fun _ _ => ⟨rfl, rfl⟩
      | some registry => exact follows registry chosen
    -- No negation has a second operand, so code generation comes by every field of the tree.
    have single : ∀ node ∈ root.preorder, node.negatesOne = true := fun node below =>
      Node.negatesOne_of_isWhole (decoded.whole node below)
    have noted := (compileTree_records made).interesting
    rw [Node.visited_eq_sites root _ single, flatMap_interests numbers chains
      (by rw [Node.map_read_sites]; exact listed), Node.map_read_sites] at noted
    have known : ∀ field ∈ fieldsOf (root.preorder.filterMap Node.read?), table.Lists field := by
      intro field member
      obtain ⟨read, below, given⟩ := List.mem_filterMap.mp member
      obtain ⟨other, also, lists⟩ := listed read below
      rw [given] at also
      rwa [Option.some.inj also]
    calc code.interesting.map Field.id
        = (fieldsOf (root.preorder.filterMap Node.read?)).eraseDups.map Field.id := by
          rw [noted]
          exact congrArg _ (foldl_addOnce _)
      _ = (List.range table.size).map Int.ofNat := numbers.map_id known

/-- **Without a table, fields are numbered by their first occurrence.** Where an outline is decoded
without a table and its tree is compiled, and no other chains are set than those of the fields
themselves, the table holds every abbreviation of the tree once, numbered by its first occurrence,
with no other field of the same name, and the program reads exactly the fields of that table in
order. So it is where a document is decoded and compiled. -/
theorem decoded_numbersFields :
    (∀ (outline : Outline) (path : String) (options : List FilterOption) (root : Node)
        (table : Table) (program : Program) (events : List CompileEvent),
      outline.toNode .registering path .empty = .ok (root, table) →
      compileFilter table.registry options root = .ok (program, events) →
      (∀ registry, (FilterOptions.collect options).chosen = some registry →
        registry.FollowsChains table) →
      NumbersFields root table program) ∧
    ∀ (options : List FilterOption) (text : RawText) (program : Program)
        (events : List CompileEvent) (table : Table),
      compileDocument none options text = .ok (program, events, table) →
      (∀ registry, (FilterOptions.collect options).chosen = some registry →
        registry.FollowsChains table) →
      ∃ root, decodeDocument none text = .ok (root, table) ∧ NumbersFields root table program := by
  refine ⟨fun outline path options root table program events decoded compiled follows => ?_,
    fun options text program events table compiled follows => ?_⟩
  · obtain ⟨-, made⟩ := outline.toNode_decoded path .empty root table decoded
    exact compileFilter_numbersFields made compiled follows
  · obtain ⟨root, decoded, filtered⟩ := compileDocument_ok compiled
    have made := decodeDocument_registered decoded
    exact ⟨root, decoded, compileFilter_numbersFields made filtered follows⟩

/-- The document of a field. -/
def loneField : RawText := .ofString "field: a"

theorem loneField_tokens : Yaml.tokens loneField.octets =
    [.blockMapping, .key, .scalar "field" true, .value, .scalar "a" true, .blockEnd,
      .streamEnd] := by
  decide +kernel

theorem loneField_read : Outline.read loneField = .ok (.ofField "a") := by
  unfold Outline.read Yaml.Document.read
  dsimp only
  rw [loneField_tokens]
  rfl

theorem loneField_decoded : ∃ field table, decodeDocument none loneField =
    .ok (.field ⟨some field, none, false, false⟩, table) := by
  unfold decodeDocument Outline.decode
  rw [loneField_read]
  exact ⟨_, _, Outline.toNode_ofField rfl rfl⟩

theorem loneField_compiles (options : List FilterOption) : ∃ program events table,
    compileDocument none options loneField = .ok (program, events, table) := by
  obtain ⟨field, table, decoded⟩ := loneField_decoded
  obtain ⟨compiled, made⟩ : ∃ compiled, compileTree
      ((FilterOptions.collect options).config table.registry)
      (.field ⟨some field, none, false, false⟩) = .ok compiled :=
    compiles_iff.mpr ⟨.inr rfl, rfl⟩
  have document := compileDocument_eq options decoded
  rw [made] at document
  exact ⟨_, _, table, document⟩

/-- Compiling `comparedTree` with fields that stand for themselves. -/
theorem comparedTree_compiles : ∃ program events,
    compileFilter comparedTable.registry [.registry (some .identity)] comparedTree =
      .ok (program, events) := by
  obtain ⟨compiled, made⟩ : ∃ compiled, compileTree
      ((FilterOptions.collect [.registry (some .identity)]).config comparedTable.registry)
      comparedTree = .ok compiled :=
    compiles_iff.mpr ⟨.inr rfl, rfl⟩
  dsimp only [compileFilter, compile]
  rw [made]
  exact ⟨_, _, rfl⟩

/-- Two fields of which one is read twice, and a document of a single field: the programs read the
fields of their tables, also with a registry that is set and in which fields stand for themselves. -/
theorem comparedFields_numbersFields :
    (∃ program events,
      comparedOutline.toNode .registering "root" .empty = .ok (comparedTree, comparedTable) ∧
      compileFilter comparedTable.registry [.registry (some .identity)] comparedTree =
        .ok (program, events) ∧
      Registry.identity.FollowsChains comparedTable ∧
      NumbersFields comparedTree comparedTable program ∧
      program.interesting.map Field.id = [0, 1]) ∧
    ∃ program events table root,
      compileDocument none [.registry (some .identity)] loneField = .ok (program, events, table) ∧
      Registry.identity.FollowsChains table ∧
      decodeDocument none loneField = .ok (root, table) ∧ NumbersFields root table program := by
  constructor
  · obtain ⟨program, events, compiled⟩ := comparedTree_compiles
    have follows : Registry.identity.FollowsChains comparedTable :=
      (comparedOutline.toNode_decoded "root" .empty _ _
        comparedOutline_toNode).2.numbers.1.identity_followsChains
    have fields := decoded_numbersFields.1 comparedOutline "root" [.registry (some .identity)]
      comparedTree comparedTable program events comparedOutline_toNode compiled
      fun registry chosen => by
        cases chosen
        exact follows
    have size : comparedTable.size = 2 := by
      rw [comparedTable, (Table.chained_ofList _).size]
      rfl
    have noted : program.interesting.map Field.id = [0, 1] := by
      rw [fields.interesting, size]
      rfl
    exact ⟨program, events, comparedOutline_toNode, compiled, follows, fields, noted⟩
  · obtain ⟨program, events, table, compiled⟩ := loneField_compiles [.registry (some .identity)]
    obtain ⟨root, there, _⟩ := compileDocument_ok compiled
    have follows : Registry.identity.FollowsChains table :=
      (decodeDocument_registered there).numbers.1.identity_followsChains
    obtain ⟨root, decoded, fields⟩ := decoded_numbersFields.2 _ loneField program events table
      compiled fun registry chosen => by
        cases chosen
        exact follows
    exact ⟨program, events, table, root, compiled, follows, decoded, fields⟩

end DisplayFilter
