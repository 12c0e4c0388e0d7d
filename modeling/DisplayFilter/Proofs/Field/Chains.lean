/-
**Field tables keep their chains.**

A table is only ever built by registering fields one after another. `Table.Chained` is the invariant
of that: the entries are the registered fields in their order, links lead to the neighbours of the
same abbreviation, and the last entry remembered under an abbreviation is the last one registered.
Registering one more field keeps it (`Table.Chained.register`), so every table has it, and all that a
table answers follows.

* `Neighbours`, `LastPlace`: places of a name in a list of names.
* `Table.Chained.register`: one more field, `Table.chained_ofList`: any number of them.
* `Table.Lists`: a field is one of the table's own.
* `Table.GoesBack`, `Table.GoesOn`: the two loops along a chain, told without a bound.
* `Table.KeepsChains`, `Table.ofList_keepsChains`: what every table answers.
-/

import DisplayFilter.Proofs.Lists
import DisplayFilter.Field.Table

namespace DisplayFilter

/-! ### Places of a name -/

section Places

variable {names : List RawText} {last name : RawText} {place first second : Nat}

/-- The last place of a name in a list. -/
def LastPlace (names : List RawText) (name : RawText) (place : Nat) : Prop :=
  names[place]? = some name ∧ ∀ later, place < later → names[later]? ≠ some name

/-- Two places that hold one name, which no place between them holds. -/
def Neighbours (names : List RawText) (first second : Nat) : Prop :=
  first < second ∧ ∃ name, names[first]? = some name ∧ names[second]? = some name ∧
    ∀ between, first < between → between < second → names[between]? ≠ some name

theorem LastPlace.concat : LastPlace (names ++ [last]) name place ↔
    if name = last then place = names.length else LastPlace names name place := by
  unfold LastPlace
  simp only [getElem?_concat]
  split
  · rename_i same
    constructor
    · rintro ⟨here, after⟩
      have overtaken := after names.length
      grind
    · intro atEnd
      grind
  · grind

/-- One more name becomes the neighbour of its last place before. -/
theorem Neighbours.concat : Neighbours (names ++ [last]) first second ↔
    if second = names.length then LastPlace names last first else Neighbours names first second := by
  unfold Neighbours LastPlace
  simp only [getElem?_concat]
  split <;> grind

theorem LastPlace.lt (holds : LastPlace names name place) : place < names.length :=
  (List.getElem?_eq_some_iff.mp holds.1).1

theorem Neighbours.lt_length (neighbours : Neighbours names first second) :
    second < names.length := by
  obtain ⟨_, _, _, there, _⟩ := neighbours
  exact (List.getElem?_eq_some_iff.mp there).1

/-- The last place of a name has no neighbour behind it. -/
theorem LastPlace.not_neighbours (holds : LastPlace names name first) :
    ¬ Neighbours names first second := by
  rintro ⟨early, other, here, there, _⟩
  obtain rfl : name = other := Option.some.inj (holds.1.symm.trans here)
  exact holds.2 second early there

/-- Where a name stands at an earlier place too, there is a neighbour before. -/
theorem exists_neighbours_before {place : Nat} (here : names[place]? = some name)
    (there : names[second]? = some name) (early : place < second) :
    ∃ first, Neighbours names first second := by
  by_cases closer : ∃ between, place < between ∧ between < second ∧ names[between]? = some name
  · obtain ⟨between, late, earlier, held⟩ := closer
    exact exists_neighbours_before held there earlier
  · exact ⟨place, early, name, here, there, fun between late earlier held =>
      closer ⟨between, late, earlier, held⟩⟩
termination_by second - place

/-- Where a name stands at a later place too, there is a neighbour behind. -/
theorem exists_neighbours_behind {place : Nat} (here : names[first]? = some name)
    (there : names[place]? = some name) (early : first < place) :
    ∃ second, Neighbours names first second := by
  by_cases closer : ∃ between, first < between ∧ between < place ∧ names[between]? = some name
  · obtain ⟨between, late, earlier, held⟩ := closer
    exact exists_neighbours_behind here held late
  · exact ⟨place, early, name, here, there, fun between late earlier held =>
      closer ⟨between, late, earlier, held⟩⟩
termination_by place

end Places

/-- The fields of a list that have an abbreviation. -/
def fieldsNamed (fields : List Field) (name : RawText) : List Field :=
  fields.filter fun field => field.abbreviation = name

/-- Fields without the abbreviation may be passed over. -/
theorem fieldsNamed_drop_eq {fields : List Field} {name : RawText} {first second : Nat}
    (early : first ≤ second) (others : ∀ place, first ≤ place →
      ¬ (place < second ∧ (fields.map Field.abbreviation)[place]? = some name)) :
    fieldsNamed (fields.drop first) name = fieldsNamed (fields.drop second) name := by
  refine filter_drop_eq early fun place late before field found => ?_
  have differs : ¬ (fields.map Field.abbreviation)[place]? = some name := fun held =>
    others place late ⟨before, held⟩
  rw [List.getElem?_map, found, Option.map_some, Option.some_inj] at differs
  exact decide_eq_false differs

namespace Table

variable {table : Table} {fields : List Field} {field : Field}

/-! ### What registering does to a table -/

section Register

variable (table : Table) (abbreviation name type : RawText)

/-- The entry of the new field stands behind the others, of which only the last one under the
abbreviation is changed. -/
theorem getElem?_register (id : Nat) :
    (table.register abbreviation name type).2.entries[id]? =
      if id = table.size then
        some ⟨⟨table.size, abbreviation, name, type⟩, table.latest? abbreviation, none⟩
      else if table.latest? abbreviation = some id then
        table.entries[id]?.map fun entry => { entry with next := some table.size }
      else table.entries[id]? := by
  unfold register
  cases found : table.latest? abbreviation with
  | none =>
    simp only [Array.getElem?_push, size]
    rfl
  | some last =>
    simp only [Array.getElem?_push, link, Array.size_modify, Array.getElem?_modify, size,
      Option.some.injEq]

theorem size_register : (table.register abbreviation name type).2.size = table.size + 1 := by
  unfold register
  cases table.latest? abbreviation <;> simp [size, link]

theorem latest?_register_eq (other : RawText) :
    (table.register abbreviation name type).2.latest? other =
      if other = abbreviation then some table.size else table.latest? other := by
  have kept : other ≠ abbreviation →
      (table.latest.filter fun entry => entry.1 != abbreviation).lookup other =
        table.latest.lookup other := by
    intro differs
    induction table.latest with
    | nil => rfl
    | cons entry rest ih => grind
  unfold latest? register
  rw [List.lookup_cons]
  split
  · grind
  · grind

theorem field?_register (id : Nat) : (table.register abbreviation name type).2.field? id =
    if id = table.size then some ⟨table.size, abbreviation, name, type⟩ else table.field? id := by
  rw [field?, getElem?_register]
  split
  · rfl
  · split
    · rw [Option.map_map]
      rfl
    · rfl

theorem previous?_register (id : Nat) : (table.register abbreviation name type).2.previous? id =
    if id = table.size then table.latest? abbreviation else table.previous? id := by
  rw [previous?, getElem?_register]
  split
  · rfl
  · split
    · rw [Option.bind_map]
      rfl
    · rfl

theorem next?_register (id : Nat) : (table.register abbreviation name type).2.next? id =
    if id = table.size then none
    else if table.latest? abbreviation = some id then table.entries[id]?.map fun _ => table.size
    else table.next? id := by
  rw [next?, getElem?_register]
  split
  · rfl
  · split
    · rw [Option.bind_map]
      cases table.entries[id]? <;> rfl
    · rfl

theorem abbreviations_register : (table.register abbreviation name type).2.abbreviations =
    table.abbreviations ++
      if (table.latest? abbreviation).isNone then [abbreviation] else [] := by
  -- Linking an entry to its successor does not change whether it is the first of its chain.
  have linked (last : Nat) : (link table.entries last table.size).toList.filterMap (fun entry =>
      if entry.previous.isNone then some entry.field.abbreviation else none) =
        table.abbreviations := by
    unfold link abbreviations
    rw [Array.toList_modify]
    generalize table.entries.toList = entries
    induction entries generalizing last with
    | nil => cases last <;> rfl
    | cons entry rest ih =>
      cases last with
      | zero => simp [List.filterMap_cons]
      | succ last => rw [List.modify_succ_cons, List.filterMap_cons, List.filterMap_cons, ih last]
  unfold register
  cases found : table.latest? abbreviation with
  | none => simp [abbreviations]
  | some last => simpa [abbreviations] using linked last

end Register

/-! ### The invariant -/

/-- What holds of a table in which exactly the given fields were registered, in this order. -/
structure Chained (table : Table) (fields : List Field) : Prop where
  field : ∀ id, table.field? id = fields[id]?
  ids : ∀ (id : Nat) (field : Field), fields[id]? = some field → field.id = (id : Int)
  size : table.size = fields.length
  previous : ∀ first second, table.previous? second = some first ↔
    Neighbours (fields.map Field.abbreviation) first second
  next : ∀ first second, table.next? first = some second ↔
    Neighbours (fields.map Field.abbreviation) first second
  latest : ∀ name id, table.latest? name = some id ↔
    LastPlace (fields.map Field.abbreviation) name id
  unknown : ∀ name, table.latest? name = none ↔ name ∉ fields.map Field.abbreviation
  abbreviations : table.abbreviations = (fields.map Field.abbreviation).eraseDups

theorem chained_empty : Chained empty [] := by
  refine ⟨fun _ => rfl, nofun, rfl, fun first second => ?_, fun first second => ?_,
    fun name id => ?_, fun name => ?_, rfl⟩
  · exact iff_of_false nofun fun neighbours => absurd neighbours.lt_length (Nat.not_lt_zero _)
  · exact iff_of_false nofun fun neighbours => absurd neighbours.lt_length (Nat.not_lt_zero _)
  · exact iff_of_false nofun fun holds => absurd holds.lt (Nat.not_lt_zero _)
  · exact iff_of_true rfl List.not_mem_nil

/-- The entry that was the last one under the abbreviation now leads to the new one. -/
theorem Chained.next_register (chained : table.Chained fields) (abbreviation name type : RawText)
    (first second : Nat) : (table.register abbreviation name type).2.next? first = some second ↔
      Neighbours (fields.map Field.abbreviation ++ [abbreviation]) first second := by
  have length : (fields.map Field.abbreviation).length = table.size := by
    rw [chained.size, List.length_map]
  rw [Neighbours.concat, next?_register, length]
  by_cases atEnd : first = table.size
  · -- Nothing stands behind the new field.
    rw [if_pos atEnd]
    refine iff_of_false nofun ?_
    split
    · intro holds
      have early := holds.lt
      omega
    · intro neighbours
      have early := neighbours.1
      have late := neighbours.lt_length
      omega
  rw [if_neg atEnd]
  by_cases last : table.latest? abbreviation = some first
  · have holds := (chained.latest _ _).mp last
    obtain ⟨entry, there⟩ : ∃ entry, table.entries[first]? = some entry :=
      ⟨_, Array.getElem?_eq_getElem (Nat.lt_of_lt_of_eq holds.lt length)⟩
    rw [if_pos last, there, Option.map_some, Option.some_inj]
    split
    · rename_i new
      exact iff_of_true new.symm holds
    · rename_i old
      exact iff_of_false (fun same => old same.symm) holds.not_neighbours
  · rw [if_neg last, chained.next]
    split
    · rename_i new
      refine iff_of_false (fun neighbours => ?_) fun holds => last ((chained.latest _ _).mpr holds)
      have late := neighbours.lt_length
      omega
    · rfl

/-- **One more field.** -/
theorem Chained.register (chained : table.Chained fields) (abbreviation name type : RawText) :
    (table.register abbreviation name type).2.Chained
      (fields ++ [⟨fields.length, abbreviation, name, type⟩]) := by
  have length : table.size = (fields.map Field.abbreviation).length := by
    rw [chained.size, List.length_map]
  refine ⟨fun id => ?_, fun id field => ?_, ?_, fun first second => ?_, fun first second => ?_,
    fun other id => ?_, fun other => ?_, ?_⟩
  · rw [field?_register, getElem?_concat, chained.field, chained.size]
  · rw [getElem?_concat]
    split
    · rename_i last
      rintro ⟨⟩
      exact congrArg _ last.symm
    · exact chained.ids id field
  · rw [size_register, chained.size, List.length_append, List.length_singleton]
  · rw [List.map_append, List.map_singleton, Neighbours.concat, previous?_register, length,
      ← chained.previous, ← chained.latest]
    split <;> rfl
  · rw [List.map_append, List.map_singleton]
    exact chained.next_register abbreviation name type first second
  · rw [List.map_append, List.map_singleton, LastPlace.concat, latest?_register_eq, length]
    split
    · rw [Option.some_inj, eq_comm]
    · exact chained.latest other id
  · rw [List.map_append, List.map_singleton, List.mem_append, List.mem_singleton,
      latest?_register_eq]
    split
    · rename_i same
      exact iff_of_false nofun fun fresh => fresh (.inr same)
    · rename_i differs
      rw [chained.unknown]
      exact ⟨fun fresh member => member.elim fresh differs, fun fresh member => fresh (.inl member)⟩
  · rw [abbreviations_register, List.map_append, List.map_singleton, eraseDups_concat,
      chained.abbreviations]
    by_cases known : abbreviation ∈ fields.map Field.abbreviation
    · have found : table.latest? abbreviation ≠ none := fun absent =>
        (chained.unknown _).mp absent known
      rw [if_pos known, if_neg (by simpa using found), List.append_nil]
    · rw [if_neg known, (chained.unknown _).mpr known]
      rfl

/-- The fields of a list of registrations, numbered in their order. -/
def registered (registrations : List (RawText × RawText × RawText)) : List Field :=
  registrations.mapIdx fun id registration =>
    ⟨id, registration.1, registration.2.1, registration.2.2⟩

/-- **Any number of fields.** -/
theorem chained_ofList (registrations : List (RawText × RawText × RawText)) :
    (ofList registrations).Chained (registered registrations) := by
  induction registrations using List.reverseRecOn with
  | nil => exact chained_empty
  | append_singleton registrations last ih =>
    have grown := ih.register last.1 last.2.1 last.2.2
    unfold registered at grown ⊢
    rw [List.length_mapIdx] at grown
    rw [List.mapIdx_concat, ofList, List.foldl_append]
    exact grown

/-! ### Fields of a table -/

/-- A field stands in the table under its number. -/
def Lists (table : Table) (field : Field) : Prop :=
  table.field? field.id.toNat = some field

theorem Lists.place? (lists : table.Lists field) : table.place? field = some field.id.toNat :=
  if_pos lists

/-! ### Going along a chain -/

/-- Going back from one number along the links, without any bound, ends at another. -/
inductive GoesBack (table : Table) : Nat → Nat → Prop
  | here {id : Nat} (start : table.previous? id = none) : table.GoesBack id id
  | back {id previous first : Nat} (link : table.previous? id = some previous)
    (rest : table.GoesBack previous first) : table.GoesBack id first

/-- Going on from a number along the links, without any bound, comes by the given numbers and ends. -/
inductive GoesOn (table : Table) : Nat → List Nat → Prop
  | last {id : Nat} (stop : table.next? id = none) : table.GoesOn id [id]
  | on {id next : Nat} {ids : List Nat} (link : table.next? id = some next)
    (rest : table.GoesOn next ids) : table.GoesOn id (id :: ids)

namespace Chained

variable (chained : table.Chained fields)

include chained

/-- No link leads forward where it should lead back, so the bound of the search never ends it. -/
theorem first_eq (id : Nat) : table.first id =
    match table.previous? id with
    | none => id
    | some previous => table.first previous := by
  rw [first]
  cases link : table.previous? id with
  | none => rfl
  | some previous => exact if_pos ((chained.previous _ _).mp link).1

theorem chainFrom_eq (id : Nat) : table.chainFrom id =
    match table.next? id with
    | none => [id]
    | some next => id :: table.chainFrom next := by
  rw [chainFrom]
  cases link : table.next? id with
  | none => rfl
  | some next =>
    have neighbours := (chained.next _ _).mp link
    have within := neighbours.lt_length
    rw [List.length_map, ← chained.size] at within
    exact if_pos ⟨neighbours.1, within⟩

theorem goesBack (id : Nat) : table.GoesBack id (table.first id) := by
  induction id using Nat.strongRecOn with
  | ind id ih =>
    rw [chained.first_eq]
    split
    · exact .here ‹_›
    · rename_i previous link
      exact .back link (ih previous ((chained.previous _ _).mp link).1)

theorem goesOn (id : Nat) : table.GoesOn id (table.chainFrom id) := by
  induction remaining : table.size - id using Nat.strongRecOn generalizing id with
  | ind count ih =>
    rw [chained.chainFrom_eq]
    split
    · exact .last ‹_›
    · rename_i next link
      have neighbours := (chained.next _ _).mp link
      have within := neighbours.lt_length
      rw [List.length_map, ← chained.size] at within
      exact .on link (ih _ (by have := neighbours.1; omega) next rfl)

/-! ### What a table answers -/

/-- Going back from a field ends at the first place of its abbreviation. -/
theorem first_place {id first : Nat} {name : RawText} (back : table.GoesBack id first)
    (here : (fields.map Field.abbreviation)[id]? = some name) :
    (fields.map Field.abbreviation)[first]? = some name ∧
      ∀ earlier < first, (fields.map Field.abbreviation)[earlier]? ≠ some name := by
  induction back with
  | here start =>
    refine ⟨here, fun earlier before held => ?_⟩
    obtain ⟨first, neighbours⟩ := exists_neighbours_before held here before
    rw [(chained.previous _ _).mpr neighbours] at start
    cases start
  | back link _ ih =>
    obtain ⟨_, other, there, also, _⟩ := (chained.previous _ _).mp link
    rw [here] at also
    exact ih (Option.some.inj also ▸ there)

/-- A field with an abbreviation comes before the later ones with it. -/
theorem fieldsNamed_drop {id : Nat} {name : RawText}
    (here : (fields.map Field.abbreviation)[id]? = some name) : ∃ field,
      table.field? id = some field ∧
      fieldsNamed (fields.drop id) name = field :: fieldsNamed (fields.drop (id + 1)) name := by
  rw [List.getElem?_map, Option.map_eq_some_iff] at here
  obtain ⟨field, here, rfl⟩ := here
  obtain ⟨within, same⟩ := List.getElem?_eq_some_iff.mp here
  refine ⟨field, (chained.field id).trans here, ?_⟩
  rw [fieldsNamed, List.drop_eq_getElem_cons within, same, List.filter_cons_of_pos (by simp)]
  rfl

/-- Going on from a field, the chain lists all later fields with the abbreviation. -/
theorem filterMap_chain {id : Nat} {ids : List Nat} {name : RawText} (on : table.GoesOn id ids)
    (here : (fields.map Field.abbreviation)[id]? = some name) :
    ids.filterMap table.field? = fieldsNamed (fields.drop id) name := by
  induction on with
  | @last id stop =>
    obtain ⟨field, there, split⟩ := chained.fieldsNamed_drop here
    have none : fieldsNamed (fields.drop (id + 1)) name = [] := by
      have within : id < fields.length := by simpa using (List.getElem?_eq_some_iff.mp here).1
      rw [fieldsNamed_drop_eq within fun place late held => ?_, List.drop_length]
      · rfl
      · obtain ⟨second, neighbours⟩ := exists_neighbours_behind here held.2 late
        rw [(chained.next _ _).mpr neighbours] at stop
        cases stop
    rw [split, none, List.filterMap_cons_some there]
    rfl
  | @on id next ids link rest ih =>
    obtain ⟨field, there, split⟩ := chained.fieldsNamed_drop here
    obtain ⟨early, other, also, further, between⟩ := (chained.next _ _).mp link
    obtain rfl : name = other := Option.some.inj (here.symm.trans also)
    rw [split, fieldsNamed_drop_eq early fun place late held => between place late held.1 held.2,
      List.filterMap_cons_some there, ih further]

/-- Going on from the first field of a chain, it lists all fields with the abbreviation. -/
theorem chain_first {id : Nat} {name : RawText}
    (here : (fields.map Field.abbreviation)[id]? = some name) :
    (table.chainFrom (table.first id)).filterMap table.field? = fieldsNamed fields name := by
  obtain ⟨there, before⟩ := chained.first_place (chained.goesBack id) here
  rw [chained.filterMap_chain (chained.goesOn _) there, ← fieldsNamed_drop_eq (Nat.zero_le _)
    fun place _ held => before place held.1 held.2]
  rfl

/-- The first field of a chain is the first one with the abbreviation. -/
theorem field?_first {id : Nat} {name : RawText}
    (here : (fields.map Field.abbreviation)[id]? = some name) :
    table.field? (table.first id) = (fieldsNamed fields name).head? := by
  obtain ⟨there, _⟩ := chained.first_place (chained.goesBack id) here
  obtain ⟨field, found, split⟩ := chained.fieldsNamed_drop there
  rw [← chained.chain_first here, chained.filterMap_chain (chained.goesOn _) there, split, found]
  rfl

/-- A field of the table stands under its number. -/
theorem lists_iff {field : Field} : table.Lists field ↔ field ∈ fields := by
  rw [Lists, chained.field]
  refine ⟨List.mem_of_getElem?, fun member => ?_⟩
  obtain ⟨id, found⟩ := List.mem_iff_getElem?.mp member
  rw [chained.ids id field found, Int.toNat_natCast, found]

theorem named {field : Field} (member : field ∈ fields) :
    (fields.map Field.abbreviation)[field.id.toNat]? = some field.abbreviation := by
  have lists : table.Lists field := chained.lists_iff.mpr member
  rw [List.getElem?_map, ← chained.field, lists, Option.map_some]

theorem siblings {field : Field} (member : field ∈ fields) :
    table.siblings field = fieldsNamed fields field.abbreviation := by
  unfold Table.siblings
  rw [(chained.lists_iff.mpr member).place?]
  exact chained.chain_first (chained.named member)

theorem canonical {field : Field} (member : field ∈ fields) :
    (fieldsNamed fields field.abbreviation).head? = some (table.canonical field) := by
  have named := chained.named member
  have listed : field ∈ fieldsNamed fields field.abbreviation :=
    List.mem_filter.mpr ⟨member, decide_eq_true rfl⟩
  obtain ⟨found, head⟩ := Option.ne_none_iff_exists'.mp fun none =>
    List.ne_nil_of_mem listed (List.head?_eq_none_iff.mp none)
  rw [Table.canonical, (chained.lists_iff.mpr member).place?, Option.bind_some,
    chained.field?_first named, head, Option.getD_some]

theorem lookup (name : RawText) : table.lookup? name = (fieldsNamed fields name).head? := by
  unfold lookup?
  cases last : table.latest? name with
  | none =>
    have absent : fieldsNamed fields name = [] := List.filter_eq_nil_iff.mpr fun field member same =>
      (chained.unknown name).mp last (List.mem_map.mpr ⟨field, member, of_decide_eq_true same⟩)
    rw [absent]
    rfl
  | some id => exact chained.field?_first ((chained.latest name id).mp last).1

end Chained

/-! ### Main result -/

/-- What a table answers in which exactly the given fields were registered, in this order. -/
structure KeepsChains (table : Table) (fields : List Field) : Prop where
  size : table.size = fields.length
  /-- Each field is found under its place in the order of registration. -/
  field : ∀ id, table.field? id = fields[id]?
  ids : ∀ (id : Nat) (field : Field), table.field? id = some field → field.id = (id : Int)
  /-- Links lead to the next field of the same abbreviation, and back from it. -/
  next : ∀ first second, table.next? first = some second ↔
    Neighbours (fields.map Field.abbreviation) first second
  previous : ∀ first second, table.previous? second = some first ↔ table.next? first = some second
  /-- Both loops along a chain come to an end. -/
  goesBack : ∀ id, table.GoesBack id (table.first id)
  goesOn : ∀ id, table.GoesOn id (table.chainFrom id)
  siblings : ∀ field ∈ fields,
    table.siblings field = fields.filter fun other => other.abbreviation = field.abbreviation
  canonical : ∀ field ∈ fields, (table.siblings field).head? = some (table.canonical field)
  /-- An abbreviation is looked up as the first field that was registered under it. -/
  lookup : ∀ name, table.lookup? name = fields.find? fun field => field.abbreviation = name
  lookup_isSome : ∀ name, (table.lookup? name).isSome = true ↔ name ∈ fields.map Field.abbreviation
  abbreviations : table.abbreviations = (fields.map Field.abbreviation).eraseDups

/-- **Tables keep their chains.** Whatever fields are registered in a new table and in whatever order,
the table answers by their order of registration. -/
theorem ofList_keepsChains (registrations : List (RawText × RawText × RawText)) :
    (ofList registrations).KeepsChains (registered registrations) := by
  have chained := chained_ofList registrations
  have lookup (name : RawText) : (ofList registrations).lookup? name =
      (registered registrations).find? fun field => field.abbreviation = name := by
    rw [chained.lookup, fieldsNamed, List.head?_filter]
  refine ⟨chained.size, chained.field, fun id field found => ?_, chained.next, fun first second => ?_,
    chained.goesBack, chained.goesOn, fun field => chained.siblings, fun field member => ?_, lookup,
    fun name => ?_, chained.abbreviations⟩
  · exact chained.ids id field ((chained.field id).symm.trans found)
  · rw [chained.previous, chained.next]
  · rw [chained.siblings member, chained.canonical member]
  · rw [lookup, List.find?_isSome, List.mem_map]
    simp only [decide_eq_true_eq]

end Table

end DisplayFilter
