/-
**Fields of one name may be interchanged.**

A table has one chain for each abbreviation, so fields with one abbreviation have the same canonical
field. Compiled trees that name different fields of a chain are the same programs, except that the
instructions which apply value-string tables name the fields as they were written.

* `Table.SameName`: a field, or another one of its chain.
* `Table.pairing`: such fields stand in for one another.
* `compileTree_sameName`: trees that name different fields of their chains.
-/

import DisplayFilter.Proofs.Decoding.Registration
import DisplayFilter.Proofs.Field.Chains
import DisplayFilter.Proofs.Interchange.Compiled

namespace DisplayFilter

namespace Table

variable {table : Table} {fields : List Field} {field other : Field}

/-! ### Chains -/

/-- Fields with one abbreviation have one field that stands for both. -/
theorem Chained.canonical_eq (chained : table.Chained fields) (lists : table.Lists field)
    (also : table.Lists other) (named : field.abbreviation = other.abbreviation) :
    table.canonical other = table.canonical field := by
  have first := chained.canonical (chained.lists_iff.mp lists)
  have second := chained.canonical (chained.lists_iff.mp also)
  rw [named] at first
  exact Option.some.inj (second.symm.trans first)

/-- The registry of a table follows its chains. -/
theorem registry_followsChains (table : Table) : table.registry.FollowsChains table :=
  fun _ _ => ⟨rfl, rfl⟩

/-- A field of whatever kind, or two fields of the table with one abbreviation. -/
def SameName (table : Table) (field other : Field) : Prop :=
  field = other ∨
    table.Lists field ∧ table.Lists other ∧ field.abbreviation = other.abbreviation

/-- **Fields with one abbreviation stand in for one another.** -/
def pairing (registrations : List (RawText × RawText × RawText)) {registry : Registry}
    (follows : registry.FollowsChains (ofList registrations)) : Pairing registry registry where
  same := (ofList registrations).SameName
  noted := Eq
  named := by
    rintro field other (rfl | ⟨_, _, named⟩)
    · rfl
    · exact named
  start := rfl
  canonical := by
    rintro field other (rfl | ⟨lists, also, named⟩)
    · rfl
    · rw [(follows field lists).1, (follows other also).1]
      exact (chained_ofList registrations).canonical_eq lists also named
  noting := by
    rintro field other fields _ _ rfl
    rfl

end Table

/-! ### Main result -/

/-- **Fields of one name may be interchanged.** Take any fields registered in a table and any two
trees that are the same except that some fields of the table may be replaced by others with the same
abbreviation. If the registry follows the chains of the table, the two trees are refused with the
same fault, or they are compiled to the same instructions with the same registers, lists of fields
and operands, except for the fields whose value-string tables are applied. These are the ones written
in either tree. -/
theorem compileTree_sameName (registrations : List (RawText × RawText × RawText))
    (config : CompileConfig) (root other : Node)
    (follows : config.registry.FollowsChains (.ofList registrations))
    (alike : root.Alike (Table.ofList registrations).SameName other) :
    Agree (fun compiled compiled' => compiled.1.Alike Eq
        (root.tabled (rootPosition config.returnValues))
        (other.tabled (rootPosition config.returnValues)) compiled'.1)
      (compileTree config root) (compileTree config other) :=
  compileTree_agrees config root other (Table.pairing registrations follows) alike

/-- Three fields of two names. -/
def twoNames : List (RawText × RawText × RawText) :=
  [(.ofString "a", .empty, .empty), (.ofString "b", .empty, .empty),
    (.ofString "a", .empty, .empty)]

/-- A field of `twoNames` that has the first name. -/
def firstNamed (id : Nat) : Field :=
  ⟨id, .ofString "a", .empty, .empty⟩

/-- Whether a field is present and the table of another one gives what that of a reference gives. -/
def tableTest (present given referred : Field) : Node :=
  .test .and .baseline (.field ⟨some present, none, false, false⟩)
    (.test .anyEq .any
      (.call (some ⟨"vals", 1, 1⟩) [.field ⟨some given, none, false, false⟩])
      (.reference ⟨some referred, none, true, true⟩))

theorem firstNamed_lists {id : Nat} (first : id = 0 ∨ id = 2) :
    (Table.ofList twoNames).Lists (firstNamed id) := by
  rcases first with rfl | rfl <;> exact (Table.chained_ofList twoNames).field _

theorem firstNamed_sameName {id other : Nat} (first : id = 0 ∨ id = 2)
    (second : other = 0 ∨ other = 2) :
    (Table.ofList twoNames).SameName (firstNamed id) (firstNamed other) :=
  .inr ⟨firstNamed_lists first, firstNamed_lists second, rfl⟩

theorem tableTest_compiles (registry : Registry) (present given referred : Field) :
    ∃ compiled, compileTree ⟨registry, true, false, false⟩ (tableTest present given referred) =
      .ok compiled :=
  compiles_iff.mpr ⟨.inr rfl, rfl⟩

/-- Two programs that name the two fields of one name, with the tables as written. -/
theorem tableTest_sameName :
    ∃ code events code' events',
      compileTree ⟨(Table.ofList twoNames).registry, true, false, false⟩
        (tableTest (firstNamed 0) (firstNamed 2) (firstNamed 0)) = .ok (code, events) ∧
      compileTree ⟨(Table.ofList twoNames).registry, true, false, false⟩
        (tableTest (firstNamed 2) (firstNamed 0) (firstNamed 2)) = .ok (code', events') ∧
      code.Alike Eq [firstNamed 2, firstNamed 0] [firstNamed 0, firstNamed 2] code' := by
  obtain ⟨⟨code, events⟩, compiled⟩ := tableTest_compiles (Table.ofList twoNames).registry
    (firstNamed 0) (firstNamed 2) (firstNamed 0)
  have up := firstNamed_sameName (.inl rfl) (.inr rfl)
  have down := firstNamed_sameName (.inr rfl) (.inl rfl)
  obtain ⟨⟨code', events'⟩, also, alike⟩ := Agree.of_ok (compileTree_sameName twoNames _ _
    (tableTest (firstNamed 2) (firstNamed 0) (firstNamed 2)) (Table.registry_followsChains _)
    (.test _ _ (.field (.known up none false false)) (.test _ _
      (.call _ (.cons (.field (.known down none false false)) .nil))
      (.reference (.known up none true true))))) compiled
  exact ⟨code, events, code', events', compiled, also, alike⟩

end DisplayFilter
