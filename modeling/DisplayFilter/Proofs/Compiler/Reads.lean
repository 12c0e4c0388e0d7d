/-
**What compiled programs read.**

Optimizing turns branches into instructions that do nothing, so that an optimized program reads what
the plain one reads. Compiled programs read the fields of their tree one by one in its order, and
their lists of fields tell what the instructions read.

* `Code.Threaded.readings`: optimizing leaves the reading instructions.
* `compileTree_readsInOrder`: the reading instructions are those of the tree's field nodes.
* `Code.NotesReads`, `compileTree_notesReads`: the lists of fields are those of the instructions.
-/

import DisplayFilter.Proofs.Compiler.WellFormed
import DisplayFilter.Proofs.Lists
import DisplayFilter.Proofs.Reads.Recording

namespace DisplayFilter

/-! ### Optimized code -/

namespace Code

variable {code current before : Code} {registry : Registry} {sites : List Site}

theorem not_isReading_of_isBranch {opcode : Opcode} (branches : opcode.isBranch = true) :
    opcode.isReading = false := by
  cases opcode <;> first | rfl | cases branches

/-- **Optimizing leaves the instructions that read fields.** -/
theorem Threaded.readings {upTo : Nat} (threaded : code.Threaded upTo current) :
    current.readings = code.readings := by
  refine filter_eq_of_forall₂ (List.forall₂_iff_get.mpr ⟨threaded.size, fun index here there => ?_⟩)
  have found := threaded.instruction index
  rw [Array.getElem?_eq_getElem here, Array.getElem?_eq_getElem there, Option.map_some,
    Option.some_inj] at found
  simp only [List.get_eq_getElem, Array.getElem_toList]
  rw [found]
  split
  · -- Only branches that fall through are replaced, and they read nothing.
    rename_i falls
    exact .inr ⟨rfl, not_isReading_of_isBranch (fallsThrough_iff.mp falls.2).1⟩
  · exact .inl rfl

/-- What was recorded is still true of the optimized code. -/
theorem Records.threaded (records : Records registry before sites code)
    (threaded : code.Threaded code.instructions.size current) (threadable : code.Threadable) :
    Records registry before sites current := by
  have idle : Records registry code [] current :=
    .quiet (threaded.keeps threadable) threaded.readings (congrArg (·.interesting) threaded.rest)
      (congrArg (·.references) threaded.rest) (congrArg (·.rawReferences) threaded.rest)
  have both := records.trans idle
  rwa [List.append_nil] at both

end Code

/-- The code of a root, optimized or not, reads the sites that code generation comes by. -/
theorem optimizedCode_records {registry : Registry} {returnValues : Bool} {root : Node}
    {code : Code} (wanted : Bool) (made : generated registry returnValues root = .ok code) :
    Code.Records registry .empty (root.visited (rootPosition returnValues))
      (optimizedCode wanted code).1 := by
  unfold optimizedCode
  cases wanted with
  | false => exact generated_records made
  | true =>
    obtain ⟨_, last, result, finished⟩ := generated_ok made
    have threadable := finished.threadable
    exact (generated_records made).threaded threadable.optimize threadable

/-- Compiled programs read the sites that code generation comes by. -/
theorem compileTree_records {config : CompileConfig} {root : Node} {code : Code}
    {events : List CompileEvent} (compiled : compileTree config root = .ok (code, events)) :
    Code.Records config.registry .empty (root.visited (rootPosition config.returnValues)) code := by
  obtain ⟨_, original, made, rfl⟩ := compileTree_ok_iff.mp ⟨events, compiled⟩
  exact optimizedCode_records config.optimize made

/-- **Compiled programs read every field of their tree once and in its order.** Where no negation has
a second operand, the reading instructions correspond one to one to the field and reference nodes of
the tree, each before those below it: by the operation for the node and its position, with the field
that stands for the one written there and with the bytes wanted of it. -/
theorem compileTree_readsInOrder (config : CompileConfig) (root : Node) (code : Code)
    (events : List CompileEvent) (compiled : compileTree config root = .ok (code, events))
    (single : ∀ node ∈ root.preorder, node.negatesOne = true) :
    (root.sites (rootPosition config.returnValues)).map Site.node =
        root.preorder.filter Node.isSite ∧
      List.Forall₂ (code.ReadsFor config.registry) code.readings
        (root.sites (rootPosition config.returnValues)) := by
  refine ⟨root.map_node_sites _, ?_⟩
  obtain ⟨added, readings, reads⟩ := (compileTree_records compiled).reads
  rw [readings, ← Node.visited_eq_sites root _ single]
  exact reads

/-- The registry in which each field has another one that shares its abbreviation. -/
def Registry.pairing : Registry where
  canonical field := field
  siblings field := [field, { field with id := field.id + 4 }]

/-- A negated test for the presence of some bytes of a field, and a membership test of a raw reference
among a field and the values between another one and some bytes of a reference. -/
def negatedMember : Node :=
  let read (id : Nat) (range? : Option ByteRange) (raw : Bool) : FieldRead :=
    ⟨some ⟨id, .empty, .empty, .empty⟩, range?, raw, false⟩
  .test .and .baseline
    (.test .not .baseline (.field (read 3 (some [⟨.length, 0, 4, 0⟩]) true)) .missing)
    (.test .member .baseline (.reference (read 1 none true))
      (.set [.single (.field (read 0 none false)),
        .between (.field (read 2 none true))
          (.reference (read 1 (some [⟨.length, 0, 4, 0⟩]) false))]))

example : (negatedMember.sites .truth).map Site.opcode =
    [.checkExistsRange, .readReference, .readTree, .readTree, .readReferenceRange] := rfl

/-- The optimized program of the membership test reads its five sites in order. -/
theorem negatedMember_readsInOrder :
    ∃ code events, compileTree ⟨.pairing, true, false, false⟩ negatedMember = .ok (code, events) ∧
      (negatedMember.sites .truth).map Site.node = negatedMember.preorder.filter Node.isSite ∧
      List.Forall₂ (code.ReadsFor .pairing) code.readings (negatedMember.sites .truth) := by
  obtain ⟨⟨code, events⟩, compiled⟩ : ∃ compiled,
      compileTree ⟨.pairing, true, false, false⟩ negatedMember = .ok compiled :=
    compiles_iff.mpr ⟨.inr rfl, rfl⟩
  exact ⟨code, events, compiled,
    compileTree_readsInOrder _ _ code events compiled (by decide)⟩

/-! ### The lists of fields -/

/-- **Adding fields one by one leaves the first occurrence of each.** -/
theorem foldl_addOnce (fields : List Field) : fields.foldl addOnce [] = fields.eraseDups := by
  -- The fields noted so far are themselves a list without its repetitions.
  suffices general : ∀ known : List Field,
      fields.foldl addOnce known.eraseDups = (known ++ fields).eraseDups from general []
  induction fields with
  | nil =>
    intro known
    rw [List.append_nil, List.foldl_nil]
  | cons field fields ih =>
    intro known
    have added : addOnce known.eraseDups field = (known ++ [field]).eraseDups := by
      rw [eraseDups_concat]
      simp only [addOnce, List.mem_eraseDups]
    rw [List.foldl_cons, added, ih, List.append_assoc, List.singleton_append]

/-- Whether an operation reads through a reference. -/
def Opcode.isReferring : Opcode → Bool
  | .readReference | .readReferenceRange => true
  | _ => false

namespace Site

variable {registry : Registry} {site : Site}

theorem isReferring_opcode (site : Site) : site.opcode.isReferring = site.isReference := by
  unfold opcode
  split <;> simp_all [Opcode.isReferring]

/-- What is read through a reference is never only tested for presence. -/
theorem raw_of_isReference (refers : site.isReference = true) : site.raw = site.read.raw := by
  simp [raw, isTested, refers]

end Site

namespace Code

variable {code : Code} {registry : Registry}

/-- The field that an instruction names first, and whether its raw bytes are wanted. -/
def fieldRead? (code : Code) (instruction : Instruction) : Option (Field × Bool) :=
  match (code.operand instruction.first).content with
  | .field (some field) raw => some (field, raw)
  | _ => none

/-- The fields that share the abbreviation of the one that an instruction names. -/
def siblingsRead (code : Code) (registry : Registry) (instruction : Instruction) : List Field :=
  ((code.fieldRead? instruction).map fun read => registry.siblings read.1).getD []

/-- The field that an instruction reads through a reference, cooked or raw. -/
def referenceRead? (code : Code) (raw : Bool) (instruction : Instruction) : Option Field :=
  (code.fieldRead? instruction).bind fun read =>
    if instruction.opcode.isReferring ∧ read.2 = raw then some read.1 else none

/-- The lists of fields tell what the instructions read: each field once, at its first occurrence. -/
structure NotesReads (code : Code) (registry : Registry) : Prop where
  /-- Every reading instruction names a field. -/
  named : ∀ reading ∈ code.readings, (code.fieldRead? reading).isSome = true
  distinct : code.interesting.Nodup
  interesting : code.interesting = (code.readings.flatMap (code.siblingsRead registry)).eraseDups
  references : code.references = (code.readings.filterMap (code.referenceRead? false)).eraseDups
  rawReferences :
    code.rawReferences = (code.readings.filterMap (code.referenceRead? true)).eraseDups

theorem ReadsFor.fieldRead? {reading : Instruction} {site : Site}
    (reads : code.ReadsFor registry reading site) :
    ∃ written, site.read.field? = some written ∧
      code.fieldRead? reading = some (registry.canonical written, site.raw) := by
  obtain ⟨written, given, has⟩ := reads.field
  refine ⟨written, given, ?_⟩
  rw [Code.fieldRead?, has.operand_eq]
  rfl

/-- An instruction names what is noted where the site is read. -/
theorem ReadsFor.siblingsRead {reading : Instruction} {site : Site}
    (reads : code.ReadsFor registry reading site) :
    code.siblingsRead registry reading = site.interests registry := by
  obtain ⟨written, given, read⟩ := reads.fieldRead?
  rw [Code.siblingsRead, read, Site.interests_eq given]
  rfl

theorem ReadsFor.referenceRead? {reading : Instruction} {site : Site}
    (reads : code.ReadsFor registry reading site) (raw : Bool) :
    code.referenceRead? raw reading = site.reference? registry raw := by
  obtain ⟨written, given, read⟩ := reads.fieldRead?
  rw [Code.referenceRead?, Site.reference?, read, given, reads.opcode, Site.isReferring_opcode,
    Option.bind_some, Option.map_some]
  cases refers : site.isReference with
  | false => simp
  | true => rw [Site.raw_of_isReference refers]

/-- **Code that records what it reads notes what its instructions read.** -/
theorem Records.notesReads {sites : List Site} (records : Records registry .empty sites code) :
    code.NotesReads registry := by
  obtain ⟨added, readings, reads⟩ := records.reads
  obtain rfl : code.readings = added := readings
  have noted : code.interesting = (code.readings.flatMap (code.siblingsRead registry)).eraseDups := by
    rw [records.interesting, List.flatMap_def, List.flatMap_def,
      map_eq_of_forall₂ reads fun _ _ here => here.siblingsRead]
    exact foldl_addOnce _
  have referred (raw : Bool) : code.readings.filterMap (code.referenceRead? raw) =
      sites.filterMap (Site.reference? registry raw) := by
    have same := map_eq_of_forall₂ reads fun _ _ here => here.referenceRead? raw
    have collected := congrArg (List.filterMap id) same
    rwa [List.filterMap_map, List.filterMap_map] at collected
  have named : List.Forall₂ (fun reading site => (code.fieldRead? reading).isSome = true ∧
      code.ReadsFor registry reading site) code.readings sites := by
    refine reads.imp fun reading site here => ⟨?_, here⟩
    obtain ⟨written, _, read⟩ := here.fieldRead?
    rw [read]
    rfl
  refine ⟨((List.forall₂_and_left _ _).mp named).1, ?_, noted, ?_, ?_⟩
  · rw [noted]
    exact nodup_eraseDups _
  · rw [records.references, referred]
    exact foldl_addOnce _
  · rw [records.rawReferences, referred]
    exact foldl_addOnce _

end Code

/-- **The lists of fields say exactly what a compiled program reads.** Whatever tree is compiled, the
interesting fields are those that share an abbreviation with a field some instruction reads or tests
for presence, and the references those that are read through references, cooked and raw; each stands
once and in the order of the instructions. With or without optimization the lists are the same. -/
theorem compileTree_notesReads (config : CompileConfig) (root : Node) (code : Code)
    (events : List CompileEvent) (compiled : compileTree config root = .ok (code, events)) :
    code.NotesReads config.registry ∧
      ∀ optimize, ∃ other more, compileTree { config with optimize } root = .ok (other, more) ∧
        other.interesting = code.interesting ∧ other.references = code.references ∧
        other.rawReferences = code.rawReferences := by
  have records := compileTree_records compiled
  refine ⟨records.notesReads, fun optimize => ?_⟩
  obtain ⟨admitted, original, made, _⟩ := compileTree_ok_iff.mp ⟨events, compiled⟩
  obtain ⟨more, again⟩ : ∃ more, compileTree { config with optimize } root =
      .ok ((optimizedCode optimize original).1, more) :=
    compileTree_ok_iff.mpr ⟨admitted, original, made, rfl⟩
  have others := compileTree_records again
  exact ⟨_, more, again, others.interesting.trans records.interesting.symm,
    others.references.trans records.references.symm,
    others.rawReferences.trans records.rawReferences.symm⟩

example : (compileTree ⟨.pairing, true, false, false⟩ negatedMember).toOption.map
    (fun compiled => (compiled.1.interesting.map Field.id, compiled.1.references.map Field.id)) =
      some ([3, 7, 1, 5, 0, 4, 2, 6], [1]) := by
  decide +kernel

/-- The optimized program of the membership test notes what it reads, as the plain one does. -/
theorem negatedMember_notesReads :
    ∃ code events, compileTree ⟨.pairing, true, false, false⟩ negatedMember = .ok (code, events) ∧
      code.NotesReads .pairing ∧
      ∀ optimize, ∃ other more,
        compileTree ⟨.pairing, optimize, false, false⟩ negatedMember = .ok (other, more) ∧
        other.interesting = code.interesting ∧ other.references = code.references ∧
        other.rawReferences = code.rawReferences := by
  obtain ⟨⟨code, events⟩, compiled⟩ : ∃ compiled,
      compileTree ⟨.pairing, true, false, false⟩ negatedMember = .ok compiled :=
    compiles_iff.mpr ⟨.inr rfl, rfl⟩
  exact ⟨code, events, compiled, compileTree_notesReads _ _ code events compiled⟩

end DisplayFilter
