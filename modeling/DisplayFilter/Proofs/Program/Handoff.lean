/-
**The JSON form keeps the structure of programs.**

A program is handed to the machine as a JSON document. The document leaves out slots that an opcode
does not use and members that are empty, and it names opcodes and kinds of operands. Nothing of the
structure is lost by that: it can be read back from the document of any accepted program.

* `JsonValue.find_textMember`, `find_fieldsMember`: members that may be left out are read back.
* `Opcode.ofMnemonic_mnemonic`: known opcodes are told by their names.
* `Instruction.ofJson_instructionJson`: accepted instructions are read back.
* `OperandShape.ofJson_operandJson`: operands are read back up to their shape.
* `Program.shape`, `ProgramShape.ofJson_toJson`: so are programs.
* `Program.toJson_isPlain`: the text of a program without stray octets tells its document.
* `Program.json_keepsShape`: programs with one JSON text have one shape.
-/

import DisplayFilter.Proofs.Json.Compact
import DisplayFilter.Proofs.Lists
import DisplayFilter.Proofs.Program.Verified
import Mathlib.Data.List.Nodup

namespace DisplayFilter

/-! ### Reading documents -/

namespace JsonValue

/-- The text of a JSON string; what is left out has none. -/
def toText : JsonValue → RawText
  | .string value => value
  | _ => .empty

/-- The characters of a JSON string. -/
def toName (json : JsonValue) : String :=
  json.toText.shown

/-- The items of a JSON array; what is left out has none. -/
def items : JsonValue → List JsonValue
  | .array items => items
  | _ => []

/-- Whether a JSON value is true; what is left out is not. -/
def isTrue : JsonValue → Bool
  | .bool value => value
  | _ => false

/-- The value under a key among members; what is left out is null. -/
def find (key : String) (members : List (String × JsonValue)) : JsonValue :=
  (members.lookup key).getD .null

/-- The value under a key of an object. -/
def member (key : String) : JsonValue → JsonValue
  | .object members => find key members
  | _ => .null

theorem find_cons_self (key : String) (value : JsonValue) (rest : List (String × JsonValue)) :
    find key ((key, value) :: rest) = value := by
  rw [find, List.lookup_cons_self, Option.getD_some]

/-- **A text that may be left out is read back.** -/
theorem find_textMember {key : String} {rest : List (String × JsonValue)}
    (other : find key rest = .null) (value : RawText) :
    (find key (textMember key value ++ rest)).toText = value := by
  by_cases empty : value.isEmpty = true
  · obtain ⟨glyphs⟩ := value
    rw [textMember, if_pos empty, List.nil_append, other]
    exact congrArg RawText.mk (List.isEmpty_iff.mp empty).symm
  · rw [textMember, if_neg empty, List.cons_append, find_cons_self]
    rfl

/-- A name that may be left out is read back where it is the only member besides the kind. -/
theorem toName_textMember {key : String} (other : (key == "kind") = false) (kind : JsonValue)
    (name : String) :
    (member key (.object (("kind", kind) :: textMember key name))).toName = name := by
  have text : (find key (textMember key name ++ [])).toText = name := find_textMember rfl name
  rw [List.append_nil] at text
  rw [member, find, List.lookup_cons, other, toName]
  exact (congrArg RawText.shown text).trans (RawText.shown_ofString name)

/-- Other members are found behind a text. -/
theorem find_textMember_ne {key other : String} (differs : (other == key) = false)
    (value : RawText) (rest : List (String × JsonValue)) :
    find other (textMember key value ++ rest) = find other rest := by
  unfold textMember
  split
  · rfl
  · rw [List.cons_append, List.nil_append, find, List.lookup_cons, differs]
    rfl

end JsonValue

open JsonValue

/-! ### Fields -/

/-- What the JSON form of a field tells of it. -/
structure FieldShape where
  id : Int
  abbreviation : RawText
deriving DecidableEq, Repr

/-- What the JSON form of a field tells of it. -/
def Field.shape (field : Field) : FieldShape :=
  ⟨field.id, field.abbreviation⟩

/-- The shape of a field, read from its JSON form. -/
def FieldShape.ofJson (json : JsonValue) : FieldShape :=
  ⟨(json.member "id").toInt, (json.member "abbrev").toText⟩

theorem FieldShape.ofJson_fieldJson (field : Field) :
    ofJson (Program.fieldJson field) = field.shape := by
  show FieldShape.mk (ofInt field.id).toInt field.abbreviation = field.shape
  rw [toInt_ofInt]
  rfl

theorem FieldShape.map_ofJson (fields : List Field) :
    (fields.map Program.fieldJson).map ofJson = fields.map Field.shape := by
  rw [List.map_map]
  exact List.map_congr_left fun field _ => ofJson_fieldJson field

/-- **A list of fields that may be left out is read back.** -/
theorem find_fieldsMember {key : String} {rest : List (String × JsonValue)}
    (other : find key rest = .null) (fields : List Field) :
    (find key (Program.fieldsMember key fields ++ rest)).items.map FieldShape.ofJson =
      fields.map Field.shape := by
  cases fields with
  | nil =>
    show (find key rest).items.map FieldShape.ofJson = []
    rw [other]
    rfl
  | cons first fields =>
    show (find key ((key, _) :: rest)).items.map FieldShape.ofJson = _
    rw [find_cons_self]
    exact FieldShape.map_ofJson (first :: fields)

theorem find_fieldsMember_ne {key other : String} (differs : (other == key) = false)
    (fields : List Field) (rest : List (String × JsonValue)) :
    find other (Program.fieldsMember key fields ++ rest) = find other rest := by
  unfold Program.fieldsMember
  split
  · rfl
  · rw [List.cons_append, List.nil_append, find, List.lookup_cons, differs]
    rfl

/-! ### Instructions -/

/-- The opcode of a name. -/
def Opcode.ofMnemonic (name : String) : Opcode :=
  (declared.find? fun opcode => opcode.mnemonic == name).getD (.unknown 0)

theorem Opcode.mem_declared {opcode : Opcode} : opcode ∈ declared ↔ opcode.isKnown = true := by
  cases opcode <;> simp [declared, isKnown]

/-- Every known opcode has a name of its own. -/
theorem Opcode.nodup_mnemonics : (declared.map mnemonic).Nodup := by decide +kernel

/-- **Known opcodes are told by their names.** -/
theorem Opcode.ofMnemonic_mnemonic {opcode : Opcode} (known : opcode.isKnown = true) :
    ofMnemonic opcode.mnemonic = opcode := by
  have member : opcode ∈ declared := mem_declared.mpr known
  unfold ofMnemonic
  cases found : declared.find? fun other => other.mnemonic == opcode.mnemonic with
  | none =>
    have different := List.find?_eq_none.mp found opcode member
    exact absurd (beq_self_eq_true _) different
  | some other =>
    have named : other.mnemonic = opcode.mnemonic := by simpa using List.find?_some found
    exact List.inj_on_of_nodup_map nodup_mnemonics (List.mem_of_find?_eq_some found) member named

namespace Instruction

/-- Whether the opcode of an instruction is known and uses every slot that holds an operand. -/
structure Tidy (instruction : Instruction) : Prop where
  known : instruction.opcode.isKnown = true
  used : ∀ (slot : Nat) (handle : Handle), instruction.slots[slot]? = some handle →
    handle = noOperand ∨ slot < instruction.opcode.operandCount

/-- **The slots in use tell all slots.** -/
theorem Tidy.of_take {instruction : Instruction} (tidy : instruction.Tidy) :
    of instruction.id instruction.opcode
      (instruction.slots.take instruction.opcode.operandCount) = instruction := by
  have slot (place : Nat) {handle : Handle} (held : instruction.slots[place]? = some handle) :
      (instruction.slots.take instruction.opcode.operandCount)[place]?.getD noOperand = handle := by
    rw [List.getElem?_take]
    split
    · rw [held, Option.getD_some]
    · rename_i beyond
      exact ((tidy.used place handle held).resolve_right beyond).symm
  rw [of, slot 0 rfl, slot 1 rfl, slot 2 rfl]

/-- An instruction, read from its JSON form. -/
def ofJson (json : JsonValue) : Instruction :=
  of (json.member "id").toInt (.ofMnemonic (json.member "op").toName)
    ((json.member "args").items.map toInt)

/-- **Tidy instructions are read back.** -/
theorem ofJson_instructionJson {instruction : Instruction} (tidy : instruction.Tidy) :
    ofJson (Program.instructionJson instruction) = instruction := by
  show of (ofInt instruction.id).toInt
    (.ofMnemonic (RawText.ofString instruction.opcode.mnemonic).shown)
    (((instruction.slots.take instruction.opcode.operandCount).map ofInt).map toInt) = instruction
  have handles (list : List Handle) : (list.map ofInt).map toInt = list := by
    rw [List.map_map]
    exact (List.map_congr_left fun handle _ => toInt_ofInt handle).trans (List.map_id list)
  rw [toInt_ofInt, RawText.shown_ofString, Opcode.ofMnemonic_mnemonic tidy.known, handles,
    tidy.of_take]

end Instruction

/-- Instructions of accepted programs are tidy. -/
theorem Program.tidy {program : Program} (accepted : program.verifyFault? = none) :
    ∀ instruction ∈ program.instructions.toList, instruction.Tidy := by
  have verified : verify program.instructions program.arena program.registers = [] :=
    verifyFault?_eq_none.mp accepted
  intro instruction member
  obtain ⟨index, found⟩ := List.mem_iff_getElem?.mp member
  rw [Array.getElem?_toList] at found
  obtain ⟨_, known, slots, _⟩ :=
    instructionFindings_eq_nil.mp ((verify_eq_nil.mp verified).2 index instruction found)
  refine ⟨known, fun slot handle held => ?_⟩
  exact (slotFindings_eq_nil.mp (slots slot handle held)).imp_right And.left

/-! ### Operands -/

/-- What the JSON form of an operand tells of it: its kind, and what operands of the kind hold.
Ranges and patterns are told by their text, and of constants only that they are such. -/
inductive OperandShape where
  | empty
  | register (number : Int)
  | field (shape : FieldShape) (raw : Bool)
  | range (text : String)
  | constant
  | function (name : String)
  | pattern (text : String)
  | target (number : Int)
  | count (number : Int)
  /-- An operand without a JSON form. -/
  | hidden
deriving DecidableEq, Repr

/-- The text of a pattern; no pattern has none. -/
def Pattern.textOf (pattern? : Option Pattern) : String :=
  (pattern?.map Pattern.source).getD ""

/-- What the JSON form of an operand tells of it. -/
def Operand.shape (operand : Operand) : OperandShape :=
  match operand.content with
  | .empty => .empty
  | .register => .register operand.number
  | .field (some field) raw => .field field.shape raw
  | .range range? => .range (ByteRange.text (windows range?))
  | .constant _ => .constant
  | .function name => .function name
  | .pattern pattern? => .pattern (Pattern.textOf pattern?)
  | .target => .target operand.number
  | .count => .count operand.number
  | .field .none _ | .unknown _ => .hidden

namespace OperandShape

/-- How the members of an operand are read, by the name of its kind. -/
def readers : List (String × (JsonValue → OperandShape)) :=
  [("empty", fun _ => .empty),
    ("register", fun json => .register (json.member "number").toInt),
    ("field", fun json => .field ⟨(json.member "field_id").toInt,
      (json.member "field").toText⟩ (json.member "raw").isTrue),
    ("drange", fun json => .range (json.member "range").toName),
    ("fvalue", fun _ => .constant),
    ("function", fun json => .function (json.member "function").toName),
    ("pattern", fun json => .pattern (json.member "pattern").toName),
    ("insn_number", fun json => .target (json.member "number").toInt),
    ("uint", fun json => .count (json.member "number").toInt)]

/-- The shape of an operand, read from its JSON form. -/
def ofJson (json : JsonValue) : OperandShape :=
  match readers.find? fun reader => reader.1 == (json.member "kind").toName with
  | some reader => reader.2 json
  | none => .hidden

/-- The kind of an operand tells how its members are read. -/
theorem ofJson_eq {kind : String} {reader : JsonValue → OperandShape}
    {members : List (String × JsonValue)}
    (known : readers.find? (fun reader => reader.1 == kind) = some (kind, reader)) :
    ofJson (.object (("kind", .string kind) :: members)) =
      reader (.object (("kind", .string kind) :: members)) := by
  have named : (member "kind" (.object (("kind", .string kind) :: members))).toName = kind := by
    rw [member, find_cons_self]
    exact RawText.shown_ofString kind
  rw [ofJson, named, known]

/-- The shape of a field is read from its operand. -/
theorem field_members (kind : JsonValue) (operand : Field) (raw : Bool) :
    let json := JsonValue.object (("kind", kind) :: (textMember "field" operand.abbreviation ++
      [("field_id", ofInt operand.id)] ++ if raw then [("raw", .bool true)] else []))
    (json.member "field_id").toInt = operand.id ∧
      (json.member "field").toText = operand.abbreviation ∧ (json.member "raw").isTrue = raw := by
  rw [List.append_assoc]
  refine ⟨?_, ?_, ?_⟩
  · show (find "field_id" (textMember "field" operand.abbreviation ++ _)).toInt = operand.id
    rw [find_textMember_ne rfl]
    exact toInt_ofInt operand.id
  · show (find "field" (textMember "field" operand.abbreviation ++ _)).toText = _
    refine find_textMember ?_ _
    cases raw <;> rfl
  · show (find "raw" (textMember "field" operand.abbreviation ++ _)).isTrue = raw
    rw [find_textMember_ne rfl]
    cases raw <;> rfl

/-- **Operands are read back up to their shape.** -/
theorem ofJson_operandJson {index : Nat} {operand : Operand} {json : JsonValue}
    (made : Program.operandJson index operand = .ok json) : ofJson json = operand.shape := by
  obtain ⟨content, number⟩ := operand
  cases content with
  | empty | constant =>
    cases made
    exact (ofJson_eq (by rfl)).trans rfl
  | register =>
    cases made
    refine (ofJson_eq rfl).trans ?_
    exact congrArg register (toInt_ofInt number)
  | target =>
    cases made
    refine (ofJson_eq rfl).trans ?_
    exact congrArg target (toInt_ofInt number)
  | count =>
    cases made
    refine (ofJson_eq rfl).trans ?_
    exact congrArg count (toInt_ofInt number)
  | field field? raw =>
    cases field? with
    | none => cases made
    | some operand =>
      cases made
      refine (ofJson_eq rfl).trans ?_
      obtain ⟨id, abbreviation, isRaw⟩ := field_members _ operand raw
      exact congrArg₂ field (congrArg₂ FieldShape.mk id abbreviation) isRaw
  | range range? =>
    cases made
    refine (ofJson_eq rfl).trans ?_
    exact congrArg range (toName_textMember rfl _ _)
  | function name =>
    cases made
    refine (ofJson_eq rfl).trans ?_
    exact congrArg function (toName_textMember rfl _ _)
  | pattern pattern? =>
    cases pattern? with
    | none =>
      cases made
      exact (ofJson_eq (by rfl)).trans rfl
    | some pattern =>
      cases made
      refine (ofJson_eq rfl).trans ?_
      exact congrArg OperandShape.pattern (toName_textMember rfl _ _)
  | unknown kind => cases made

end OperandShape

/-! ### Programs -/

/-- What the JSON form of a program tells of it. -/
@[ext]
structure ProgramShape where
  instructions : List Instruction
  operands : List OperandShape
  registers : Int
  interesting : List FieldShape
  references : List FieldShape
  rawReferences : List FieldShape
deriving DecidableEq, Repr

/-- What the JSON form of a program tells of it. -/
def Program.shape (program : Program) : ProgramShape where
  instructions := program.instructions.toList
  operands := program.arena.toList.map Operand.shape
  registers := program.registers
  interesting := program.interesting.map Field.shape
  references := program.references.map Field.shape
  rawReferences := program.rawReferences.map Field.shape

/-- The shape of a program, read from its document. -/
def ProgramShape.ofJson (document : JsonValue) : ProgramShape where
  instructions := (document.member "instructions").items.map .ofJson
  operands := (document.member "values").items.map .ofJson
  registers := (document.member "registers").toInt
  interesting := (document.member "interesting_fields").items.map .ofJson
  references := (document.member "references").items.map .ofJson
  rawReferences := (document.member "raw_references").items.map .ofJson

/-- What the document of a program consists of. -/
theorem Program.toJson_ok {program : Program} {document : JsonValue}
    (made : program.toJson = .ok document) : ∃ operands,
      program.arena.toList.zipIdx.mapM (fun (operand, index) => operandJson index operand) =
        .ok operands ∧
      document = .object ([("instructions", .array (program.instructions.toList.map instructionJson)),
        ("values", .array operands), ("registers", .ofInt program.registers),
        ("interesting_fields", if program.interesting.isEmpty then .null
          else .array (program.interesting.map fieldJson))] ++
        fieldsMember "references" program.references ++
        fieldsMember "raw_references" program.rawReferences) := by
  unfold Program.toJson at made
  cases operands : program.arena.toList.zipIdx.mapM
      (fun (operand, index) => operandJson index operand) with
  | error error =>
    rw [operands] at made
    cases made
  | ok values =>
    rw [operands] at made
    refine ⟨values, rfl, ?_⟩
    cases unsupported : program.unsupportedNumber? with
    | some text =>
      rw [unsupported] at made
      cases made
    | none =>
      rw [unsupported] at made
      exact (Except.ok.inj made).symm

/-- **The document of an accepted program tells its shape.** -/
theorem ProgramShape.ofJson_toJson {program : Program} {document : JsonValue}
    (accepted : program.verifyFault? = none) (made : program.toJson = .ok document) :
    ofJson document = program.shape := by
  obtain ⟨values, operands, rfl⟩ := Program.toJson_ok made
  have instructions : (program.instructions.toList.map Program.instructionJson).map
      Instruction.ofJson = program.instructions.toList := by
    rw [List.map_map]
    refine (List.map_congr_left fun instruction member => ?_).trans (List.map_id _)
    exact Instruction.ofJson_instructionJson (Program.tidy accepted instruction member)
  have arena : values.map OperandShape.ofJson = program.arena.toList.map Operand.shape := by
    have shapes := map_eq_of_forall₂ (f := Operand.shape ∘ Prod.fst) (g := OperandShape.ofJson)
      (mapM_eq_ok_iff.mp operands)
      fun place json written => (OperandShape.ofJson_operandJson written).symm
    rw [← shapes, ← List.map_map, List.zipIdx_map_fst]
  have interesting : (if program.interesting.isEmpty then JsonValue.null
      else .array (program.interesting.map Program.fieldJson)).items.map FieldShape.ofJson =
        program.interesting.map Field.shape := by
    cases program.interesting with
    | nil => rfl
    | cons first fields => exact FieldShape.map_ofJson (first :: fields)
  have references : (find "references" (Program.fieldsMember "references" program.references ++
      Program.fieldsMember "raw_references" program.rawReferences)).items.map FieldShape.ofJson =
        program.references.map Field.shape := by
    refine find_fieldsMember ?_ program.references
    unfold Program.fieldsMember
    split <;> rfl
  have rawReferences : (find "raw_references" (Program.fieldsMember "references" program.references ++
      Program.fieldsMember "raw_references" program.rawReferences)).items.map FieldShape.ofJson =
        program.rawReferences.map Field.shape := by
    rw [find_fieldsMember_ne rfl, ← List.append_nil (Program.fieldsMember _ _)]
    exact find_fieldsMember rfl program.rawReferences
  rw [List.append_assoc]
  exact ProgramShape.ext instructions arena (toInt_ofInt _) interesting references rawReferences

/-! ### Programs whose text tells their document -/

theorem JsonValue.havePlain_textMember (key : String) {value : RawText}
    (wellFormed : value.IsWellFormed) : HavePlain (textMember key value) := by
  unfold textMember
  split
  · trivial
  · exact ⟨wellFormed, trivial⟩

/-- Whether an operand shows no field whose abbreviation holds stray octets and no constant without
a plain document. -/
def Operand.HasPlainTexts (operand : Operand) : Prop :=
  match operand.content with
  | .field (some field) _ => field.abbreviation.IsWellFormed
  | .constant value => ∀ json ∈ value.toJson?, json.IsPlain
  | _ => True

namespace Program

/-- Whether a program shows no field whose abbreviation holds stray octets and no constant without
a plain document. -/
structure HasPlainTexts (program : Program) : Prop where
  operands : ∀ operand ∈ program.arena.toList, operand.HasPlainTexts
  interesting : ∀ field ∈ program.interesting, field.abbreviation.IsWellFormed
  references : ∀ field ∈ program.references, field.abbreviation.IsWellFormed
  rawReferences : ∀ field ∈ program.rawReferences, field.abbreviation.IsWellFormed

theorem instructionJson_isPlain (instruction : Instruction) :
    (instructionJson instruction).IsPlain := by
  have slots : ∀ json ∈ (instruction.slots.take instruction.opcode.operandCount).map ofInt,
      json.IsPlain :=
    List.forall_mem_map.mpr fun handle _ => isPlain_ofInt handle
  exact ⟨isPlain_ofInt _, RawText.isWellFormed_ofString _, arePlain_iff.mpr slots, trivial⟩

theorem fieldJson_isPlain {field : Field} (wellFormed : field.abbreviation.IsWellFormed) :
    (fieldJson field).IsPlain :=
  ⟨isPlain_ofInt _, wellFormed, trivial⟩

theorem fieldsJson_arePlain {fields : List Field}
    (wellFormed : ∀ field ∈ fields, field.abbreviation.IsWellFormed) :
    ArePlain (fields.map fieldJson) :=
  arePlain_iff.mpr (List.forall_mem_map.mpr fun field member =>
    fieldJson_isPlain (wellFormed field member))

theorem fieldsMember_havePlain (key : String) {fields : List Field}
    (wellFormed : ∀ field ∈ fields, field.abbreviation.IsWellFormed) :
    HavePlain (fieldsMember key fields) := by
  unfold fieldsMember
  split
  · trivial
  · exact ⟨fieldsJson_arePlain wellFormed, trivial⟩

theorem havePlain_append {members more : List (String × JsonValue)} (plain : HavePlain members)
    (also : HavePlain more) : HavePlain (members ++ more) :=
  havePlain_iff.mpr (List.forall_mem_append.mpr ⟨havePlain_iff.mp plain, havePlain_iff.mp also⟩)

theorem operandJson_ok {index : Nat} {operand : Operand} {json : JsonValue}
    (made : operandJson index operand = .ok json) : ∃ members,
      operandMembers index operand = .ok members ∧
        json = .object (("kind", .string operand.kindName) :: members) := by
  unfold operandJson at made
  cases known : operandMembers index operand with
  | error error =>
    rw [known] at made
    cases made
  | ok members =>
    rw [known] at made
    exact ⟨members, rfl, (Except.ok.inj made).symm⟩

theorem operandMembers_havePlain {index : Nat} {operand : Operand}
    {members : List (String × JsonValue)} (plain : operand.HasPlainTexts)
    (made : operandMembers index operand = .ok members) : HavePlain members := by
  obtain ⟨content, number⟩ := operand
  have named (key name : String) : HavePlain (textMember key name) :=
    havePlain_textMember key (RawText.isWellFormed_ofString name)
  cases content with
  | empty =>
    cases made
    trivial
  | register | target | count =>
    cases made
    exact ⟨isPlain_ofInt number, trivial⟩
  | field field? raw =>
    cases field? with
    | none => cases made
    | some operand =>
      cases made
      refine havePlain_append (havePlain_append (havePlain_textMember _ plain)
        ⟨isPlain_ofInt _, trivial⟩) ?_
      cases raw <;> trivial
  | range range? =>
    cases made
    exact named _ _
  | constant value =>
    cases made
    refine havePlain_iff.mpr (List.forall_mem_map.mpr fun json member => ?_)
    exact plain json (Option.mem_toList.mp member)
  | function name =>
    cases made
    exact named _ _
  | pattern pattern? =>
    cases pattern? with
    | none =>
      cases made
      trivial
    | some pattern =>
      cases made
      exact named _ _
  | unknown kind => cases made

/-- **The document of a program whose texts hold no stray octets is plain.** So the text of the
program tells it, by `JsonValue.compact_injective`. -/
theorem toJson_isPlain {program : Program} {document : JsonValue} (plain : program.HasPlainTexts)
    (made : program.toJson = .ok document) : document.IsPlain := by
  obtain ⟨operands, written, rfl⟩ := toJson_ok made
  have instructions : ArePlain (program.instructions.toList.map instructionJson) :=
    arePlain_iff.mpr (List.forall_mem_map.mpr fun instruction _ =>
      instructionJson_isPlain instruction)
  have values : ArePlain operands := by
    refine arePlain_iff.mpr fun json member => ?_
    obtain ⟨⟨operand, index⟩, place, made⟩ :=
      exists_of_forall₂ (mapM_eq_ok_iff.mp written) member
    obtain ⟨members, holds, rfl⟩ := operandJson_ok made
    have among : operand ∈ program.arena.toList := by
      rw [← List.zipIdx_map_fst 0 program.arena.toList]
      exact List.mem_map_of_mem place
    exact ⟨RawText.isWellFormed_ofString _,
      operandMembers_havePlain (plain.operands operand among) holds⟩
  have interesting : IsPlain (if program.interesting.isEmpty then JsonValue.null
      else .array (program.interesting.map fieldJson)) := by
    split
    · trivial
    · exact fieldsJson_arePlain plain.interesting
  exact havePlain_append (havePlain_append
    ⟨instructions, values, isPlain_ofInt _, interesting, trivial⟩
    (fieldsMember_havePlain _ plain.references)) (fieldsMember_havePlain _ plain.rawReferences)

end Program

/-! ### Main result -/

/-- **Programs with one JSON text have one shape.** Take two programs that are accepted by the
verifier and have a JSON form, where the text tells their documents apart, as it does without stray
octets. If the texts are the same, the programs have the same instructions with their ids, opcodes and
slots, as many registers, arenas of one length whose operands agree in kind and in what operands of
that kind hold, up to the constants and to how ranges, patterns and fields are told, and lists of
fields with the same ids and abbreviations. -/
theorem Program.json_keepsShape (program other : Program) (text : String)
    (accepted : program.verifyFault? = none) (also : other.verifyFault? = none)
    (written : program.json = .ok text) (same : other.json = .ok text)
    (faithful : ∀ document document', program.toJson = .ok document →
      other.toJson = .ok document' → document.compact = document'.compact → document = document') :
    program.shape = other.shape := by
  unfold Program.json at written same
  split at written
  · rename_i document made
    split at same
    · rename_i document' made'
      have equal := faithful document document' made made'
        ((Except.ok.inj written).trans (Except.ok.inj same).symm)
      rw [← ProgramShape.ofJson_toJson accepted made, equal, ProgramShape.ofJson_toJson also made']
    · cases same
  · cases written

/-- A program that matches bytes of one field with a pattern. -/
def matching (name : RawText) (range? : Option ByteRange) (pattern? : Option Pattern) : Program where
  instructions := #[.of 0 .readTreeRange [0, 1, 2], .of 1 .anyMatches [1, 3], .of 2 .halt []]
  arena := #[⟨.field (some ⟨7, .ofString "a", name, .empty⟩) true, 0⟩, .register 0,
    ⟨.range range?, 0⟩, ⟨.pattern pattern?, 0⟩]
  registers := 1
  interesting := [⟨7, .ofString "a", name, .empty⟩]
  references := []
  rawReferences := [⟨7, .ofString "a", name, .empty⟩]

theorem matching_hasPlainTexts (name : RawText) (range? : Option ByteRange)
    (pattern? : Option Pattern) : (matching name range? pattern?).HasPlainTexts where
  operands := List.forall_mem_cons.mpr ⟨RawText.isWellFormed_ofString "a",
    List.forall_mem_cons.mpr ⟨trivial, List.forall_mem_cons.mpr ⟨trivial,
      List.forall_mem_singleton.mpr trivial⟩⟩⟩
  interesting := List.forall_mem_singleton.mpr (RawText.isWellFormed_ofString "a")
  references := List.forall_mem_nil _
  rawReferences := List.forall_mem_singleton.mpr (RawText.isWellFormed_ofString "a")

/-- The name of a field, an empty range and an empty pattern are not told. -/
theorem matching_toJson : (matching .empty none none).toJson =
    (matching (.ofString "Name") (some []) (some ⟨""⟩)).toJson :=
  rfl

/-- Two programs that differ in what their text leaves out have one shape. -/
theorem matching_keepsShape : ∃ text,
    (matching .empty none none).verifyFault? = none ∧
    (matching (.ofString "Name") (some []) (some ⟨""⟩)).verifyFault? = none ∧
    (matching .empty none none).json = .ok text ∧
    (matching (.ofString "Name") (some []) (some ⟨""⟩)).json = .ok text ∧
    (matching .empty none none).shape =
      (matching (.ofString "Name") (some []) (some ⟨""⟩)).shape := by
  obtain ⟨text, written⟩ : ∃ text, (matching .empty none none).json = .ok text := ⟨_, rfl⟩
  have same : (matching (.ofString "Name") (some []) (some ⟨""⟩)).json = .ok text := by
    rw [← written, Program.json, Program.json, matching_toJson]
  have accepted : (matching .empty none none).verifyFault? = none := by decide +kernel
  have also : (matching (.ofString "Name") (some []) (some ⟨""⟩)).verifyFault? = none := by
    decide +kernel
  refine ⟨text, accepted, also, written, same, ?_⟩
  refine Program.json_keepsShape _ _ text accepted also written same ?_
  exact fun document document' made made' =>
    compact_injective (Program.toJson_isPlain (matching_hasPlainTexts _ _ _) made)
      (Program.toJson_isPlain (matching_hasPlainTexts _ _ _) made')

end DisplayFilter
