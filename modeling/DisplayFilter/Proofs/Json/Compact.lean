/-
**One line tells a document.**

On one line, nothing but the characters themselves tells where a part of a document ends: a string
ends at the first quote that is not escaped, a number where a character follows that no number has,
and a collection at its bracket. So a document is determined by its line if no string of it holds
stray octets, which are all written alike, and its numbers are written as such.

* `JsonValue.unescape_escapeChar`: an escaped character is read back.
* `JsonValue.TellsEnd`: a text that tells its value and where it ends, whatever follows.
* `JsonValue.inside_unique`: what stands between brackets tells the items if each of them does.
* `JsonValue.compact_injective`: plain documents with one line are the same.
-/

import DisplayFilter.Proofs.Json.Numbers

namespace DisplayFilter

/-! ### Texts without stray octets -/

namespace RawText

theorem shown_ofString (text : String) : (ofString text).shown = text := by
  have same : ((text.toList.map Text.Glyph.character).map Text.Glyph.shown) = text.toList := by
    rw [List.map_map]
    exact List.map_id _
  rw [shown, chars, ofString, ofChars, same, String.ofList_toList]

/-- Whether no octet of a text is stray. -/
def IsWellFormed (text : RawText) : Prop :=
  text = ofString text.shown

theorem isWellFormed_ofString (text : String) : (ofString text).IsWellFormed := by
  rw [IsWellFormed, shown_ofString]

/-- Well-formed texts are told by their characters. -/
theorem IsWellFormed.ext {text other : RawText} (wellFormed : text.IsWellFormed)
    (also : other.IsWellFormed) (same : text.chars = other.chars) : text = other := by
  rw [wellFormed, also]
  exact congrArg (fun characters => ofString (String.ofList characters)) same

end RawText

/-! ### Escaped characters -/

namespace Text

/-- The number below sixteen that a lower-case hexadecimal digit stands for. -/
def hexValue (digit : Char) : Nat :=
  if digit.toNat < 58 then digit.toNat - 48 else digit.toNat - 87

theorem hexValue_hexDigit : ∀ digit < 16, hexValue (hexDigit digit) = digit := by
  decide

/-- The number that hexadecimal digits stand for. -/
def hexNumber (digits : List Char) : Nat :=
  digits.foldl (fun value digit => value * 16 + hexValue digit) 0

/-- **Four hexadecimal digits tell the numbers that have no more.** -/
theorem hexNumber_hexDigits {number : Nat} (small : number < 65536) :
    hexNumber (hexDigits 4 number) = number := by
  show (((0 * 16 + hexValue (hexDigit _)) * 16 + hexValue (hexDigit _)) * 16 +
    hexValue (hexDigit _)) * 16 + hexValue (hexDigit _) = number
  have digit (value : Nat) : hexValue (hexDigit (value % 16)) = value % 16 :=
    hexValue_hexDigit _ (Nat.mod_lt _ (by decide))
  rw [digit, digit, digit, digit]
  omega

end Text

namespace JsonValue

/-- The character that a letter other than `u` stands for behind a backslash. -/
def ofLetter (letter : Char) : Char :=
  if letter = 'b' then Char.ofNat 8
  else if letter = 'f' then Char.ofNat 12
  else if letter = 'n' then Char.ofNat 10
  else if letter = 'r' then Char.ofNat 13
  else if letter = 't' then Char.ofNat 9
  else letter

/-- The character at the head of an escaped text and what follows it; at the closing quote, there
is none. -/
def unescape : List Char → Option (Char × List Char)
  | [] => none
  | first :: rest =>
    if first = '"' then none
    else if first = '\\' then
      match rest with
      | [] => none
      | letter :: rest =>
        if letter = 'u' then some (Char.ofNat (Text.hexNumber (rest.take 4)), rest.drop 4)
        else some (ofLetter letter, rest)
    else some (first, rest)

/-- **An escaped character is read back.** -/
theorem unescape_escapeChar (markup : Bool) (character : Char) (rest : List Char) :
    unescape (escapeChar markup character ++ rest) = some (character, rest) := by
  have known {point : Nat} (same : character.toNat = point) : Char.ofNat point = character := by
    rw [← same, Char.ofNat_toNat]
  unfold escapeChar
  dsimp only
  split
  · rename_i special
    obtain quote | backslash := Bool.or_eq_true .. |>.mp special
    · rw [of_decide_eq_true quote]; rfl
    · rw [of_decide_eq_true backslash]; rfl
  · rename_i plain
    rw [Bool.or_eq_true, not_or, decide_eq_true_eq, decide_eq_true_eq] at plain
    -- The control characters that are written with a letter of their own.
    iterate 5
      split
      · rename_i same
        exact congrArg (fun read => some (read, rest)) (known same)
    split
    · rename_i coded
      have small : character.toNat < 65536 := by
        simp only [Bool.or_eq_true, Bool.and_eq_true, decide_eq_true_eq] at coded
        obtain ((control | line) | paragraph) | ⟨-, (rfl | rfl) | rfl⟩ := coded
        · omega
        · omega
        · omega
        all_goals decide
      exact congrArg (fun read => some (read, rest))
        (known (Text.hexNumber_hexDigits small).symm)
    · rw [List.singleton_append, unescape.eq_def]
      dsimp only
      rw [if_neg plain.1, if_neg plain.2]

/-- **The text before a closing quote and what follows the quote are told.** -/
theorem escape_unique {markup : Bool} {characters others rest rest' : List Char}
    (same : characters.flatMap (escapeChar markup) ++ '"' :: rest =
      others.flatMap (escapeChar markup) ++ '"' :: rest') : characters = others ∧ rest = rest' := by
  induction characters generalizing others with
  | nil =>
    cases others with
    | nil => exact ⟨rfl, (List.cons.inj same).2⟩
    | cons other others =>
      have read := congrArg unescape same
      rw [List.flatMap_cons, List.append_assoc, unescape_escapeChar] at read
      cases read
  | cons character characters ih =>
    have read := congrArg unescape same
    rw [List.flatMap_cons, List.append_assoc, unescape_escapeChar] at read
    cases others with
    | nil => cases read
    | cons other others =>
      rw [List.flatMap_cons, List.append_assoc, unescape_escapeChar] at read
      obtain ⟨rfl, behind⟩ := Prod.mk.inj (Option.some.inj read)
      obtain ⟨rfl, rfl⟩ := ih behind
      exact ⟨rfl, rfl⟩

/-! ### Texts that tell where they end -/

/-- Whether a character may stand in a number. -/
def isNumeric (character : Char) : Bool :=
  Number.isDigit character || "+-.eE".toList.contains character

/-- Whether what follows does not go on with a number. -/
def EndsNumber (rest : List Char) : Prop :=
  ∀ character ∈ rest.head?, isNumeric character = false

/-- Texts that tell their values and where they end, whatever follows that does not go on with a
number. -/
def TellsEnd {α : Type} (plain : α → Prop) (text : α → List Char) (value : α) : Prop :=
  ∀ (other : α) (rest rest' : List Char), plain other → EndsNumber rest → EndsNumber rest' →
    text value ++ rest = text other ++ rest' → value = other ∧ rest = rest'

section Collections

variable {α : Type} (text : α → List Char) (close : Char)

/-- What stands behind the first item of a collection. -/
def behind (rest : List Char) : List α → List Char
  | [] => close :: rest
  | item :: items => ',' :: (text item ++ behind rest items)

/-- What stands behind the opening bracket of a collection. -/
def inside (rest : List Char) : List α → List Char
  | [] => close :: rest
  | item :: items => text item ++ behind text close rest items

variable {text close}

theorem intercalate_inside (rest : List Char) (items : List α) :
    [','].intercalate (items.map text) ++ close :: rest = inside text close rest items := by
  have later (items : List α) (item : α) : [','].intercalate ((item :: items).map text) ++
      close :: rest = text item ++ behind text close rest items := by
    induction items generalizing item with
    | nil => rw [List.map_singleton, List.intercalate_singleton]; rfl
    | cons next items ih =>
      rw [List.map_cons, List.map_cons, List.intercalate_cons_cons, List.append_assoc,
        List.append_assoc, ← List.map_cons, ih]
      rfl
  cases items with
  | nil => rfl
  | cons item items => exact later items item

variable {plain : α → Prop} {items others : List α} {rest rest' : List Char}

theorem endsNumber_behind (closes : isNumeric close = false) :
    EndsNumber (behind text close rest items) := by
  cases items with
  | nil =>
    rintro _ ⟨⟩
    exact closes
  | cons item items =>
    rintro _ ⟨⟩
    decide

theorem behind_unique (closes : isNumeric close = false) (notComma : close ≠ ',')
    (tells : ∀ item ∈ items, TellsEnd plain text item) (arePlain : ∀ other ∈ others, plain other)
    (same : behind text close rest items = behind text close rest' others) :
    items = others ∧ rest = rest' := by
  induction items generalizing others with
  | nil =>
    cases others with
    | nil => exact ⟨rfl, (List.cons.inj same).2⟩
    | cons other others => exact absurd (List.cons.inj same).1 notComma
  | cons item items ih =>
    cases others with
    | nil => exact absurd (List.cons.inj same).1.symm notComma
    | cons other others =>
      obtain ⟨rfl, later⟩ := tells item List.mem_cons_self other _ _
        (arePlain other List.mem_cons_self) (endsNumber_behind closes) (endsNumber_behind closes)
        (List.cons.inj same).2
      obtain ⟨rfl, rfl⟩ := ih (fun item member => tells item (List.mem_cons_of_mem _ member))
        (fun other member => arePlain other (List.mem_cons_of_mem _ member)) later
      exact ⟨rfl, rfl⟩

/-- **What stands between brackets tells the items if each item tells where it ends.** -/
theorem inside_unique (closes : isNumeric close = false) (notComma : close ≠ ',')
    (opens : ∀ item rest rest', plain item → text item ++ rest ≠ close :: rest')
    (arePlain : ∀ item ∈ items, plain item) (alsoPlain : ∀ other ∈ others, plain other)
    (tells : ∀ item ∈ items, TellsEnd plain text item)
    (same : inside text close rest items = inside text close rest' others) :
    items = others ∧ rest = rest' := by
  cases items with
  | nil =>
    cases others with
    | nil => exact ⟨rfl, (List.cons.inj same).2⟩
    | cons other others =>
      exact absurd same.symm (opens other _ _ (alsoPlain other List.mem_cons_self))
  | cons item items =>
    cases others with
    | nil => exact absurd same (opens item _ _ (arePlain item List.mem_cons_self))
    | cons other others =>
      exact behind_unique closes notComma tells alsoPlain (congrArg (',' :: ·) same)

end Collections

/-! ### Plain documents -/

/-- Whether a text may be that of a number. -/
def IsNumeral (text : String) : Prop :=
  text.toList ≠ [] ∧ ∀ character ∈ text.toList, isNumeric character = true

mutual

/-- Whether no string of a document holds stray octets and its numbers are written as such. -/
def IsPlain : JsonValue → Prop
  | .null | .bool _ => True
  | .number text => IsNumeral text
  | .string value => value.IsWellFormed
  | .array items => ArePlain items
  | .object members => HavePlain members

/-- Whether several documents are plain. -/
def ArePlain : List JsonValue → Prop
  | [] => True
  | item :: items => item.IsPlain ∧ ArePlain items

/-- Whether the values of members are plain. -/
def HavePlain : List (String × JsonValue) → Prop
  | [] => True
  | (_, value) :: members => value.IsPlain ∧ HavePlain members

end

theorem arePlain_iff {items : List JsonValue} : ArePlain items ↔ ∀ item ∈ items, item.IsPlain := by
  induction items with
  | nil => simp [ArePlain]
  | cons item items ih => rw [ArePlain, ih, List.forall_mem_cons]

theorem havePlain_iff {members : List (String × JsonValue)} :
    HavePlain members ↔ ∀ member ∈ members, member.2.IsPlain := by
  induction members with
  | nil => simp [HavePlain]
  | cons member members ih => rw [HavePlain, ih, List.forall_mem_cons]

theorem isPlain_ofInt (number : Int) : (ofInt number).IsPlain := by
  have digit {number : Nat} {character : Char} (member : character ∈ Number.digits number) :
      isNumeric character = true := by
    rw [isNumeric, Number.isDigit_of_mem_digits member, Bool.true_or]
  rw [ofInt, IsPlain, IsNumeral, Number.decimal, String.toList_ofList]
  cases number with
  | ofNat number => exact ⟨Number.digits_ne_nil number, fun _ => digit⟩
  | negSucc number =>
    exact ⟨List.cons_ne_nil _ _, List.forall_mem_cons.mpr ⟨by decide, fun _ => digit⟩⟩

/-- The line of a document. -/
def line (document : JsonValue) : List Char :=
  document.compact.toList

/-- The line of a member. -/
def memberLine (member : String × JsonValue) : List Char :=
  '"' :: (escape true member.1 ++ '"' :: ':' :: member.2.line)

theorem line_string (value : RawText) : line (.string value) = '"' :: (escape true value ++ ['"']) :=
  String.toList_ofList

theorem toList_compactItems (items : List JsonValue) :
    (compactItems items).map String.toList = items.map line := by
  induction items with
  | nil => rfl
  | cons item items ih => rw [compactItems, List.map_cons, ih, List.map_cons, line]

theorem toList_compactMembers (members : List (String × JsonValue)) :
    (compactMembers members).map String.toList = members.map memberLine := by
  induction members with
  | nil => rfl
  | cons member members ih =>
    obtain ⟨key, value⟩ := member
    rw [compactMembers, List.map_cons, ih, List.map_cons, String.toList_append,
      String.toList_append, quoted, String.toList_ofList]
    simp [memberLine, line]

/-- **The line of an array, and what follows it.** -/
theorem line_array (items : List JsonValue) (rest : List Char) :
    line (.array items) ++ rest = '[' :: inside line ']' rest items := by
  rw [← intercalate_inside, line, compact, String.toList_append, String.toList_append,
    String.toList_intercalate, toList_compactItems]
  simp

/-- **The line of an object, and what follows it.** -/
theorem line_object (members : List (String × JsonValue)) (rest : List Char) :
    line (.object members) ++ rest = '\x7b' :: inside memberLine '\x7d' rest members := by
  rw [← intercalate_inside, line, compact, String.toList_append, String.toList_append,
    String.toList_intercalate, toList_compactMembers]
  simp

/-- Kinds of documents; the truth values are kinds of their own. -/
inductive Kind where
  | null
  | bool (value : Bool)
  | number
  | string
  | array
  | object

/-- The kind of a document. -/
def kind : JsonValue → Kind
  | .null => .null
  | .bool value => .bool value
  | .number _ => .number
  | .string _ => .string
  | .array _ => .array
  | .object _ => .object

/-- The kind of a document whose line starts with a character. -/
def Kind.ofStart? (character : Char) : Option Kind :=
  if isNumeric character then some .number
  else if character = 'n' then some .null
  else if character = 't' then some (.bool true)
  else if character = 'f' then some (.bool false)
  else if character = '"' then some .string
  else if character = '[' then some .array
  else if character = '\x7b' then some .object
  else none

/-- **The first character of a line tells the kind of the document.** -/
theorem line_start {document : JsonValue} (plain : document.IsPlain) :
    ∃ character line', document.line = character :: line' ∧
      Kind.ofStart? character = some document.kind := by
  cases document with
  | null => exact ⟨_, _, rfl, rfl⟩
  | bool value => cases value <;> exact ⟨_, _, rfl, rfl⟩
  | number text =>
    obtain ⟨nonempty, numeric⟩ := plain
    obtain ⟨character, line', written⟩ := List.exists_cons_of_ne_nil nonempty
    exact ⟨character, line', written, if_pos (numeric character (written ▸ List.mem_cons_self))⟩
  | string value => exact ⟨_, _, line_string value, rfl⟩
  | array items => exact ⟨_, _, (List.append_nil _).symm.trans (line_array items []), rfl⟩
  | object members => exact ⟨_, _, (List.append_nil _).symm.trans (line_object members []), rfl⟩

theorem kind_eq {document other : JsonValue} {rest rest' : List Char} (plain : document.IsPlain)
    (also : other.IsPlain) (same : document.line ++ rest = other.line ++ rest') :
    document.kind = other.kind := by
  obtain ⟨character, line', written, starts⟩ := line_start plain
  obtain ⟨character', line'', written', starts'⟩ := line_start also
  rw [written, written'] at same
  exact Option.some.inj (starts.symm.trans ((List.cons.inj same).1 ▸ starts'))

/-- No line starts with a character that tells no kind. -/
theorem line_ne {document : JsonValue} {character : Char} {rest rest' : List Char}
    (startless : Kind.ofStart? character = none) (plain : document.IsPlain) :
    document.line ++ rest ≠ character :: rest' := by
  intro same
  obtain ⟨first, line', written, starts⟩ := line_start plain
  rw [written] at same
  rw [(List.cons.inj same).1, startless] at starts
  cases starts

/-- The kinds of documents for which nothing else is to be told. -/
theorem tellsEnd_constant {document : JsonValue} (plain : document.IsPlain)
    (alone : ∀ other : JsonValue, document.kind = other.kind → document = other) :
    TellsEnd IsPlain line document := by
  intro other rest rest' also _ _ same
  obtain rfl := alone other (kind_eq plain also same)
  exact ⟨rfl, List.append_cancel_left same⟩

theorem IsNumeral.takeWhile {text : String} {rest : List Char} (numeral : IsNumeral text)
    (ends : EndsNumber rest) : (text.toList ++ rest).takeWhile isNumeric = text.toList := by
  rw [List.takeWhile_append_of_pos numeral.2]
  cases rest with
  | nil => exact List.append_nil _
  | cons character rest =>
    rw [List.takeWhile_cons_of_neg, List.append_nil]
    rw [ends character rfl]
    decide

theorem tellsEnd_number {text : String} (plain : IsPlain (.number text)) :
    TellsEnd IsPlain line (.number text) := by
  intro other rest rest' also ends ends' same
  cases other with
  | number text' =>
    have equal : text.toList = text'.toList := by
      rw [← IsNumeral.takeWhile plain ends, ← IsNumeral.takeWhile also ends']
      exact congrArg _ same
    obtain rfl := String.toList_inj.mp equal
    exact ⟨rfl, List.append_cancel_left same⟩
  | _ => cases kind_eq plain also same

theorem tellsEnd_string {value : RawText} (plain : IsPlain (.string value)) :
    TellsEnd IsPlain line (.string value) := by
  intro other rest rest' also _ _ same
  cases other with
  | string value' =>
    rw [line_string, line_string, List.cons_append, List.cons_append, List.append_assoc,
      List.append_assoc] at same
    obtain ⟨characters, behind⟩ := escape_unique (List.cons.inj same).2
    obtain rfl := RawText.IsWellFormed.ext plain also characters
    exact ⟨rfl, behind⟩
  | _ => cases kind_eq plain also same

theorem tellsEnd_member {key : String} {value : JsonValue} (tells : TellsEnd IsPlain line value) :
    TellsEnd (fun member => member.2.IsPlain) memberLine (key, value) := by
  intro other rest rest' also ends ends' same
  obtain ⟨key', value'⟩ := other
  have written (key : String) (value : JsonValue) (rest : List Char) :
      memberLine (key, value) ++ rest =
        '"' :: (escape true key ++ '"' :: ':' :: (line value ++ rest)) := by
    simp only [memberLine, List.cons_append, List.append_assoc]
  rw [written, written] at same
  obtain ⟨characters, behind⟩ := escape_unique (List.cons.inj same).2
  obtain ⟨rfl, rfl⟩ := tells value' rest rest' also ends ends' (List.cons.inj behind).2
  have keys := congrArg RawText.shown (RawText.IsWellFormed.ext
    (RawText.isWellFormed_ofString key) (RawText.isWellFormed_ofString key') characters)
  rw [RawText.shown_ofString, RawText.shown_ofString] at keys
  exact ⟨congrArg (·, value) keys, rfl⟩

theorem tellsEnd_array {items : List JsonValue} (plain : IsPlain (.array items))
    (tells : ∀ item ∈ items, TellsEnd IsPlain line item) :
    TellsEnd IsPlain line (.array items) := by
  intro other rest rest' also _ _ same
  cases other with
  | array items' =>
    rw [line_array, line_array] at same
    obtain ⟨rfl, rfl⟩ := inside_unique (by decide) (by decide) (fun _ _ _ => line_ne (by rfl))
      (arePlain_iff.mp plain) (arePlain_iff.mp also) tells (List.cons.inj same).2
    exact ⟨rfl, rfl⟩
  | _ => cases kind_eq plain also same

theorem tellsEnd_object {members : List (String × JsonValue)} (plain : IsPlain (.object members))
    (tells : ∀ member ∈ members, TellsEnd (fun member => member.2.IsPlain) memberLine member) :
    TellsEnd IsPlain line (.object members) := by
  intro other rest rest' also _ _ same
  cases other with
  | object members' =>
    rw [line_object, line_object] at same
    obtain ⟨rfl, rfl⟩ := inside_unique (by decide) (by decide) (fun _ _ _ _ same =>
      absurd (List.cons.inj same).1 (by decide))
      (havePlain_iff.mp plain) (havePlain_iff.mp also) tells (List.cons.inj same).2
    exact ⟨rfl, rfl⟩
  | _ => cases kind_eq plain also same

mutual

/-- **The line of a plain document tells the document and where it ends.** -/
theorem line_tellsEnd {document : JsonValue} (plain : document.IsPlain) :
    TellsEnd IsPlain line document := by
  match document with
  | .null =>
    refine tellsEnd_constant plain fun other kind => ?_
    cases other with
    | null => rfl
    | _ => cases kind
  | .bool value =>
    refine tellsEnd_constant plain fun other kind => ?_
    cases other with
    | bool value' => exact congrArg bool (Kind.bool.inj kind)
    | _ => cases kind
  | .number text => exact tellsEnd_number plain
  | .string value => exact tellsEnd_string plain
  | .array items => exact tellsEnd_array plain (items_tellEnds plain)
  | .object members => exact tellsEnd_object plain (members_tellEnds plain)

theorem items_tellEnds {items : List JsonValue} (plain : ArePlain items) :
    ∀ item ∈ items, TellsEnd IsPlain line item := by
  match items with
  | [] => exact List.forall_mem_nil _
  | item :: items =>
    exact List.forall_mem_cons.mpr ⟨line_tellsEnd plain.1, items_tellEnds plain.2⟩

theorem members_tellEnds {members : List (String × JsonValue)} (plain : HavePlain members) :
    ∀ member ∈ members, TellsEnd (fun member => member.2.IsPlain) memberLine member := by
  match members with
  | [] => exact List.forall_mem_nil _
  | (key, value) :: members =>
    exact List.forall_mem_cons.mpr
      ⟨tellsEnd_member (line_tellsEnd plain.1), members_tellEnds plain.2⟩

end

/-- **Plain documents with one line are the same.** -/
theorem compact_injective {document other : JsonValue} (plain : document.IsPlain)
    (also : other.IsPlain) (same : document.compact = other.compact) : document = other := by
  have ends : EndsNumber [] := by
    rintro _ ⟨⟩
  exact (line_tellsEnd plain other [] [] also ends ends
    (congrArg (String.toList · ++ []) same)).1

end JsonValue

end DisplayFilter
