/-
**The written forms of byte ranges.**

A window is spelled in one of four ways: an offset that may be missing and a colon, the same and a
length behind it, two offsets with a minus sign between them, or one offset. A range is spelled by
windows with commas between them, blanks around them, and brackets and more blanks around the whole.
Reading finds the window although a minus sign may be a sign or the one in the middle: what stands
behind the first character of a number is digits, so the first minus sign there is the one in the
middle.

* `Window.Spelled`: the spellings of a window.
* `ByteRange.parse_ok_iff`: a range is read part by part.
* `ByteRange.parseWindow_ok_iff`: the texts that are read as a window are its spellings.
* `ByteRange.parse_accepts`: which texts are read as a range, and as which one.
-/

import DisplayFilter.ByteRange
import DisplayFilter.Proofs.Lists
import DisplayFilter.Proofs.Number.Reading
import DisplayFilter.Proofs.Text.Parts

namespace DisplayFilter

open Text (Glyph)

/-- The spellings of a number that may be missing; a missing one is zero. -/
inductive Number.OptionalNumeral : List Char → Int → Prop
  | missing : OptionalNumeral [] 0
  | given {text : List Char} {number : Int} (numeral : Numeral text number) :
      OptionalNumeral text number

theorem Number.OptionalNumeral.fits {text : List Char} {number : Int}
    (first : OptionalNumeral text number) : Fits number := by
  cases first with
  | missing => decide
  | given numeral => exact numeral.fits

/-- The spellings of a window. -/
inductive Window.Spelled : List Char → Window → Prop
  | toTheEnd {front : List Char} {start : Int} (first : Number.OptionalNumeral front start) :
      Spelled (front ++ [':']) (.toTheEnd start)
  | length {front back : List Char} {start length : Int}
      (first : Number.OptionalNumeral front start) (count : Number.Numeral back length)
      (some : 1 ≤ length) : Spelled (front ++ ':' :: back) (.ofLength start length)
  | offsets {front back : List Char} {start stop : Int} (first : Number.Numeral front start)
      (last : Number.Numeral back stop) : Spelled (front ++ '-' :: back) (.ofOffsets start stop)
  | single {text : List Char} {start : Int} (only : Number.Numeral text start) :
      Spelled text (.single start)

namespace ByteRange

/-! ### Ranges part by part -/

/-- A text without the blanks around it and without the brackets around that. -/
def inner (text : RawText) : List Glyph :=
  Text.dropTrailing (.character ']')
    (Text.dropLeading (.character '[') (Text.trimBy Glyph.isBlank text.glyphs))

/-- **A range is read part by part.** -/
theorem parse_ok_iff {text : RawText} {range : ByteRange} :
    parse text = .ok range ↔ inner text ≠ [] ∧
      List.Forall₂ (fun part window => parseWindow (Text.trimBy Glyph.isBlank part) = .ok window)
        (Text.split (.character ',') (inner text)) range := by
  have parted : ((Text.split (.character ',') (inner text)).map
      (Text.trimBy Glyph.isBlank)).mapM parseWindow = .ok range ↔
      List.Forall₂ (fun part window => parseWindow (Text.trimBy Glyph.isBlank part) = .ok window)
        (Text.split (.character ',') (inner text)) range := by
    rw [mapM_eq_ok_iff, List.forall₂_map_left_iff]
  rw [← parted]
  unfold parse
  extract_lets trimmed kept parts
  change (if kept = [] then _ else _) = _ ↔ kept ≠ [] ∧ parts.mapM parseWindow = .ok range
  by_cases empty : kept = []
  · rw [if_pos empty]
    exact iff_of_false nofun fun both => both.1 empty
  · rw [if_neg empty, and_iff_right empty]
    cases parts.mapM parseWindow <;> simp [Except.mapError]

/-- A range that is read has a window. -/
theorem parse_ne_nil {text : RawText} {range : ByteRange} (parsed : parse text = .ok range) :
    range ≠ [] := by
  rintro rfl
  exact Text.split_ne_nil _ _ (List.forall₂_nil_right_iff.mp (parse_ok_iff.mp parsed).2)

/-! ### Glyphs of characters -/

/-- The glyphs of characters. -/
def glyphs (text : List Char) : List Glyph := text.map .character

@[simp] theorem glyphs_append (front back : List Char) :
    glyphs (front ++ back) = glyphs front ++ glyphs back := List.map_append

@[simp] theorem glyphs_cons (first : Char) (rest : List Char) :
    glyphs (first :: rest) = .character first :: glyphs rest := rfl

theorem mem_glyphs {character : Char} {text : List Char} :
    .character character ∈ glyphs text ↔ character ∈ text :=
  List.mem_map_of_injective fun _ _ same => Glyph.character.inj same

/-- A text in which nothing is shown by the replacement character has no stray octets. -/
theorem eq_glyphs {text : List Glyph} (plain : Glyph.replacement ∉ text.map Glyph.shown) :
    text = glyphs (text.map Glyph.shown) := by
  unfold glyphs
  rw [List.map_map]
  refine (List.map_id text).symm.trans (List.map_congr_left fun glyph member => ?_)
  cases glyph with
  | character value => rfl
  | stray octet => exact absurd (List.mem_map_of_mem member) plain

/-! ### Numbers of a window -/

theorem readNumber_ok_iff {text : List Glyph} {number : Int} :
    readNumber text = .ok number ↔ Number.read ⟨text⟩ = .ok number := by
  unfold readNumber
  cases Number.read ⟨text⟩ <;> simp [Except.mapError]

/-- A number of a window is read from its numerals. -/
theorem readNumber_ok_iff_numeral {text : List Glyph} {number : Int} :
    readNumber text = .ok number ↔
      ∃ written, text = glyphs written ∧ Number.Numeral written number := by
  rw [readNumber_ok_iff, Number.read_ok_iff_numeral]
  constructor
  · intro numeral
    refine ⟨_, eq_glyphs fun member => ?_, numeral⟩
    rcases numeral.mem member with digit | plus | minus
    · cases digit
    · cases plus
    · cases minus
  · rintro ⟨written, rfl, numeral⟩
    rwa [show (⟨glyphs written⟩ : RawText) = .ofChars written from rfl, RawText.chars_ofChars]

/-- The start of a window with a colon is read from its spellings. -/
theorem start_iff {front : List Glyph} {start : Int} :
    (front = [] ∧ start = 0 ∨ front ≠ [] ∧ readNumber front = .ok start) ↔
      ∃ written, front = glyphs written ∧ Number.OptionalNumeral written start := by
  constructor
  · rintro (⟨rfl, rfl⟩ | ⟨_, read⟩)
    · exact ⟨[], rfl, .missing⟩
    · obtain ⟨written, rfl, numeral⟩ := readNumber_ok_iff_numeral.mp read
      exact ⟨written, rfl, .given numeral⟩
  · rintro ⟨written, rfl, first⟩
    cases first with
    | missing => exact .inl ⟨rfl, rfl⟩
    | given numeral =>
      refine .inr ⟨fun empty => ?_, readNumber_ok_iff_numeral.mpr ⟨written, rfl, numeral⟩⟩
      exact numeral.ne_nil (List.map_eq_nil_iff.mp empty)

/-! ### One window -/

/-- The windows with a colon. -/
theorem parseLength_ok_iff {front back : List Glyph} {window : Window} :
    parseLength front back = .ok window ↔ ∃ start,
      (front = [] ∧ start = 0 ∨ front ≠ [] ∧ readNumber front = .ok start) ∧
      (back = [] ∧ .toTheEnd start = window ∨ back ≠ [] ∧ ∃ length,
        readNumber back = .ok length ∧ 0 < length ∧ .ofLength start length = window) := by
  have ending (start : Int) : (if back = [] then pure (.toTheEnd start) else do
        let length ← readNumber back
        if length ≤ 0 then throw (.length length) else pure (.ofLength start length) :
        Except WindowError Window) = .ok window ↔
      back = [] ∧ .toTheEnd start = window ∨ back ≠ [] ∧ ∃ length,
        readNumber back = .ok length ∧ 0 < length ∧ .ofLength start length = window := by
    by_cases empty : back = []
    · simp [empty, pure, Except.pure]
    · simp only [empty, if_false, bind_eq_ok, ne_eq, not_false_eq_true, true_and, false_and,
        false_or]
      refine exists_congr fun length => and_congr_right fun _ => ?_
      by_cases short : length ≤ 0
      · exact iff_of_false (by simp [short, throw, throwThe, MonadExceptOf.throw]) fun both =>
          absurd short (Int.not_le.mpr both.1)
      · simp [short, Int.not_le.mp short, pure, Except.pure]
  unfold parseLength
  by_cases empty : front = []
  · simp only [empty, if_true, ne_eq, not_true_eq_false, true_and, false_and, or_false,
      exists_eq_left]
    exact ending 0
  · simp only [empty, if_false, ne_eq, not_false_eq_true, true_and, false_and, false_or]
    exact bind_eq_ok.trans (exists_congr fun start => and_congr_right fun _ => ending start)

/-- The windows without a colon. -/
theorem parseOffsets_ok_iff {first : Glyph} {rest : List Glyph} {window : Window} :
    parseOffsets first rest = .ok window ↔
      match cut? '-' rest with
      | some (front, back) => ∃ start, readNumber (first :: front) = .ok start ∧
          ∃ stop, readNumber back = .ok stop ∧ .ofOffsets start stop = window
      | none => ∃ start, readNumber (first :: rest) = .ok start ∧ .single start = window := by
  unfold parseOffsets
  cases cut? '-' rest <;> simp only [bind_eq_ok, pure, Except.pure, Except.ok.injEq]

/-! ### Cutting at a character -/

theorem cut?_of_not_mem {character : Char} {text : List Glyph}
    (free : .character character ∉ text) : cut? character text = none := by
  have all : text.takeWhile (· ≠ .character character) = text :=
    List.takeWhile_eq_self_iff.mpr fun glyph member => by
      simpa using ne_of_mem_of_not_mem member free
  unfold cut?
  simp only [all, List.drop_length]

theorem cut?_append {character : Char} {front back : List Glyph}
    (free : .character character ∉ front) :
    cut? character (front ++ .character character :: back) = some (front, back) := by
  have before : (front ++ .character character :: back).takeWhile (· ≠ .character character) =
      front := by
    rw [List.takeWhile_append_of_pos fun glyph member => by
      simpa using ne_of_mem_of_not_mem member free]
    simp
  unfold cut?
  simp only [before, List.drop_left]

/-- A text that is cut has the character between its two sides, and not on the first one. -/
theorem cut?_eq_some_iff {character : Char} {text front back : List Glyph} :
    cut? character text = some (front, back) ↔
      text = front ++ .character character :: back ∧ .character character ∉ front := by
  constructor
  · intro found
    by_cases member : .character character ∈ text
    · obtain ⟨before, behind, rfl, free⟩ := List.eq_append_cons_of_mem member
      rw [cut?_append free] at found
      cases found
      exact ⟨rfl, free⟩
    · rw [cut?_of_not_mem member] at found
      cases found
  · rintro ⟨rfl, free⟩
    exact cut?_append free

/-- A text is cut at its first colon. -/
theorem parseWindow_colon {front : List Glyph} (free : .character ':' ∉ front)
    (back : List Glyph) :
    parseWindow (front ++ .character ':' :: back) = parseLength front back := by
  unfold parseWindow
  split
  · rename_i empty
    cases List.append_ne_nil_of_right_ne_nil front (List.cons_ne_nil _ back) empty
  · rename_i first rest same
    rw [← same, cut?_append free]

/-- A text without a colon is cut at its first minus sign after the first character. -/
theorem parseWindow_offsets {first : Glyph} {rest : List Glyph}
    (free : .character ':' ∉ first :: rest) :
    parseWindow (first :: rest) = parseOffsets first rest := by
  unfold parseWindow
  simp only [cut?_of_not_mem free]

/-! ### The spellings of a window -/

section Numerals

variable {text : List Char} {number : Int}

/-- No numeral has a colon. -/
theorem colon_not_mem (numeral : Number.Numeral text number) :
    .character ':' ∉ glyphs text := by
  intro member
  rcases numeral.mem (mem_glyphs.mp member) with digit | plus | minus
  · cases digit
  · cases plus
  · cases minus

theorem colon_not_mem_optional (first : Number.OptionalNumeral text number) :
    .character ':' ∉ glyphs text := by
  cases first with
  | missing => exact List.not_mem_nil
  | given numeral => exact colon_not_mem numeral

/-- A numeral is a first character and digits, among which there is no minus sign. -/
theorem glyphs_numeral (numeral : Number.Numeral text number) : ∃ first rest,
    glyphs text = first :: rest ∧ .character '-' ∉ rest := by
  obtain ⟨sign, digits, rfl, _, digit⟩ := numeral.cons
  refine ⟨.character sign, glyphs digits, rfl, fun member => ?_⟩
  cases digit '-' (mem_glyphs.mp member)

/-- A numeral alone is the window of one byte. -/
theorem parseWindow_single (numeral : Number.Numeral text number) :
    parseWindow (glyphs text) = .ok (.single number) := by
  obtain ⟨first, rest, written, unsigned⟩ := glyphs_numeral numeral
  have free := colon_not_mem numeral
  have read := readNumber_ok_iff_numeral.mpr ⟨text, rfl, numeral⟩
  rw [written] at free read ⊢
  rw [parseWindow_offsets free, parseOffsets_ok_iff, cut?_of_not_mem unsigned]
  exact ⟨number, read, rfl⟩

/-- Two numerals with a minus sign between them are two offsets, whatever their signs are. -/
theorem parseWindow_two {back : List Char} {stop : Int} (numeral : Number.Numeral text number)
    (other : Number.Numeral back stop) :
    parseWindow (glyphs (text ++ '-' :: back)) = .ok (.ofOffsets number stop) := by
  -- A sign of the first numeral is its first character, where the text is not cut.
  obtain ⟨first, rest, written, unsigned⟩ := glyphs_numeral numeral
  have read := readNumber_ok_iff_numeral.mpr ⟨text, rfl, numeral⟩
  have also := readNumber_ok_iff_numeral.mpr ⟨back, rfl, other⟩
  have free : .character ':' ∉ glyphs (text ++ '-' :: back) := by
    rw [glyphs_append, glyphs_cons, List.mem_append, List.mem_cons]
    rintro (front | minus | behind)
    · exact colon_not_mem numeral front
    · cases minus
    · exact colon_not_mem other behind
  rw [glyphs_append, glyphs_cons, written, List.cons_append] at free ⊢
  rw [written] at read
  rw [parseWindow_offsets free, parseOffsets_ok_iff, cut?_append unsigned]
  exact ⟨number, read, stop, also, rfl⟩

end Numerals

/-- **The texts that are read as a window are its spellings.** -/
theorem parseWindow_ok_iff {text : List Glyph} {window : Window} :
    parseWindow text = .ok window ↔
      ∃ written, text = glyphs written ∧ Window.Spelled written window := by
  constructor
  · intro parsed
    unfold parseWindow at parsed
    split at parsed
    · cases parsed
    split at parsed
    · rename_i first rest front back found
      obtain ⟨start, starts, ends⟩ := parseLength_ok_iff.mp parsed
      obtain ⟨before, rfl, spelled⟩ := start_iff.mp starts
      rw [(cut?_eq_some_iff.mp found).1]
      rcases ends with ⟨rfl, rfl⟩ | ⟨_, length, read, positive, rfl⟩
      · exact ⟨before ++ [':'], by rw [glyphs_append]; rfl, .toTheEnd spelled⟩
      · obtain ⟨behind, rfl, count⟩ := readNumber_ok_iff_numeral.mp read
        exact ⟨before ++ ':' :: behind, by rw [glyphs_append]; rfl, .length spelled count positive⟩
    · rename_i first rest _
      have offsets := parseOffsets_ok_iff.mp parsed
      split at offsets
      · rename_i front back found
        obtain ⟨start, read, stop, also, rfl⟩ := offsets
        obtain ⟨before, same, numeral⟩ := readNumber_ok_iff_numeral.mp read
        obtain ⟨behind, rfl, other⟩ := readNumber_ok_iff_numeral.mp also
        refine ⟨before ++ '-' :: behind, ?_, .offsets numeral other⟩
        rw [glyphs_append, ← same, (cut?_eq_some_iff.mp found).1]
        rfl
      · obtain ⟨start, read, rfl⟩ := offsets
        obtain ⟨written, same, numeral⟩ := readNumber_ok_iff_numeral.mp read
        exact ⟨written, same, .single numeral⟩
  · rintro ⟨written, rfl, spelled⟩
    cases spelled with
    | @toTheEnd front start first =>
      rw [glyphs_append, glyphs_cons, parseWindow_colon (colon_not_mem_optional first),
        parseLength_ok_iff]
      exact ⟨start, start_iff.mpr ⟨front, rfl, first⟩, .inl ⟨rfl, rfl⟩⟩
    | @length front back start length first count some =>
      rw [glyphs_append, glyphs_cons, parseWindow_colon (colon_not_mem_optional first),
        parseLength_ok_iff]
      refine ⟨start, start_iff.mpr ⟨front, rfl, first⟩, .inr ⟨fun empty => ?_, length,
        readNumber_ok_iff_numeral.mpr ⟨back, rfl, count⟩, some, rfl⟩⟩
      exact count.ne_nil (List.map_eq_nil_iff.mp empty)
    | offsets first last => exact parseWindow_two first last
    | single only => exact parseWindow_single only

/-! ### The spellings of a range -/

/-- The spellings of a window as a part of a range: with blanks around them. -/
def PartSpelled (part : List Glyph) (window : Window) : Prop :=
  ∃ written, Text.Trimmed Glyph.isBlank part (glyphs written) ∧ Window.Spelled written window

/-- A part is read exactly if it is the spelling of a window with blanks around it. -/
theorem parsePart_ok_iff {part : List Glyph} {window : Window} :
    parseWindow (Text.trimBy Glyph.isBlank part) = .ok window ↔ PartSpelled part window := by
  rw [parseWindow_ok_iff]
  exact exists_congr fun written => and_congr_left fun _ => Text.trimBy_eq_iff

/-- What the parts of a range are taken from: the text without the blanks around it, and without an
opening and a closing bracket around that. -/
def Unwrapped (text : RawText) (kept : List Glyph) : Prop :=
  ∃ trimmed opened, Text.Trimmed Glyph.isBlank text.glyphs trimmed ∧
    Text.WithoutLeading (.character '[') trimmed opened ∧
    Text.WithoutTrailing (.character ']') opened kept

theorem unwrapped_inner (text : RawText) : Unwrapped text (inner text) :=
  ⟨_, _, Text.trimmed_trimBy _ _, Text.dropLeading_eq_iff.mp rfl, Text.dropTrailing_eq_iff.mp rfl⟩

/-- **The texts that are read as a range are its spellings.** -/
theorem parse_ok_iff_spelled {text : RawText} {range : ByteRange} :
    parse text = .ok range ↔ inner text ≠ [] ∧
      List.Forall₂ PartSpelled (Text.split (.character ',') (inner text)) range := by
  rw [parse_ok_iff]
  simp only [parsePart_ok_iff]

/-- **The texts that are read.** A text is read as a range exactly if something is left of it without
blanks and brackets around it and each part between the commas spells a window; the windows of the
range are then those that the parts spell. -/
theorem parse_accepts (text : RawText) : ∃ kept parts, Unwrapped text kept ∧
    Text.Parted (.character ',') kept parts ∧
    ((∃ range, parse text = .ok range) ↔
      kept ≠ [] ∧ ∀ part ∈ parts, ∃ window, PartSpelled part window) ∧
    ∀ range, parse text = .ok range ↔ kept ≠ [] ∧ List.Forall₂ PartSpelled parts range := by
  refine ⟨inner text, _, unwrapped_inner text, Text.parted_split _ _, ?_,
    fun range => parse_ok_iff_spelled⟩
  simp only [parse_ok_iff_spelled, exists_and_left, exists_forall₂_iff]

/-- A text with a second colon, a lone sign or an empty part is not read. -/
example : ∀ text ∈ ["1:2:3", "--5", "1,,2", "[]"], (parse (.ofString text)).toOption = none := by
  decide

end ByteRange

end DisplayFilter
