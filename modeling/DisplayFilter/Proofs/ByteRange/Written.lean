/-
**Byte ranges are read back.**

A window is canonical if it is one that can be read: its numbers are signed numbers of sixty-four
bits, a length is at least one, and the numbers that its kind does not use are zero. The written form
of a canonical window is one of its spellings, so it is read back.

* `Window.Canonical`, `ByteRange.Canonical`: the windows and the ranges that can be read.
* `ByteRange.spelled_chars`: the written form of a canonical window spells it.
* `ByteRange.parseWindow_chars`: canonical windows are read back.
* `ByteRange.parse_inverse`: reading and writing ranges are inverse.
-/

import DisplayFilter.Proofs.ByteRange.Grammar

namespace DisplayFilter

open Text (Glyph)

/-- The windows that can be read. -/
inductive Window.Canonical : Window → Prop
  | length (start length : Int) (first : Number.Fits start) (some : 1 ≤ length)
      (count : Number.Fits length) : Canonical (.ofLength start length)
  | offsets (start stop : Int) (first : Number.Fits start) (last : Number.Fits stop) :
      Canonical (.ofOffsets start stop)
  | toTheEnd (start : Int) (first : Number.Fits start) : Canonical (.toTheEnd start)

namespace Window

theorem chars_ofLength (start length : Int) : (ofLength start length).chars =
    if length = 1 then Number.decimalChars start
    else Number.decimalChars start ++ ':' :: Number.decimalChars length := rfl

theorem chars_ofOffsets (start stop : Int) : (ofOffsets start stop).chars =
    Number.decimalChars start ++ '-' :: Number.decimalChars stop := rfl

theorem chars_toTheEnd (start : Int) :
    (toTheEnd start).chars = Number.decimalChars start ++ [':'] := rfl

end Window

namespace ByteRange

/-- The ranges that can be read. -/
structure Canonical (range : ByteRange) : Prop where
  nonempty : range ≠ []
  each : ∀ window ∈ range, window.Canonical

/-! ### Written windows -/

/-- The written form of a canonical window is one of its spellings. -/
theorem spelled_chars {window : Window} (canonical : window.Canonical) :
    Window.Spelled window.chars window := by
  cases canonical with
  | length start length first some count =>
    rw [Window.chars_ofLength]
    split
    · rename_i single
      subst single
      exact .single (Number.numeral_decimalChars first)
    · exact .length (.given (Number.numeral_decimalChars first)) (Number.numeral_decimalChars count)
        some
  | offsets start stop first last =>
    exact .offsets (Number.numeral_decimalChars first) (Number.numeral_decimalChars last)
  | toTheEnd start first => exact .toTheEnd (.given (Number.numeral_decimalChars first))

/-- **Canonical windows are read back.** -/
theorem parseWindow_chars {window : Window} (canonical : window.Canonical) :
    parseWindow (glyphs window.chars) = .ok window :=
  parseWindow_ok_iff.mpr ⟨_, rfl, spelled_chars canonical⟩

/-! ### Written ranges -/

/-- The characters of written windows. -/
def isWritten (character : Char) : Bool :=
  Number.isDigit character || character = '-' || character = ':'

theorem isWritten_decimalChars {number : Int} {character : Char}
    (member : character ∈ Number.decimalChars number) : isWritten character = true := by
  rcases Number.mem_decimalChars member with digit | minus
  · simp [isWritten, digit]
  · simp [isWritten, minus]

/-- Two numbers with a written character between them. -/
theorem isWritten_between {separator character : Char} (own : isWritten separator = true)
    (front back : Int)
    (member : character ∈ Number.decimalChars front ++ separator :: Number.decimalChars back) :
    isWritten character = true := by
  rw [List.mem_append, List.mem_cons] at member
  rcases member with before | rfl | behind
  · exact isWritten_decimalChars before
  · exact own
  · exact isWritten_decimalChars behind

theorem isWritten_chars {window : Window} (canonical : window.Canonical) {character : Char}
    (member : character ∈ window.chars) : isWritten character = true := by
  cases canonical with
  | length start length first some count =>
    rw [Window.chars_ofLength] at member
    split at member
    · exact isWritten_decimalChars member
    · exact isWritten_between rfl start length member
  | offsets start stop first last =>
    rw [Window.chars_ofOffsets] at member
    exact isWritten_between rfl start stop member
  | toTheEnd start first =>
    rw [Window.chars_toTheEnd, List.mem_append, List.mem_singleton] at member
    rcases member with number | rfl
    · exact isWritten_decimalChars number
    · rfl

/-- No blank is a character of a written window. -/
theorem isBlank_of_isWritten {character : Char} (written : isWritten character = true) :
    Text.isBlank character = false := by
  have bounds : 45 ≤ character.toNat ∧ character.toNat ≤ 58 := by
    simp only [isWritten, Bool.or_eq_true, decide_eq_true_eq] at written
    rcases written with (digit | rfl) | rfl
    · have inside : 48 ≤ character.toNat ∧ character.toNat ≤ 57 := Number.between_iff.mp digit
      omega
    · decide
    · decide
  simp only [Text.isBlank, Bool.or_eq_false_iff, Bool.and_eq_false_iff, decide_eq_false_iff_not]
  omega

/-- A text of commas and such characters has no blanks around it. -/
theorem trimBy_glyphs {text : List Char}
    (written : ∀ character ∈ text, character = ',' ∨ isWritten character = true) :
    Text.trimBy Glyph.isBlank (glyphs text) = glyphs text := by
  refine Text.trimBy_eq_self fun glyph member => ?_
  obtain ⟨character, among, rfl⟩ := List.mem_map.mp member
  rcases written character among with rfl | plain
  · rfl
  · exact isBlank_of_isWritten plain

/-- The glyphs of a written range are those of its windows, with commas in between. -/
theorem glyphs_chars (range : ByteRange) : glyphs (chars range) =
    [Glyph.character ','].intercalate (range.map fun window => glyphs window.chars) := by
  unfold chars glyphs
  rw [Text.map_intercalate, List.map_map]
  rfl

section Ranges

variable {range : ByteRange} (canonical : Canonical range)
include canonical

theorem mem_chars {character : Char} (member : character ∈ chars range) :
    character = ',' ∨ isWritten character = true := by
  refine (Text.mem_intercalate member).imp_right ?_
  rintro ⟨part, among, holds⟩
  obtain ⟨window, here, rfl⟩ := List.mem_map.mp among
  exact isWritten_chars (canonical.each window here) holds

/-- Nothing is taken off the ends of a written range. -/
theorem inner_text : inner (.ofString (text range)) = glyphs (chars range) := by
  have whole : (RawText.ofString (text range)).glyphs = glyphs (chars range) := by
    unfold RawText.ofString RawText.ofChars text
    rw [String.toList_ofList]
    rfl
  have free : ∀ bracket : Char, bracket ≠ ',' → isWritten bracket = false →
      .character bracket ∉ glyphs (chars range) := by
    intro bracket different other member
    rcases mem_chars canonical (mem_glyphs.mp member) with comma | written
    · exact different comma
    · rw [other] at written
      cases written
  unfold inner
  rw [whole, trimBy_glyphs fun character => mem_chars canonical,
    Text.dropLeading_eq_self (free '[' (by decide) (by decide)),
    Text.dropTrailing_eq_self (free ']' (by decide) (by decide))]

/-- **Ranges of canonical windows are read back.** -/
theorem parse_text : parse (.ofString (text range)) = .ok range := by
  have parts : Text.split (.character ',') (glyphs (chars range)) =
      range.map fun window => glyphs window.chars := by
    rw [glyphs_chars]
    refine Text.split_intercalate (fun part among comma => ?_) (by simpa using canonical.nonempty)
    obtain ⟨window, here, rfl⟩ := List.mem_map.mp among
    cases isWritten_chars (canonical.each window here) (mem_glyphs.mp comma)
  rw [parse_ok_iff, inner_text canonical, parts, List.forall₂_map_left_iff, List.forall₂_same]
  refine ⟨fun empty => ?_, fun window here => ?_⟩
  · -- The empty text has one part, which is no window.
    rw [empty] at parts
    have part : [] ∈ range.map fun window => glyphs window.chars :=
      parts ▸ List.mem_singleton_self []
    obtain ⟨window, here, none⟩ := List.mem_map.mp part
    have read := parseWindow_chars (canonical.each window here)
    rw [none] at read
    cases read
  · rw [trimBy_glyphs fun character member =>
      .inr (isWritten_chars (canonical.each window here) member)]
    exact parseWindow_chars (canonical.each window here)

end Ranges

/-! ### Windows that are read -/

/-- **Windows that are read are canonical.** -/
theorem canonical_of_parseWindow {text : List Glyph} {window : Window}
    (parsed : parseWindow text = .ok window) : window.Canonical := by
  obtain ⟨written, rfl, spelled⟩ := parseWindow_ok_iff.mp parsed
  cases spelled with
  | toTheEnd first => exact .toTheEnd _ first.fits
  | length first count some => exact .length _ _ first.fits some count.fits
  | offsets first last => exact .offsets _ _ first.fits last.fits
  | single only => exact .length _ 1 only.fits (Int.le_refl 1) (by decide)

/-- **Ranges that are read are canonical.** -/
theorem canonical_of_parse {written : RawText} {range : ByteRange}
    (parsed : parse written = .ok range) : Canonical range where
  nonempty := parse_ne_nil parsed
  each window here := by
    obtain ⟨part, _, read⟩ := exists_of_forall₂ (parse_ok_iff.mp parsed).2 here
    exact canonical_of_parseWindow read

/-- **Reading and writing are inverse.** Canonical ranges are read back, and a text that is read is
read as a canonical range, which is what its written form is read as. -/
theorem parse_inverse :
    (∀ range, Canonical range → parse (.ofString (text range)) = .ok range) ∧
      ∀ written range, parse written = .ok range →
        Canonical range ∧ parse (.ofString (text range)) = parse written := by
  refine ⟨fun range canonical => parse_text canonical, fun written range parsed => ?_⟩
  have canonical := canonical_of_parse parsed
  exact ⟨canonical, (parse_text canonical).trans parsed.symm⟩

/-- Windows of all kinds, some of them at the limits of their numbers. -/
def limits : ByteRange :=
  [.ofOffsets (-9223372036854775808) (-2), .single (-4), .ofLength 0 9223372036854775807,
    .toTheEnd 10]

theorem limits_canonical : Canonical limits where
  nonempty := List.cons_ne_nil _ _
  each := by
    refine List.forall_mem_cons.mpr ⟨.offsets _ _ (by decide) (by decide),
      List.forall_mem_cons.mpr ⟨.length _ _ (by decide) (by decide) (by decide),
        List.forall_mem_cons.mpr ⟨.length _ _ (by decide) (by decide) (by decide),
          List.forall_mem_cons.mpr ⟨.toTheEnd _ (by decide), List.forall_mem_nil _⟩⟩⟩⟩

/-- The limits are read back, and so is what a text with brackets, blanks and signs is read as. -/
theorem parse_limits_inverse : parse (.ofString (text limits)) = .ok limits ∧
    parse (.ofString (text [.ofLength 0 2, .ofOffsets (-6) 7, .toTheEnd 10])) =
      parse (.ofString " [:2, -6-+7,010:] ") :=
  ⟨parse_inverse.1 limits limits_canonical, (parse_inverse.2 _ _ (by rfl)).2⟩

end ByteRange

end DisplayFilter
