/-
**Aligned columns.**

Tabs end the cells of a line. Neighbouring lines that have a cell in the same column form a block,
and the cells of a block are filled up with blanks to the width of the widest one and two more.
What follows the last tab of a line is not a cell and is left as it is. A form feed ends a line and
every block. Between two octets of all ones nothing ends a cell or a line, and these octets have no
width.

* `alignColumns`: the text with its cells filled up.
-/

import DisplayFilter.RawText

namespace DisplayFilter.Text

/-- The blanks after the widest cell of a column. -/
def columnGap : Nat := 2

/-- A part of a text that is laid out in columns. -/
inductive Mark where
  | glyph (value : Glyph)
  | cellEnd
  | lineEnd
  | pageEnd
deriving DecidableEq, Repr

/-- The octet that begins and ends a part in which nothing ends a cell or a line. -/
def escapeGlyph : Glyph := .stray 0xFF

/-- What a glyph does outside of such a part. -/
def Mark.ofGlyph (glyph : Glyph) : Mark :=
  match glyph with
  | .character '\t' => .cellEnd
  | .character '\n' => .lineEnd
  | .character '\x0b' => .cellEnd
  | .character '\x0c' => .pageEnd
  | glyph => .glyph glyph

/-- What the glyphs of a text do; `escaped` tells whether the text starts in a part in which nothing
ends a cell or a line. -/
def marks (escaped : Bool) : List Glyph → List Mark
  | [] => []
  | glyph :: rest =>
    let mark := if escaped then .glyph glyph else .ofGlyph glyph
    mark :: marks (escaped ≠ decide (glyph = escapeGlyph)) rest

/-- The width of a cell. -/
def cellWidth (cell : List Mark) : Nat :=
  cell.countP (· ≠ .glyph escapeGlyph)

/-- A cell filled up with blanks. -/
def fillUp (width : Nat) (cell : List Mark) : List Mark :=
  cell ++ List.replicate (width - cellWidth cell) (.glyph (.character ' '))

/-- Whether a line has a cell before its last part. -/
def hasCell (line : List (List Mark)) : Bool :=
  1 < line.length

/-- The width of the first column of a block. -/
def columnWidth (block : List (List (List Mark))) : Nat :=
  (block.map fun line => cellWidth (line.headD [])).foldl max 0 + columnGap

/-- The lines of a text, given by their parts, with at most so many columns aligned. -/
def alignParts : Nat → List (List (List Mark)) → List (List Mark)
  | 0, lines => lines.map List.flatten
  | columns + 1, lines =>
    (lines.splitBy fun line next => hasCell line = hasCell next).flatMap fun block =>
      if block.any hasCell then
        let width := columnWidth block
        List.zipWith (fun line rest => fillUp width (line.headD []) ++ rest) block
          (alignParts columns (block.map (·.drop 1)))
      else block.map List.flatten

/-- Lines that can form blocks, with their cells filled up. -/
def alignLines (page : List Mark) : List (List Mark) :=
  let lines := (split .lineEnd page).map (split .cellEnd)
  alignParts ((lines.map List.length).foldl max 0) lines

/-- The text with its cells filled up. -/
def alignColumns (text : RawText) : RawText :=
  let lines := (split .pageEnd (marks false text.glyphs)).flatMap alignLines
  ⟨([Mark.glyph (.character '\n')].intercalate lines).filterMap fun
    | .glyph value => some value
    | _ => none⟩

end DisplayFilter.Text
