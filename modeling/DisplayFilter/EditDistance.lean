/-
**Edit distance.**

The least number of insertions, deletions and substitutions of single characters that turn one text
into another. It is computed row by row: the row of a text holds the distances from each prefix of
the other text, and one more character gives the next row.

* `firstRow`, `nextRow`: the rows.
* `editDistance`: the distance, with the shorter text along the row.
-/

namespace DisplayFilter

/-- The distances from the prefixes of a text to the empty text. -/
def firstRow (text : List Char) : List Nat :=
  List.range (text.length + 1)

/-- The rest of the next row: `left` is the entry just found, the row above starts over it. -/
def rowTail (character : Char) (left : Nat) : List Char → List Nat → List Nat
  | along :: text, diagonal :: above :: row =>
    let cost := if along = character then 0 else 1
    let entry := min (min (above + 1) (left + 1)) (diagonal + cost)
    entry :: rowTail character entry text (above :: row)
  | _, _ => []

/-- The row after one more character. -/
def nextRow (text : List Char) (row : List Nat) (character : Char) : List Nat :=
  let first := row.headD 0 + 1
  first :: rowTail character first text row

/-- The last entry of the last row. -/
def rowDistance (along down : List Char) : Nat :=
  (down.foldl (nextRow along) (firstRow along)).getLastD 0

/-- The least number of single-character edits between two texts. -/
def editDistance (first second : List Char) : Nat :=
  if second.length < first.length then rowDistance second first else rowDistance first second

end DisplayFilter
