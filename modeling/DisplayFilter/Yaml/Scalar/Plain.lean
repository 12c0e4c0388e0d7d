/-
**Plain scalars.**

A plain scalar has no quotes. It ends at a colon or comment that stands apart, inside a flow
collection also at the collection's indicators, at the mark of a document, and where a line is not
indented enough.

* `Plain.read`: the plain scalar at a place.
-/

import DisplayFilter.Yaml.Scalar.Gap

namespace DisplayFilter.Yaml.Plain

/-- Whether a plain scalar cannot go on with a character, given the one after it. -/
def stops (flow : Bool) (character next : Char) : Bool :=
  endsWord character || (character = ':' && endsWord next) ||
    (flow && ",?[]\x7b\x7d".toList.contains character)

/-- The characters of a plain scalar up to where it stops, after those already taken, the last one
first. -/
def run (flow : Bool) : (fuel : Nat) → List Char → Scanning (List Char)
  | 0, taken => return taken.reverse
  | fuel + 1, taken => do
    if stops flow (← Scanning.peek) (← Scanning.ahead 1) then return taken.reverse
    let character ← Scanning.take
    Scanning.need 2
    run flow fuel (character :: taken)

/-- A plain scalar and the gap after it. -/
structure Reading where
  text : List Char
  gap : Gap

/-- Goes on with a plain scalar, a run of characters and the gap after it at a time. -/
def extend (flow : Bool) (margin : Nat) : (fuel : Nat) → Reading → Scanning Reading
  | 0, reading => return reading
  | fuel + 1, reading => do
    Scanning.need 4
    if (← Scanning.atDocumentMark) || (← Scanning.peek) = '#' then return reading
    let word ← run flow (← get).limit []
    let reading : Reading :=
      if word.isEmpty then reading else ⟨reading.text ++ reading.gap.folded ++ word, .none⟩
    let next ← Scanning.peek
    if !isBlank next && !isBreak next then return reading
    let reading := { reading with gap := ← Gap.read margin reading.gap }
    if !flow && (← get).column < margin then return reading
    extend flow margin fuel reading

/-- The plain scalar at a place. The margin is the column that its further lines must reach in a
block collection. -/
def read (flow : Bool) (margin : Nat) : Scanning Reading := do
  extend flow margin (← get).limit ⟨[], .none⟩

end DisplayFilter.Yaml.Plain
