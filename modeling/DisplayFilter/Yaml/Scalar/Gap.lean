/-
**Gaps inside flowing scalars.**

Plain and quoted scalars may run over several lines. The blanks and line breaks between two of their
words are a `Gap`, which is folded: blanks inside a line are kept, a single line break becomes a
space, and of several line breaks the first one is dropped.

* `Gap.folded`: what a gap becomes in the scalar.
* `Gap.read`: the gap at a place.
-/

import DisplayFilter.Yaml.Cursor

namespace DisplayFilter.Yaml

/-- The blanks before any line break, whether a line break was crossed, the first one, and those
after it. -/
structure Gap where
  blanks : List Char
  crossed : Bool
  first : List Char
  later : List Char

namespace Gap

/-- No gap. -/
def none : Gap := ⟨[], false, [], []⟩

/-- The gap that starts with a line break which leaves nothing behind. -/
def continued : Gap := ⟨[], true, [], []⟩

/-- What a gap becomes in the scalar. -/
def folded (gap : Gap) : List Char :=
  if !gap.crossed then gap.blanks
  else if gap.first.head? = some '\n' then if gap.later.isEmpty then [' '] else gap.later
  else gap.first ++ gap.later

/-- The gap with one more blank; blanks at the start of a line are dropped. -/
def addBlank (gap : Gap) (character : Char) : Gap :=
  if gap.crossed then gap else { gap with blanks := gap.blanks ++ [character] }

/-- The gap with one more line break; blanks at the end of a line are dropped. -/
def addBreak (gap : Gap) (lineBreak : List Char) : Gap :=
  if gap.crossed then { gap with later := gap.later ++ lineBreak }
  else { gap with blanks := [], crossed := true, first := lineBreak }

/-- Goes on with a gap over at most as many blanks and line breaks as there is fuel. A tab at the
start of a line may not stand before the margin. -/
def extend (margin : Nat) : (fuel : Nat) → Gap → Scanning Gap
  | 0, gap => return gap
  | fuel + 1, gap => do
    Scanning.need 1
    let character ← Scanning.peek
    if isBlank character then
      if gap.crossed && (← get).column < margin && character = '\t' then throw .indentation
      Scanning.skip
      extend margin fuel (gap.addBlank character)
    else if isBreak character then
      Scanning.need 2
      extend margin fuel (gap.addBreak (← Scanning.takeBreak))
    else return gap

/-- The gap at a place, after what is known of it already. -/
def read (margin : Nat) (gap : Gap) : Scanning Gap := do
  extend margin (← get).limit gap

end Gap

end DisplayFilter.Yaml
