/-
**Block scalars.**

A block scalar starts after a header line and holds the lines that are indented as deeply as its
first one, or as its header says. A literal scalar keeps the line breaks; a folded one joins lines
that do not start with a blank. The header also says what becomes of the line breaks at the end.

* `Header.read`: the header of a block scalar.
* `BlockScalar.read`: the block scalar at a place.
-/

import DisplayFilter.Yaml.Cursor

namespace DisplayFilter.Yaml.BlockScalar

/-- What becomes of the line breaks at the end of a block scalar. -/
inductive Chomping where
  | strip
  | clip
  | keep
deriving DecidableEq, Repr

/-- What the header of a block scalar says; no increment leaves the indentation to be found. -/
structure Header where
  chomping : Chomping
  increment : Nat

/-- Takes the indicator of a chomping, if there is one. -/
def takeChomping : Scanning Chomping := do
  Scanning.need 1
  match ← Scanning.peek with
  | '+' =>
    Scanning.skip
    return .keep
  | '-' =>
    Scanning.skip
    return .strip
  | _ => return .clip

/-- Takes the indicator of an increment, if there is one; it is not zero. -/
def takeIncrement : Scanning Nat := do
  Scanning.need 1
  let character ← Scanning.peek
  if character = '0' then throw .scalar
  if '1' ≤ character && character ≤ '9' then
    Scanning.skip
    return character.toNat - 48
  return 0

/-- The header at a place, in which either indicator may come first, and the line break after
it. -/
def Header.read : Scanning Header := do
  let chomping ← takeChomping
  let increment ← takeIncrement
  let chomping ← if chomping = .clip && increment ≠ 0 then takeChomping else pure chomping
  Scanning.skipWhile isBlank
  if (← Scanning.peek) = '#' then Scanning.skipLine
  if !endsLine (← Scanning.peek) then throw .scalar
  if isBreak (← Scanning.peek) then Scanning.skipBreak
  return ⟨chomping, increment⟩

/-- Moves on over the spaces before the given column; without a column over all spaces. -/
def skipIndentation (indent? : Option Nat) : (fuel : Nat) → Scanning Unit
  | 0 => return ()
  | fuel + 1 => do
    Scanning.need 1
    let column := (← get).column
    if (indent?.all fun indent => column < indent) && (← Scanning.peek) = ' ' then
      Scanning.skip
      skipIndentation indent? fuel

/-- Empty lines: their line breaks, after those already read, and the greatest column seen. -/
def emptyLines (indent? : Option Nat) : (fuel : Nat) → List Char → Nat →
    Scanning (List Char × Nat)
  | 0, breaks, greatest => return (breaks, greatest)
  | fuel + 1, breaks, greatest => do
    skipIndentation indent? (← get).limit
    let column := (← get).column
    let greatest := max greatest column
    let character ← Scanning.peek
    if (indent?.all fun indent => column < indent) && character = '\t' then throw .indentation
    if !isBreak character then return (breaks, greatest)
    Scanning.need 2
    emptyLines indent? fuel (breaks ++ (← Scanning.takeBreak)) greatest

/-- A block scalar so far: its text, the break of the last line, the breaks of the empty lines after
that, and whether the last line started with a blank. -/
structure Reading where
  text : List Char
  lastBreak : List Char
  emptyBreaks : List Char
  blankStart : Bool

/-- Goes on with the lines of a block scalar. -/
def lines (literal : Bool) (indent : Nat) : (fuel : Nat) → Reading → Scanning Reading
  | 0, reading => return reading
  | fuel + 1, reading => do
    let character ← Scanning.peek
    if (← get).column ≠ indent || character = endMark then return reading
    let blankStart := isBlank character
    let joined := !literal && !reading.blankStart && !blankStart &&
      reading.lastBreak.head? = some '\n'
    let glue :=
      if !joined then reading.lastBreak else if reading.emptyBreaks.isEmpty then [' '] else []
    let line ← Scanning.takeWhile fun character => !endsLine character
    Scanning.need 2
    let lastBreak ← Scanning.takeBreak
    let (emptyBreaks, _) ← emptyLines (some indent) (← get).limit [] 0
    lines literal indent fuel
      ⟨reading.text ++ glue ++ reading.emptyBreaks ++ line, lastBreak, emptyBreaks, blankStart⟩

/-- The block scalar at a place, which is its indicator. The margin is the least column that its
lines may have. -/
def read (literal : Bool) (margin : Nat) : Scanning (List Char) := do
  Scanning.skip
  let header ← Header.read
  let indent? :=
    if header.increment = 0 then none else some (margin - 1 + header.increment)
  let (breaks, greatest) ← emptyLines indent? (← get).limit [] 0
  let indent := indent?.getD (max greatest (max margin 1))
  Scanning.need 1
  let reading ← lines literal indent (← get).limit ⟨[], [], breaks, false⟩
  return match header.chomping with
    | .strip => reading.text
    | .clip => reading.text ++ reading.lastBreak
    | .keep => reading.text ++ reading.lastBreak ++ reading.emptyBreaks

end DisplayFilter.Yaml.BlockScalar
