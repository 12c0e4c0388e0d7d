/-
**A place in the text of a document.**

A document is read from the front. A `Cursor` holds the characters that were decoded but not read
yet, the blocks that are still to be decoded, and the line and column of the first character,
because indentation decides how block collections nest. Before characters are looked at they are
asked for, and only then further blocks are decoded. The text ends with zero characters.

* `isBlank`, `isBreak`, `isWord`: the classes of characters.
* `Scanning.need`: asks for characters.
* `Scanning.skip`, `Scanning.skipBreak`: move on by one character and by one line break.
* `Scanning.atDocumentMark`: whether a line starts with the mark of a document's start or end.
-/

import DisplayFilter.Yaml.Encoding
import DisplayFilter.Yaml.Error

namespace DisplayFilter.Yaml

/-! ### Characters -/

/-- The character that stands behind the end of a text. -/
def endMark : Char := Char.ofNat 0

/-- A space or a tab. -/
def isBlank (character : Char) : Bool :=
  character = ' ' || character = '\t'

/-- A line break that is kept as it is: the line and the paragraph separator. -/
def isSeparator (character : Char) : Bool :=
  character = Char.ofNat 0x2028 || character = Char.ofNat 0x2029

/-- A character that ends a line. -/
def isBreak (character : Char) : Bool :=
  character = '\n' || character = '\r' || character = Char.ofNat 0x85 || isSeparator character

/-- A character of a name: an ASCII letter or digit, a hyphen or an underscore. -/
def isWord (character : Char) : Bool :=
  ('0' ≤ character && character ≤ '9') || ('A' ≤ character && character ≤ 'Z') ||
    ('a' ≤ character && character ≤ 'z') || character = '_' || character = '-'

/-- A character behind which a line is at its end. -/
def endsLine (character : Char) : Bool :=
  character = endMark || isBreak character

/-- A character behind which a word is at its end. -/
def endsWord (character : Char) : Bool :=
  isBlank character || endsLine character

/-! ### Places -/

/-- What is left of a text: the characters that were decoded but not read and the blocks after them;
the first character that was left when blocks were last decoded; how many characters were read; the
line and column; and whether nothing but blanks was read since the last line break. The limit is a
bound on the number of characters in the whole text. -/
structure Cursor where
  rest : List Char
  blocks : List Block
  lead : Char
  index : Nat
  line : Nat
  column : Nat
  fresh : Bool
  limit : Nat

/-- The start of a text. -/
def Cursor.start (text : List UInt8) : Cursor :=
  ⟨[], Yaml.blocks text, endMark, 0, 0, 0, false, text.length + 8⟩

/-- Reading from a text. -/
abbrev Scanning := StateT Cursor (Except Error)

namespace Scanning

/-- Whether there are fewer characters than wanted. -/
def isShort (count : Nat) (text : List Char) : Bool :=
  count ≠ 0 && (text.drop (count - 1)).isEmpty

/-- Characters with as many of the following blocks as are needed to have so many. Behind the last
block one zero character is added. -/
def fill (count : Nat) (text : List Char) : List Block → Except Error (List Char × List Block)
  | [] => .ok (if isShort count text then text ++ [endMark] else text, [])
  | block :: blocks =>
    if !isShort count text then .ok (text, block :: blocks)
    else
      match block with
      | none => .error .character
      | some decoded => fill count (text ++ decoded) blocks

/-- Asks for the next characters, of which more are decoded if there are fewer. -/
def need (count : Nat) : Scanning Unit := do
  let cursor ← get
  if isShort count cursor.rest then
    let (rest, blocks) ← fill count cursor.rest cursor.blocks
    set { cursor with rest, blocks, lead := rest.headD endMark }

/-- The character so many places ahead. -/
def ahead (count : Nat) : Scanning Char := do
  return (← get).rest.getD count endMark

/-- The next character. -/
def peek : Scanning Char :=
  ahead 0

/-- Moves on by one character, which is not a line break. -/
def skip : Scanning Unit :=
  modify fun cursor => { cursor with
    rest := cursor.rest.drop 1
    index := cursor.index + 1
    column := cursor.column + 1
    fresh := cursor.fresh && isBlank (cursor.rest.headD endMark) }

/-- Moves on by several characters. -/
def advance : Nat → Scanning Unit
  | 0 => return ()
  | count + 1 => do
    skip
    advance count

/-- Moves on by one character and returns it. -/
def take : Scanning Char := do
  let character ← peek
  skip
  return character

/-- Moves on by one line break, if there is one, and returns it as a scalar keeps it; a carriage
return and a line feed together are one. -/
def takeBreak : Scanning (List Char) := do
  let first ← peek
  if !isBreak first then return []
  let length := if first = '\r' && (← ahead 1) = '\n' then 2 else 1
  modify fun cursor => { cursor with
    rest := cursor.rest.drop length
    index := cursor.index + length
    line := cursor.line + 1
    column := 0
    fresh := true }
  return if isSeparator first then [first] else ['\n']

/-- Asks for a whole line break and moves on by it. -/
def skipBreak : Scanning Unit := do
  need 2
  let _ ← takeBreak

/-- Asks for characters one by one and takes those of a class, at most as many as there is fuel. The
ones already taken are given, the last one first. -/
def takeFrom (belongs : Char → Bool) : (fuel : Nat) → List Char → Scanning (List Char)
  | 0, taken => return taken.reverse
  | fuel + 1, taken => do
    need 1
    if belongs (← peek) then takeFrom belongs fuel ((← take) :: taken) else return taken.reverse

/-- Takes the leading characters of a class, to which no line break belongs. -/
def takeWhile (belongs : Char → Bool) : Scanning (List Char) := do
  takeFrom belongs (← get).limit []

/-- Moves on to the first character outside of a class. -/
def skipWhile (belongs : Char → Bool) : Scanning Unit := do
  let _ ← takeWhile belongs

/-- Moves on to the end of the line. -/
def skipLine : Scanning Unit :=
  skipWhile fun character => !endsLine character

/-- Whether the line starts with three hyphens or three dots that stand by themselves. Four
characters have to be asked for before. -/
def atDocumentMark : Scanning Bool := do
  let cursor ← get
  return cursor.column = 0 && endsWord (← ahead 3) &&
    (cursor.rest.take 3 = ['-', '-', '-'] || cursor.rest.take 3 = ['.', '.', '.'])

end Scanning

end DisplayFilter.Yaml
