/-
**Assignments of variables.**

An assignment gives a value to a name behind an equals sign, or behind a colon and a blank; the word
`export` may stand in front. A value in single quotes stands for itself. In double quotes it knows
escapes, and there and without quotes names behind a dollar sign stand for the values of other
variables. A comment may follow the value.

* `Segment`: the parts of a value.
* `Assignment.ofLine?`: the assignment on a line.
* `Assignment.expand`: the value of an assignment, given the values of other variables.
-/

import DisplayFilter.RawText

namespace DisplayFilter.Dotenv

/-- A line of text. -/
abbrev Line := List Text.Glyph

/-- A part of a value. -/
inductive Segment where
  | glyph (value : Text.Glyph)
  /-- The value of another variable. -/
  | reference (name : String)
deriving DecidableEq, Repr

/-- The assignment of a value to a name. -/
structure Assignment where
  name : RawText
  value : List Segment
deriving DecidableEq, Repr

/-! ### Lines -/

/-- Whether a glyph is a blank between the parts of a line. -/
def isSpace (glyph : Text.Glyph) : Bool :=
  glyph.char?.any fun character => [' ', '\t', '\n', '\r', Char.ofNat 12].contains character

/-- Whether a glyph can stand in a name. -/
def isNameGlyph (glyph : Text.Glyph) : Bool :=
  glyph.char?.any fun character => character.isAlphanum || character = '_' || character = '.'

/-- Whether nothing but blanks and a comment is left of a line. -/
def isRemainder (text : Line) : Bool :=
  match text.dropWhile isSpace with
  | [] => true
  | .character '#' :: rest => !rest.contains (.character '\n')
  | _ => false

/-- The length of the longest text that ends with a quote before nothing but a comment. -/
def lengthToQuote? (quote : Text.Glyph) : Line → Option Nat
  | [] => none
  | first :: rest =>
    match lengthToQuote? quote rest with
    | some length => some (length + 1)
    | none => if first = quote && isRemainder rest then some 1 else none

/-- A value that ends before a comment or at the end of a line. -/
def plainValue? (text : Line) : Option Line :=
  let written := text.takeWhile fun glyph =>
    glyph ≠ .character '#' && glyph ≠ .character '\n'
  if isRemainder (text.drop written.length) then some written else none

/-- The value at the head of what follows a name, with its quotes. -/
def writtenValue? (text : Line) : Option Line :=
  match text with
  | [] => some []
  | first :: rest =>
    if first = .character '\'' || first = .character '"' then
      match lengthToQuote? first rest with
      | some length => some (text.take (length + 1))
      | none => plainValue? text
    else plainValue? text

/-- The value behind a colon: as few blanks as can be are passed over, but at least one. -/
def valueAfterColon? : Line → Option Line
  | [] => none
  | first :: rest =>
    if isSpace first then (writtenValue? rest).or (valueAfterColon? rest) else none

/-- The name and the written value of an assignment. -/
def nameAndValue? (text : Line) : Option (Line × Line) :=
  let name := text.takeWhile isNameGlyph
  let rest := text.drop name.length
  if name.isEmpty then none
  else
    match rest.dropWhile isSpace, rest with
    | .character '=' :: rest, _ =>
      (writtenValue? (rest.dropWhile isSpace)).map fun value => (name, value)
    | _, .character ':' :: rest => (valueAfterColon? rest).map fun value => (name, value)
    | _, _ => none

/-- The word that may stand in front of an assignment. -/
def exportWord : Line := (RawText.ofString "export").glyphs

/-- What follows the word in front of an assignment and the blanks behind it. -/
def afterExport? (text : Line) : Option Line :=
  let rest := text.drop exportWord.length
  if exportWord.isPrefixOf text && rest.head?.any isSpace then some (rest.dropWhile isSpace)
  else none

/-! ### Values -/

/-- A text with a glyph in the place of each backslash and the given letter behind it. -/
def replaceEscape (letter : Char) (glyph : Text.Glyph) : Line → Line
  | [] => []
  | [last] => [last]
  | first :: second :: rest =>
    if first = .character '\\' && second = .character letter then
      glyph :: replaceEscape letter glyph rest
    else first :: replaceEscape letter glyph (second :: rest)

/-- A text without the backslashes, each of which keeps the glyph behind it; before a dollar sign
they stay. -/
def dropEscapes : Line → Line
  | [] => []
  | [last] => [last]
  | first :: second :: rest =>
    if first = .character '\\' && second ≠ .character '$' then second :: dropEscapes rest
    else first :: dropEscapes (second :: rest)

/-- The text that stands in double quotes. -/
def unescape (text : Line) : Line :=
  dropEscapes (replaceEscape 'r' (.character '\r') (replaceEscape 'n' (.character '\n') text))

/-- The leading characters that can name a variable in a value. -/
def variableName (text : Line) : List Char :=
  let belongs (character : Char) : Bool :=
    character.isUpper || character.isDigit || character = '_'
  (text.takeWhile fun glyph => glyph.char?.any belongs).filterMap Text.Glyph.char?

/-- The parts of a value. A dollar sign behind a backslash, or without a name, stands for itself;
braces may stand around the name. -/
def segments : (fuel : Nat) → Line → List Segment
  | 0, _ => []
  | _, [] => []
  | fuel + 1, .character '\\' :: .character '$' :: rest =>
    .glyph (.character '$') :: segments fuel rest
  | fuel + 1, .character '$' :: rest =>
    let inner := Text.dropLeading (.character '\x7b') rest
    let name := variableName inner
    if name.isEmpty then .glyph (.character '$') :: segments fuel rest
    else
      .reference (String.ofList name) ::
        segments fuel (Text.dropLeading (.character '\x7d') (inner.drop name.length))
  | fuel + 1, glyph :: rest => .glyph glyph :: segments fuel rest

/-- Whether a text is between two quotes of the given kind. -/
def isQuoted (quote : Char) (text : Line) : Bool :=
  2 ≤ text.length && text.head? = some (.character quote) &&
    text.getLast? = some (.character quote)

/-- The parts of a written value. -/
def valueSegments (written : Line) : List Segment :=
  let text := Text.trimBy Text.Glyph.isBlank written
  let inner := (text.drop 1).dropLast
  if isQuoted '\'' text then inner.map .glyph
  else if isQuoted '"' text then segments inner.length (unescape inner)
  else segments text.length text

namespace Assignment

/-- The assignment on a line. -/
def ofLine? (line : Line) : Option Assignment :=
  let found? := ((afterExport? line).bind nameAndValue?).or (nameAndValue? line)
  found?.map fun (name, written) => ⟨⟨name⟩, valueSegments written⟩

variable {m : Type → Type} [Monad m]

/-- The value of an assignment, given the values of other variables. -/
def expand (valueOf : String → m RawText) (assignment : Assignment) : m RawText :=
  assignment.value.foldlM (fun read segment => do
    match segment with
    | .glyph glyph => return read ++ ⟨[glyph]⟩
    | .reference name => return read ++ (← valueOf name)) .empty

end Assignment

end DisplayFilter.Dotenv
