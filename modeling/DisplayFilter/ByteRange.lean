/-
**Byte ranges.**

A byte range picks bytes of a field's value by a list of windows. A window starts at an offset,
counted from the end when negative, and goes on for a length, up to an inclusive end, or to the last
byte.

* `Window.text`, `ByteRange.text`: the written forms, such as `0:4,8-11,20:`.
* `ByteRange.parse`: reads the written form, with or without brackets around it.
-/

import DisplayFilter.Number.Integer
import DisplayFilter.Text.Blank

namespace DisplayFilter

/-- How the end of a window is given. -/
inductive WindowKind where
  | length
  | offset
  | toTheEnd
  | invalid (code : UInt8)
deriving DecidableEq, Repr

/-- One window: where it starts, and its length or its inclusive end by kind. -/
structure Window where
  kind : WindowKind
  start : Int
  length : Int
  stop : Int
deriving DecidableEq, Repr

/-- An ordered list of windows. -/
abbrev ByteRange := List Window

namespace WindowKind

/-- The code of a kind of window. -/
def code : WindowKind → UInt8
  | .length => 1
  | .offset => 2
  | .toTheEnd => 3
  | .invalid code => code

/-- The kind of window with the given code. -/
def ofCode (code : UInt8) : WindowKind :=
  if code = 1 then .length
  else if code = 2 then .offset
  else if code = 3 then .toTheEnd
  else .invalid code

end WindowKind

namespace Window

/-- The window of one byte. -/
def single (start : Int) : Window := ⟨.length, start, 1, 0⟩

/-- The window of a given length. -/
def ofLength (start length : Int) : Window := ⟨.length, start, length, 0⟩

/-- The window up to an inclusive end. -/
def ofOffsets (start stop : Int) : Window := ⟨.offset, start, 0, stop⟩

/-- The window to the last byte. -/
def toTheEnd (start : Int) : Window := ⟨.toTheEnd, start, 0, 0⟩

/-- The written form of a window; one byte is written by its offset alone. -/
def chars (window : Window) : List Char :=
  let start := Number.decimalChars window.start
  match window.kind with
  | .length =>
    if window.length = 1 then start else start ++ ':' :: Number.decimalChars window.length
  | .offset => start ++ '-' :: Number.decimalChars window.stop
  | .toTheEnd => start ++ [':']
  | .invalid _ => ['?']

/-- The written form of a window. -/
def text (window : Window) : String :=
  String.ofList window.chars

end Window

namespace ByteRange

open Text (Glyph)

/-- The written form of a range, without brackets. -/
def chars (range : ByteRange) : List Char :=
  [','].intercalate (range.map Window.chars)

/-- The written form of a range, without brackets. -/
def text (range : ByteRange) : String :=
  String.ofList (chars range)

/-- Why a text is not a range. -/
inductive ParseError where
  | empty
  | emptyElement (range : RawText)
  | number (range : RawText) (cause : Number.ReadError)
  | length (range : RawText) (given : Int)
deriving DecidableEq, Repr

/-- The wording of a range error. -/
def ParseError.message : ParseError → String
  | .empty => "empty range"
  | .emptyElement range => inRange range "empty range element"
  | .number range cause => inRange range cause.message
  | .length range given =>
    inRange range ("length must be positive (got " ++ Number.decimal given ++ ")")
where
  /-- The wording of a fault within a range. -/
  inRange (range : RawText) (cause : String) : String :=
    "invalid range " ++ range.quoted ++ ": " ++ cause

/-- Why one part of a range is not a window. -/
inductive WindowError where
  | empty
  | number (cause : Number.ReadError)
  | length (given : Int)
deriving DecidableEq, Repr

/-- Reads a number of a window. -/
def readNumber (text : List Glyph) : Except WindowError Int :=
  (Number.read ⟨text⟩).mapError .number

/-- The text before and after the first occurrence of a character. -/
def cut? (character : Char) (text : List Glyph) : Option (List Glyph × List Glyph) :=
  let front := text.takeWhile (· ≠ .character character)
  match text.drop front.length with
  | [] => none
  | _ :: back => some (front, back)

/-- A window with a colon: the start may be missing, and a missing length runs to the end. -/
def parseLength (front back : List Glyph) : Except WindowError Window := do
  let start ← if front = [] then pure 0 else readNumber front
  if back = [] then pure (.toTheEnd start)
  else
    let length ← readNumber back
    if length ≤ 0 then throw (.length length) else pure (.ofLength start length)

/-- A window without a colon: a minus sign after the first character separates two offsets. -/
def parseOffsets (first : Glyph) (rest : List Glyph) : Except WindowError Window :=
  match cut? '-' rest with
  | some (front, back) => do
    let start ← readNumber (first :: front)
    let stop ← readNumber back
    pure (.ofOffsets start stop)
  | none => do
    let start ← readNumber (first :: rest)
    pure (.single start)

/-- Reads one window. -/
def parseWindow : List Glyph → Except WindowError Window
  | [] => .error .empty
  | first :: rest =>
    match cut? ':' (first :: rest) with
    | some (front, back) => parseLength front back
    | none => parseOffsets first rest

/-- Reads a range, with or without the surrounding brackets. -/
def parse (text : RawText) : Except ParseError ByteRange :=
  let trimmed := Text.trimBy Glyph.isBlank text.glyphs
  let inner := Text.dropTrailing (.character ']') (Text.dropLeading (.character '[') trimmed)
  if inner = [] then .error .empty
  else
    let parts := (Text.split (.character ',') inner).map (Text.trimBy Glyph.isBlank)
    (parts.mapM parseWindow).mapError fun
      | .empty => .emptyElement ⟨inner⟩
      | .number cause => .number ⟨inner⟩ cause
      | .length given => .length ⟨inner⟩ given

end ByteRange

end DisplayFilter
