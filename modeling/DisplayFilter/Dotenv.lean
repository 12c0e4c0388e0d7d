/-
**Files of variables.**

A file of variables has an assignment on each line. Blank lines and lines that start with a number
sign are passed over, and a value whose opening quote is not closed on its line runs on to the line
that closes it. A variable in a value has the value that the environment gives it, else the one that
an earlier assignment does, else none.

* `Dotenv.Error`: what can be wrong with a file.
* `Dotenv.assignments`: the assignments of a text.
* `Dotenv.read`: the variables of a text and their values.
-/

import DisplayFilter.Dotenv.Assignment

namespace DisplayFilter.Dotenv

/-- What can be wrong with a file of variables. -/
inductive Error where
  | openQuote
  | longLine
  | unset (line : RawText)
  | format (line : RawText)
deriving DecidableEq, Repr

/-- The wording of an error. -/
def Error.message : Error → String
  | .openQuote => "missing quotes"
  | .longLine => "bufio.Scanner: token too long"
  | .unset line => "line `" ++ line.shown ++ "` has an unset variable"
  | .format line => "line `" ++ line.shown ++ "` doesn't match format"

/-- The lines of a text, which end at a line feed, a carriage return, or both. -/
def lines (text : Line) : List Line :=
  Text.split (.character '\n') (joined text)
where
  /-- A text with a line feed at each end of a line. -/
  joined : Line → Line
    | [] => []
    | .character '\r' :: .character '\n' :: rest => .character '\n' :: joined rest
    | .character '\r' :: rest => .character '\n' :: joined rest
    | glyph :: rest => glyph :: joined rest

/-- The number of octets from which on a line is too long. -/
def lineLimit : Nat := 65536

/-- Whether a line is too long. -/
def isTooLong (line : Line) : Bool :=
  lineLimit ≤ (RawText.octets ⟨line⟩).length

/-! ### Open quotes -/

/-- The position of the last octet of its kind. -/
def lastIndex? (octet : UInt8) (octets : List UInt8) : Option Nat :=
  let behind := octets.reverse.takeWhile (· ≠ octet)
  if behind.length = octets.length then none else some (octets.length - behind.length - 1)

/-- The value behind the sign that divides a line: the first equals sign, else the first colon. -/
def dividedValue? (line : Line) : Option Line :=
  let divider : Text.Glyph := .character (if line.contains (.character '=') then '=' else ':')
  let name := line.takeWhile (· ≠ divider)
  let value := line.drop (name.length + 1)
  if name.isEmpty || value.isEmpty then none else some (Text.trimBy Text.Glyph.isBlank value)

/-- Whether a value has its closing quote on its line. -/
def isClosed (quote : Text.Glyph) (value : Line) : Bool :=
  let inner : RawText := ⟨Text.trimBy Text.Glyph.isBlank (value.drop 1)⟩
  match lastIndex? quote.firstOctet inner.octets with
  | none => false
  | some index => (RawText.octets ⟨value⟩)[index]? ≠ some 0x5C

/-- The quote that a line opens and does not close. -/
def openedQuote? (line : Line) : Option Text.Glyph := do
  let value ← dividedValue? line
  let quote ← value.head?
  if (quote = .character '"' || quote = .character '\'') && !isClosed quote value then some quote
  else none

/-- Whether a line closes a quote that was opened before. -/
def closes (quote : Text.Glyph) (line : Line) : Bool :=
  match line.reverse.dropWhile (· ≠ quote) with
  | [] => false
  | _ :: before => before.head? ≠ some (.character '\\')

/-! ### Assignments -/

/-- The error of a line that is no assignment, after the assignments before it. -/
def faultOf (known : List Assignment) (line : Line) : Error :=
  let trimmed := Text.trimBy Text.Glyph.isBlank line
  let name := (trimmed.dropWhile (· ≠ .character ' ')).drop 1
  if exportWord.isPrefixOf trimmed && trimmed.contains (.character ' ') &&
      known.all fun assignment => assignment.name.glyphs ≠ name then
    .unset ⟨trimmed⟩
  else .format ⟨line⟩

/-- One more assignment, if a line is one. -/
def addLine (known : List Assignment) (line : Line) : Except Error (List Assignment) :=
  match Assignment.ofLine? line with
  | some assignment => .ok (known ++ [assignment])
  | none => .error (faultOf known line)

/-- The assignments of lines after those before them; a value may have been opened that goes on. A
line that is too long ends the lines. -/
def addLines (known : List Assignment) (open? : Option (Text.Glyph × Line)) :
    List Line → Except Error (List Assignment)
  | [] => if open?.isSome then .error .openQuote else .ok known
  | line :: rest =>
    if isTooLong line then .error (if open?.isSome then .openQuote else .longLine)
    else
      match open? with
      | some (quote, before) =>
        let whole := before ++ .character '\n' :: line
        if closes quote line then do addLines (← addLine known whole) none rest
        else addLines known (some (quote, whole)) rest
      | none =>
        let trimmed := Text.trimBy Text.Glyph.isBlank line
        if trimmed.isEmpty || trimmed.head? = some (.character '#') then addLines known none rest
        else
          match openedQuote? trimmed with
          | some quote => addLines known (some (quote, trimmed)) rest
          | none => do addLines (← addLine known trimmed) none rest

/-- The assignments of a text, which may start with a mark of its encoding. -/
def assignments (text : RawText) : Except Error (List Assignment) :=
  addLines [] none (lines (Text.dropLeading (.character (Char.ofNat 0xFEFF)) text.glyphs))

/-! ### Values -/

/-- The variables and their values, the last assignment first. -/
abbrev Variables := List (RawText × RawText)

variable {m : Type → Type} [Monad m]

/-- The value of a variable in a value. -/
def valueOf (environment : String → m (Option String)) (known : Variables) (name : String) :
    m RawText := do
  match ← environment name with
  | some value => return value
  | none => return (known.lookup (.ofString name)).getD .empty

/-- The variables of a text and their values, the last assignment first. -/
def read (environment : String → m (Option String)) (text : RawText) :
    ExceptT Error m Variables := do
  let assignments ← ExceptT.mk (pure (assignments text))
  assignments.foldlM (fun (known : Variables) assignment => do
    let value ← (assignment.expand (valueOf environment known) : m RawText)
    return (assignment.name, value) :: known) []

end DisplayFilter.Dotenv
