/-
**Expressions of TOML.**

A document is a sequence of expressions, one a line: an assignment of a value to a key, or the
header of a table or of one more table of an array. Arrays may run over several lines and hold
comments; tables in braces may not.

* `Expression`: the expressions.
* `value`: the value at the head of a text.
* `expression`: the expression at the head of a text.
-/

import DisplayFilter.Toml.Text
import DisplayFilter.Toml.Value

namespace DisplayFilter.Toml

/-- An expression of a document. -/
inductive Expression where
  | assignment (key : Key) (value : Value)
  | table (key : Key)
  | arrayTable (key : Key)

/-- What can be wrong with the way an expression is written. -/
inductive SyntaxError where
  | text (error : TextError)
  | lineEnd (octet : UInt8)
  | returnAtEnd
  | lonelyReturn
  | comment
  | noKey
  | keyStart (octet : UInt8)
  | noAssignment
  | expected (sign : Char)
  | expectedAtEnd (sign : Char)
  | noValue
  | word (name : String)
  | numberLetter (letter : Char)
  | noNumber
  | arrayOpen
  | arrayComma
  | arraySeparator
  | tableOpen
deriving DecidableEq, Repr

/-- The wording of a syntax error. -/
def SyntaxError.message : SyntaxError → String
  | .text error => error.message
  | .lineEnd octet => "expected newline but got " ++ codeName octet
  | .returnAtEnd => "windows new line expected"
  | .lonelyReturn => "windows new line should be \\r\\n"
  | .comment => "invalid character in comment"
  | .noKey => "expected key but found none"
  | .keyStart octet =>
    "invalid character at start of key: " ++ String.ofList [Char.ofNat octet.toNat]
  | .noAssignment => "expected = after a key, but the document ends there"
  | .expected sign => "expected character " ++ String.ofList [sign]
  | .expectedAtEnd sign =>
    "expected character " ++ String.ofList [sign] ++ " but the document ended here"
  | .noValue => "expected value, not eof"
  | .word name => "expected '" ++ name ++ "'"
  | .numberLetter letter =>
    "unexpected character '" ++ String.ofList [letter] ++ "' while scanning for a number"
  | .noNumber => "incomplete number"
  | .arrayOpen => "array is incomplete"
  | .arrayComma => "array cannot start with comma"
  | .arraySeparator => "array elements must be separated by commas"
  | .tableOpen => "inline table is incomplete"

/-! ### Signs and blanks -/

/-- What follows a sign that has to come first. -/
def expect (sign : Char) : Source → Except SyntaxError Source
  | [] => .error (.expectedAtEnd sign)
  | first :: rest => if first = .character sign then .ok rest else .error (.expected sign)

/-- A text without the blanks in front. -/
def skipBlanks (text : Source) : Source :=
  text.dropWhile fun glyph => glyph = .character ' ' || glyph = .character '\t'

/-- The leading characters of a class. -/
def leading (belongs : Char → Bool) (text : Source) : List Char :=
  (text.takeWhile fun glyph => glyph.char?.any belongs).filterMap Text.Glyph.char?

/-- What follows the end of a line. -/
def lineEnd : Source → Except SyntaxError Source
  | [] => .ok []
  | .character '\n' :: rest => .ok rest
  | [.character '\r'] => .error .returnAtEnd
  | .character '\r' :: .character '\n' :: rest => .ok rest
  | .character '\r' :: _ => .error .lonelyReturn
  | glyph :: _ => .error (.lineEnd glyph.firstOctet)

/-- What follows a comment: the end of its line, or nothing. -/
def comment : Source → Except SyntaxError Source
  | [] => .ok []
  | .character '\n' :: rest => .ok (.character '\n' :: rest)
  | .character '\r' :: .character '\n' :: rest => .ok (.character '\n' :: rest)
  | .character '\r' :: _ => .error .comment
  | glyph :: rest => if isAllowed glyph then comment rest else .error .comment

/-- What follows blanks and the comment behind them, if there is one. -/
def skipComment (text : Source) : Except SyntaxError Source :=
  match skipBlanks text with
  | .character '#' :: rest => comment rest
  | rest => .ok rest

/-- What follows blanks, comments and ends of lines. -/
def skipLines : (fuel : Nat) → Source → Except SyntaxError Source
  | 0, text => .ok text
  | fuel + 1, text => do
    match ← skipComment text with
    | .character '\n' :: rest => skipLines fuel rest
    | .character '\r' :: rest => skipLines fuel (← lineEnd (.character '\r' :: rest))
    | rest => return rest

/-- What follows everything between the items of an array. -/
def skipBetween (text : Source) : Except SyntaxError Source :=
  skipLines text.length text

/-! ### Keys -/

/-- Whether a character can stand in a key without quotes. -/
def isBare (character : Char) : Bool :=
  character.isAlphanum || character = '-' || character = '_'

/-- One part of a key, and what follows it. -/
def keyPart (text : Source) : Except SyntaxError (RawText × Source) :=
  match text with
  | [] => .error .noKey
  | .character '\'' :: rest => (shortText false rest).mapError .text
  | .character '"' :: rest => (shortText true rest).mapError .text
  | first :: _ =>
    let name := leading isBare text
    if name.isEmpty then .error (.keyStart first.firstOctet)
    else .ok (.ofChars name, text.drop name.length)

/-- The parts of a key with points between them, and what follows it. -/
def keyParts : (fuel : Nat) → Source → Except SyntaxError (Key × Source)
  | 0, _ => .error .noKey
  | fuel + 1, text => do
    let (name, text) ← keyPart text
    match skipBlanks text with
    | .character '.' :: rest =>
      let (names, rest) ← keyParts fuel (skipBlanks rest)
      return (name :: names, rest)
    | rest => return ([name], rest)

/-- A key, and what follows it. -/
def key (text : Source) : Except SyntaxError (Key × Source) :=
  keyParts (text.length + 1) text

/-! ### Words, numbers, dates and times -/

/-- What follows a word, if the text starts with it. -/
def after? (word : String) (text : Source) : Option Source :=
  let letters := (RawText.ofString word).glyphs
  if letters.isPrefixOf text then some (text.drop letters.length) else none

/-- A value that is told by a word, and what follows it. -/
def word (name : String) (value : Value) (text : Source) : Except SyntaxError (Value × Source) :=
  match after? name text with
  | some rest => .ok (value, rest)
  | none => .error (.word name)

/-- Whether a character makes a number a decimal one. -/
def isRealSign (character : Char) : Bool :=
  character = '.' || character = 'e' || character = 'E'

/-- Whether a character can belong to a number. -/
def isNumberSign (character : Char) : Bool :=
  Number.isDigit character || character = '+' || character = '-' || character = '_' ||
    isRealSign character

/-- A number in decimal, and what follows it. It may end in a word for what is beyond all numbers or
is none. -/
def decimalNumber (text : Source) : Except SyntaxError (Value × Source) :=
  let written := leading isNumberSign text
  let rest := text.drop written.length
  let ending (letter : Char) (word : String) : Except SyntaxError (Value × Source) :=
    match after? word rest with
    | some rest => .ok (.real (written ++ word.toList), rest)
    | none => .error (.numberLetter letter)
  match rest.head? with
  | some (.character 'i') => ending 'i' "inf"
  | some (.character 'n') => ending 'n' "nan"
  | _ =>
    if written.isEmpty then .error .noNumber
    else .ok (if written.any isRealSign then .real written else .integer written, rest)

/-- The base that a letter behind a zero tells. -/
def baseOf? : Char → Option Nat
  | 'x' => some 16
  | 'o' => some 8
  | 'b' => some 2
  | _ => none

/-- A number, and what follows it. A zero stands alone unless a letter or a fraction follows it. -/
def number (text : Source) : Except SyntaxError (Value × Source) :=
  match text with
  | .character '0' :: second :: third :: rest =>
    if second.char?.any isRealSign then decimalNumber text
    else
      match second.char?.bind baseOf? with
      | none => .ok (.integer ['0'], second :: third :: rest)
      | some base =>
        let digits := leading (fun sign => sign = '_' || (Number.digitIn? base sign).isSome)
          (third :: rest)
        .ok (.integer ('0' :: second.shown :: digits), (third :: rest).drop digits.length)
  | text => decimalNumber text

/-- Whether a text starts like a date or a time of day. -/
def startsMoment (text : Source) : Bool :=
  let digits := leading Number.isDigit text
  let next? := (text.drop digits.length).head?
  (digits.length = 2 && next? = some (.character ':')) ||
    (digits.length = 4 && next? = some (.character '-'))

/-- The signs read of a date or time, the last one first, and the parts that they show. -/
structure MomentSigns where
  read : List Char
  date : Bool
  clock : Bool
  zone : Bool

namespace MomentSigns

/-- One more sign. -/
def add (signs : MomentSigns) (sign : Char) : MomentSigns :=
  { signs with
    read := sign :: signs.read
    date := signs.date || sign = '-'
    clock := signs.clock || ['T', 't', ':', '.'].contains sign
    zone := signs.zone || ['+', 'Z', 'z'].contains sign || (sign = '-' && 8 ≤ signs.read.length) }

/-- The kind of date or time that the signs show. -/
def kind (signs : MomentSigns) : MomentKind :=
  if !signs.clock then .date
  else if !signs.date then .clock
  else if signs.zone then .zoned
  else .both

/-- Whether a character can belong to a date or time. -/
def belongs (character : Char) : Bool :=
  Number.isDigit character || ['-', 'T', 't', ':', '.', '+', 'Z', 'z'].contains character

/-- Reads the signs of a date or time, and gives what follows it. Once, a blank may stand before a
digit; then the digit and the octet behind it belong to it too. -/
def scan (spaced : Bool) (signs : MomentSigns) : Source → MomentSigns × Source
  | .character ' ' :: .character digit :: rest =>
    if spaced || !Number.isDigit digit then (signs, .character ' ' :: .character digit :: rest)
    else
      let signs := { signs with read := digit :: ' ' :: signs.read, clock := true }
      match rest with
      | [] => (signs, [])
      | next :: rest =>
        let signs := { signs with read := Char.ofNat next.firstOctet.toNat :: signs.read }
        match next.octets.drop 1 with
        | [] => scan true signs rest
        | octets => (signs, octets.map .stray ++ rest)
  | .character sign :: rest =>
    if belongs sign then scan spaced (signs.add sign) rest else (signs, .character sign :: rest)
  | rest => (signs, rest)

end MomentSigns

/-- A number, date or time, and what follows it. -/
def numberOrMoment (text : Source) : Except SyntaxError (Value × Source) :=
  match text.head? with
  | some (.character 'i') => word "inf" (.real "inf".toList) text
  | some (.character 'n') => word "nan" (.real "nan".toList) text
  | _ =>
    if startsMoment text then
      let (signs, rest) := MomentSigns.scan false ⟨[], false, false, false⟩ text
      .ok (.moment signs.kind signs.read.reverse, rest)
    else number text

/-! ### Values -/

mutual

/-- The value at the head of a text, and what follows it. -/
def valueFrom : (fuel : Nat) → Source → Except SyntaxError (Value × Source)
  | 0, _ => .error .noValue
  | _, [] => .error .noValue
  | fuel + 1, first :: rest =>
    match first with
    | .character '"' =>
      ((quotedText true (first :: rest)).map fun (text, rest) => (.text text, rest)).mapError .text
    | .character '\'' =>
      ((quotedText false (first :: rest)).map fun (text, rest) => (.text text, rest)).mapError .text
    | .character 't' => word "true" (.truth true) (first :: rest)
    | .character 'f' => word "false" (.truth false) (first :: rest)
    | .character '[' => (items fuel true rest).map fun (items, rest) => (.array items, rest)
    | .character '\x7b' =>
      (entries fuel true rest).map fun (entries, rest) => (.table entries, rest)
    | _ => numberOrMoment (first :: rest)

/-- The items of an array up to its end. -/
def items : (fuel : Nat) → (first : Bool) → Source → Except SyntaxError (List Value × Source)
  | 0, _, _ => .error .arrayOpen
  | _, _, [] => .error (.expectedAtEnd ']')
  | fuel + 1, first, text => do
    match ← skipBetween text with
    | [] => .error .arrayOpen
    | .character ']' :: rest => return ([], rest)
    | .character ',' :: rest =>
      if first then throw .arrayComma
      match ← skipBetween rest with
      | .character ']' :: rest => return ([], rest)
      | rest => itemsFrom fuel rest
    | rest => if first then itemsFrom fuel rest else throw .arraySeparator

/-- An item of an array and the items behind it up to the end of the array. -/
def itemsFrom : (fuel : Nat) → Source → Except SyntaxError (List Value × Source)
  | 0, _ => .error .arrayOpen
  | fuel + 1, text => do
    let (item, rest) ← valueFrom fuel text
    let (items, rest) ← items fuel false (← skipBetween rest)
    return (item :: items, rest)

/-- The entries of a table in braces up to its end. -/
def entries : (fuel : Nat) → (first : Bool) → Source →
    Except SyntaxError (List (Key × Value) × Source)
  | 0, _, _ => .error .tableOpen
  | _, _, [] => .error (.expectedAtEnd '\x7d')
  | fuel + 1, first, text => do
    match skipBlanks text with
    | [] => throw .tableOpen
    | .character '\x7d' :: rest => return ([], rest)
    | rest =>
      let rest ← if first then pure rest else expect ',' rest
      let (entry, rest) ← entry fuel (skipBlanks rest)
      let (entries, rest) ← entries fuel false rest
      return (entry :: entries, rest)

/-- An assignment of a value to a key. -/
def entry : (fuel : Nat) → Source → Except SyntaxError ((Key × Value) × Source)
  | 0, _ => .error .noValue
  | fuel + 1, text => do
    let (key, rest) ← key text
    if rest.isEmpty then throw .noAssignment
    let rest ← expect '=' rest
    let (value, rest) ← valueFrom fuel (skipBlanks rest)
    return ((key, value), rest)

end

/-- How deeply a text can be read: each step takes at least one sign in three. -/
def readingDepth (text : Source) : Nat :=
  3 * text.length + 3

/-! ### Expressions -/

/-- The header of a table, after its first bracket, and what follows it. -/
def header (text : Source) : Except SyntaxError (Expression × Source) := do
  match text with
  | .character '[' :: rest =>
    let (key, rest) ← key (skipBlanks rest)
    return (.arrayTable key, ← expect ']' (← expect ']' rest))
  | text =>
    let (key, rest) ← key (skipBlanks text)
    return (.table key, ← expect ']' rest)

/-- The expression on the line at the head of a text, if there is one, and what follows it. -/
def expression (text : Source) : Except SyntaxError (Option Expression × Source) := do
  match skipBlanks text with
  | [] => return (none, [])
  | .character '#' :: rest => return (none, ← comment rest)
  | .character '\n' :: rest => return (none, .character '\n' :: rest)
  | .character '\r' :: rest => return (none, .character '\r' :: rest)
  | .character '[' :: rest =>
    let (expression, rest) ← header rest
    return (some expression, ← skipComment rest)
  | rest =>
    let ((key, value), rest) ← entry (readingDepth rest) rest
    return (some (.assignment key value), ← skipComment rest)

end DisplayFilter.Toml
