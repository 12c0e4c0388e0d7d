/-
**Quoted scalars.**

Between single quotes a quote is written twice and every other character stands for itself. Between
double quotes a backslash starts an escape: a letter for a control character, hexadecimal digits for
any character, or a line break that leaves nothing behind.

* `Quoted.read`: the quoted scalar at a place.
-/

import DisplayFilter.Number.Integer
import DisplayFilter.Yaml.Scalar.Gap

namespace DisplayFilter.Yaml.Quoted

/-- The character that a letter after a backslash stands for. -/
def escaped? : Char → Option Char
  | '0' => some (Char.ofNat 0)
  | 'a' => some (Char.ofNat 7)
  | 'b' => some (Char.ofNat 8)
  | 't' => some '\t'
  | '\t' => some '\t'
  | 'n' => some '\n'
  | 'v' => some (Char.ofNat 11)
  | 'f' => some (Char.ofNat 12)
  | 'r' => some '\r'
  | 'e' => some (Char.ofNat 27)
  | ' ' => some ' '
  | '"' => some '"'
  | '\'' => some '\''
  | '\\' => some '\\'
  | 'N' => some (Char.ofNat 0x85)
  | '_' => some (Char.ofNat 0xA0)
  | 'L' => some (Char.ofNat 0x2028)
  | 'P' => some (Char.ofNat 0x2029)
  | _ => none

/-- The number of hexadecimal digits that a letter after a backslash asks for. -/
def codeWidth? : Char → Option Nat
  | 'x' => some 2
  | 'u' => some 4
  | 'U' => some 8
  | _ => none

/-- The character of an escape, which is at its backslash. -/
def escape : Scanning Char := do
  let letter ← Scanning.ahead 1
  match codeWidth? letter with
  | none =>
    match escaped? letter with
    | none => throw .scalar
    | some character =>
      Scanning.advance 2
      return character
  | some width =>
    Scanning.advance 2
    Scanning.need width
    let digits := (← get).rest.take width
    match (Number.inBase? 16 digits).bind Text.character? with
    | none => throw .scalar
    | some character =>
      Scanning.advance width
      return character

/-- What the next characters of a quoted scalar are. -/
inductive Step where
  | character (value : Char)
  | continued
  | ends

/-- Goes on by one character of a quoted scalar, which may be escaped. -/
def step (double : Bool) : Scanning Step := do
  let character ← Scanning.peek
  let next ← Scanning.ahead 1
  if endsWord character then return .ends
  if !double && character = '\'' then
    if next ≠ '\'' then return .ends
    Scanning.advance 2
    return .character '\''
  if double && character = '"' then return .ends
  if double && character = '\\' then
    if !isBreak next then return .character (← escape)
    Scanning.need 3
    Scanning.skip
    let _ ← Scanning.takeBreak
    return .continued
  return .character (← Scanning.take)

/-- Goes on with the characters of a scalar up to a gap or the closing quote. The ones already taken
are given, the last one first; returns them and the gap that has begun. -/
def word (double : Bool) : (fuel : Nat) → List Char → Scanning (List Char × Gap)
  | 0, taken => return (taken, .none)
  | fuel + 1, taken => do
    match ← step double with
    | .character value =>
      Scanning.need 2
      word double fuel (value :: taken)
    | .continued => return (taken, .continued)
    | .ends => return (taken, .none)

/-- Goes on with a quoted scalar, a word and the gap after it at a time, up to the closing quote.
The characters already taken are given, the last one first. -/
def extend (double : Bool) : (fuel : Nat) → List Char → Scanning (List Char)
  | 0, _ => throw .scalar
  | fuel + 1, taken => do
    Scanning.need 4
    if (← Scanning.atDocumentMark) || (← Scanning.peek) = endMark then throw .scalar
    let (taken, gap) ← word double (← get).limit taken
    Scanning.need 1
    if (← Scanning.peek) = (if double then '"' else '\'') then
      Scanning.skip
      return taken.reverse
    let gap ← Gap.read 0 gap
    extend double fuel (gap.folded.reverse ++ taken)

/-- The quoted scalar at a place, which is its opening quote. -/
def read (double : Bool) : Scanning (List Char) := do
  Scanning.skip
  extend double (← get).limit []

end DisplayFilter.Yaml.Quoted
