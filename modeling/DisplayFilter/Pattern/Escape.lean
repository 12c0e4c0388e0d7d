/-
**Escapes in patterns.**

A backslash begins the code of a character, or a class of characters that a letter or a name stands
for.

* `escape`: the character of an escape.
* `escapedClass?`: the class that a backslash begins.
-/

import DisplayFilter.Pattern.Flaw
import DisplayFilter.Pattern.Names

namespace DisplayFilter.Pattern

/-- Whether a character is an octal digit. -/
def isOctal (character : Char) : Bool :=
  '0' ≤ character && character ≤ '7'

/-- The value of a hexadecimal digit. -/
def hexValue? (character : Char) : Option Nat :=
  if '0' ≤ character && character ≤ '9' then some (character.toNat - 48)
  else if 'a' ≤ character && character ≤ 'f' then some (character.toNat - 87)
  else if 'A' ≤ character && character ≤ 'F' then some (character.toNat - 55)
  else none

/-! ### Characters -/

/-- Hexadecimal digits up to a closing brace: the code point and what follows. The escape begins at
`whole`. -/
def bracedHex (whole : Source) (value count : Nat) :
    Source → Except GrammarError (Nat × Source)
  | [] => failAt .escape whole []
  | .character '\x7d' :: rest =>
    if count = 0 then failAt .escape whole rest else .ok (value, rest)
  | .character character :: rest =>
    match hexValue? character with
    | none => failAt .escape whole rest
    | some digit =>
      let value := value * 16 + digit
      if lastPoint < value then failAt .escape whole rest
      else bracedHex whole value (count + 1) rest
  | text => .error ⟨.encoding, text⟩

/-- The code point after a backslash and `x`, and what follows. -/
def hexEscape (whole text : Source) : Except GrammarError (Nat × Source) := do
  match ← nextChar text with
  | (none, rest) => failAt .escape whole rest
  | (some '\x7b', rest) => bracedHex whole 0 0 rest
  | (some high, rest) =>
    let (low?, rest) ← nextChar rest
    match hexValue? high, low?.bind hexValue? with
    | some high, some low => return (high * 16 + low, rest)
    | _, _ => failAt .escape whole rest

/-- The value of a number followed by up to so many octal digits, and what follows. -/
def octalDigits (value : Nat) : (count : Nat) → Source → Nat × Source
  | count + 1, .character digit :: rest =>
    if isOctal digit then octalDigits (value * 8 + (digit.toNat - 48)) count rest
    else (value, .character digit :: rest)
  | _, text => (value, text)

/-- Whether a text starts with an octal digit. -/
def startsOctal : Source → Bool
  | .character digit :: _ => isOctal digit
  | _ => false

/-- The code points of letters after a backslash. -/
def letterCodes : List (Char × Nat) :=
  [('a', 7), ('f', 12), ('n', 10), ('r', 13), ('t', 9), ('v', 11)]

/-- The code point of an escape; the text starts with its backslash. -/
def escape (text : Source) : Except GrammarError (Nat × Source) := do
  match ← nextChar (text.drop 1) with
  | (none, _) => throw ⟨.trailingBackslash, []⟩
  | (some character, rest) =>
    if character = 'x' then hexEscape text rest
    else if character = '0' || (isOctal character && startsOctal rest) then
      return octalDigits (character.toNat - 48) 2 rest
    else
      match letterCodes.lookup character with
      | some code => return (code, rest)
      | none =>
        if character.toNat < 0x80 && !isWordChar character then return (character.toNat, rest)
        else failAt .escape text rest

/-! ### Classes -/

/-- A name without the caret in front of it, and whether there was one. -/
def withoutCaret : List Char → List Char × Bool
  | '^' :: name => (name, true)
  | name => (name, false)

/-- The class of ranges, with both cases of letters if case does not matter. -/
def classOf (folded negated : Bool) (ranges : Ranges) : CharSet :=
  let set := CharSet.ofRanges (if folded then foldedRanges ranges else ranges)
  if negated then set.complement else set

/-- A class by its name; the text starts with a backslash and `p` or `P`. -/
def propertyClass (negated : Bool) (text : Source) : Except GrammarError (CharSet × Source) := do
  let (name, rest) ← match ← nextChar (text.drop 2) with
    | (some '\x7b', inner) =>
      match before? '\x7d' inner with
      | none =>
        let _ ← allChars text
        throw ⟨.classRange, text⟩
      | some (name, rest) => pure (← allChars name, rest)
    | (character?, rest) => pure (character?.toList, rest)
  let (name, inverted) := withoutCaret name
  if isPropertyName name then return (.ofName (comparedName name) (negated ≠ inverted), rest)
  else failAt .classRange text rest

/-- The class that a backslash begins, if there is one, and what follows it. -/
def escapedClass? (folded : Bool) (text : Source) :
    Except GrammarError (Option (CharSet × Source)) :=
  match text with
  | .character '\\' :: .character letter :: rest =>
    if letter = 'p' || letter = 'P' then (propertyClass (letter = 'P') text).map some
    else
      match letterClasses.lookup letter.toLower with
      | some ranges => .ok (some (classOf folded letter.isUpper ranges, rest))
      | none => .ok none
  | _ => .ok none

end DisplayFilter.Pattern
