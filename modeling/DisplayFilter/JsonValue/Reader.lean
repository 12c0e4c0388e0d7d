/-
**Reading JSON.**

JSON text is read strictly. Where it goes wrong, the error tells the character and what was expected
in its place, or that the text ended too early. Octets that belong to no character are only allowed
within strings, where the replacement character stands for them.

* `JsonValue.read`: the document that a text holds, or what is wrong with it.
-/

import DisplayFilter.JsonValue
import DisplayFilter.Number.Integer

namespace DisplayFilter

/-- Why a text is not a JSON document. -/
inductive JsonReadError where
  /-- The text ends inside the document. -/
  | cutOff
  /-- A character that does not belong where it stands. -/
  | character (found : Text.Glyph) (place : String)
  /-- A backslash and what follows it do not stand for a character. -/
  | escape (written : RawText)
  /-- Arrays and objects are nested too deeply. -/
  | nesting
deriving DecidableEq, Repr

/-- A character or stray octet between single quotes. -/
def JsonReadError.quoted : Text.Glyph → String
  | .character value => Text.quoteSingle value
  | .stray octet => "'\\x" ++ String.ofList (Text.hexDigits 2 octet.toNat) ++ "'"

/-- Whether a part of an escape can be shown as it is. -/
def JsonReadError.isPlain : Text.Glyph → Bool
  | .character value =>
    value ≠ '`' && value ≠ Text.Glyph.replacement && !Text.isBlank value && Text.isPrintable value
  | .stray _ => false

/-- The wording of a reading error. -/
def JsonReadError.message : JsonReadError → String
  | .cutOff => "unexpected end of JSON input"
  | .character found place => "invalid character " ++ quoted found ++ " " ++ place
  | .escape written =>
    let shown := if written.glyphs.all isPlain then "`" ++ written.shown ++ "`" else written.quoted
    "invalid escape sequence " ++ shown ++ " in string"
  | .nesting => "exceeded max depth"

namespace JsonValue

/-- What is left of a JSON text. -/
abbrev Source := List Text.Glyph

/-- White space of JSON. -/
def isJsonSpace : Text.Glyph → Bool
  | .character value => value = ' ' || value = '\t' || value = '\n' || value = '\r'
  | .stray _ => false

/-- A text without the white space in front. -/
def skipJsonSpace (text : Source) : Source :=
  text.dropWhile isJsonSpace

/-- The error of a text that does not go on as expected. -/
def unexpected {α : Type} (place : String) : Source → Except JsonReadError α
  | [] => .error .cutOff
  | found :: _ => .error (.character found place)

/-- The rest of a word whose first letters have been read. -/
def readWord (word : String) (value : JsonValue) :
    List Char → Source → Except JsonReadError (JsonValue × Source)
  | [], text => .ok (value, text)
  | _, [] => .error .cutOff
  | expected :: letters, found :: text =>
    if found = .character expected then readWord word value letters text
    else .error (.character found
      ("in literal " ++ word ++ " (expecting " ++ Text.quoteSingle expected ++ ")"))

/-! ### Strings -/

/-- The character that a letter after a backslash stands for. -/
def escapedLetter? : Char → Option Char
  | 'b' => some (Char.ofNat 8)
  | 'f' => some (Char.ofNat 12)
  | 'n' => some '\n'
  | 'r' => some '\r'
  | 't' => some '\t'
  | '\\' => some '\\'
  | '/' => some '/'
  | '"' => some '"'
  | _ => none

/-- The code points of a string with surrogates put together; one that is alone becomes the
replacement character. -/
def joinSurrogates : List Nat → List Char
  | [] => []
  | high :: low :: points =>
    if 0xD800 ≤ high && high < 0xDC00 && 0xDC00 ≤ low && low < 0xE000 then
      Char.ofNat (0x10000 + (high - 0xD800) * 1024 + (low - 0xDC00)) :: joinSurrogates points
    else replaced high :: joinSurrogates (low :: points)
  | [point] => [replaced point]
where
  /-- The character of a code point that stands by itself. -/
  replaced (point : Nat) : Char :=
    (Text.character? point).getD Text.Glyph.replacement

/-- The first octets of a text. -/
def leadingOctets (count : Nat) (text : Source) : List UInt8 :=
  (RawText.octets ⟨text.take count⟩).take count

/-- The code point of a backslash, the letter `u` and four hexadecimal digits. -/
def readCode (text : Source) : Except JsonReadError Nat :=
  let octets := leadingOctets 6 text
  let digits := (octets.drop 2).map fun octet => Char.ofNat octet.toNat
  let areDigits := digits.all fun digit => (Number.digitIn? 16 digit).isSome
  if octets.length < 6 && areDigits then .error .cutOff
  else
    match if octets.length < 6 then none else Number.inBase? 16 digits with
    | some point => .ok point
    | none => .error (.escape (.ofOctets octets))

/-- The text of a string after its opening quote and the code points already read, the last one
first, and what follows the string. -/
def readString : (fuel : Nat) → List Nat → Source → Except JsonReadError (String × Source)
  | 0, _, _ => .error .cutOff
  | _, _, [] => .error .cutOff
  | fuel + 1, points, found :: text =>
    match found with
    | .character '"' => .ok (String.ofList (joinSurrogates points.reverse), text)
    | .character '\\' =>
      match text with
      | [] => .error .cutOff
      | .character 'u' :: _ => do
        let point ← readCode (found :: text)
        readString fuel (point :: points) (text.drop 5)
      | letter :: rest =>
        match letter.char?.bind escapedLetter? with
        | some character => readString fuel (character.toNat :: points) rest
        | none => .error (.escape (.ofOctets (leadingOctets 2 (found :: text))))
    | glyph =>
      let point := glyph.shown.toNat
      if point < 0x20 then .error (.character glyph "in string")
      else readString fuel (point :: points) text

/-! ### Numbers -/

/-- The leading digits of a text. -/
def leadingDigits (text : Source) : List Char :=
  (text.takeWhile fun glyph => glyph.char?.any Number.isDigit).filterMap Text.Glyph.char?

/-- Digits, of which there is at least one. -/
def readDigits (text : Source) : Except JsonReadError (List Char × Source) :=
  let written := leadingDigits text
  if written.isEmpty then unexpected "in numeric literal" text
  else .ok (written, text.drop written.length)

/-- The exponent of a number, if it has one. -/
def readExponent (text : Source) : Except JsonReadError (List Char × Source) :=
  match text with
  | .character 'e' :: rest => signed rest
  | .character 'E' :: rest => signed rest
  | text => .ok ([], text)
where
  /-- The sign and the digits of an exponent. -/
  signed : Source → Except JsonReadError (List Char × Source)
    | .character '-' :: rest => do
      let (written, rest) ← readDigits rest
      return ('e' :: '-' :: written, rest)
    | .character '+' :: rest => do
      let (written, rest) ← readDigits rest
      return ('e' :: '+' :: written, rest)
    | rest => do
      let (written, rest) ← readDigits rest
      return ('e' :: written, rest)

/-- The fraction of a number, if it has one. -/
def readFraction : Source → Except JsonReadError (List Char × Source)
  | .character '.' :: text => do
    let (written, text) ← readDigits text
    return ('.' :: written, text)
  | text => .ok ([], text)

/-- A number; a zero in front stands alone. -/
def readNumber (text : Source) : Except JsonReadError (JsonValue × Source) := do
  let (sign, text) := match text with
    | .character '-' :: text => (['-'], text)
    | text => ([], text)
  let (whole, text) ← match text with
    | .character '0' :: text => pure (['0'], text)
    | text => readDigits text
  let (fraction, text) ← readFraction text
  let (exponent, text) ← readExponent text
  return (.number (String.ofList (sign ++ whole ++ fraction ++ exponent)), text)

/-! ### Values -/

/-- What comes before a value. -/
def valuePlace : String := "looking for beginning of value"

/-- What comes before a key. -/
def keyPlace : String := "looking for beginning of object key string"

/-- How deeply arrays and objects may be nested. -/
def nestingLimit : Nat := 10000

mutual

/-- The value that a text starts with, after white space, inside so many arrays and objects. -/
def readValue : (fuel depth : Nat) → Source → Except JsonReadError (JsonValue × Source)
  | 0, _, _ => .error .cutOff
  | fuel + 1, depth, text =>
    match skipJsonSpace text with
    | [] => .error .cutOff
    | found :: rest =>
      match found with
      | .character '\x7b' =>
        if nestingLimit ≤ depth then .error .nesting
        else
          match skipJsonSpace rest with
          | .character '\x7d' :: rest => .ok (.object [], rest)
          | rest =>
            (readMembers fuel (depth + 1) rest).map fun (members, rest) => (.object members, rest)
      | .character '[' =>
        if nestingLimit ≤ depth then .error .nesting
        else
          match skipJsonSpace rest with
          | .character ']' :: rest => .ok (.array [], rest)
          | rest => (readItems fuel (depth + 1) rest).map fun (items, rest) => (.array items, rest)
      | .character '"' =>
        (readString (rest.length + 1) [] rest).map fun (value, rest) => (.string value, rest)
      | .character 't' => readWord "true" (.bool true) "rue".toList rest
      | .character 'f' => readWord "false" (.bool false) "alse".toList rest
      | .character 'n' => readWord "null" .null "ull".toList rest
      | found =>
        if found.char?.any fun character => character = '-' || Number.isDigit character then
          readNumber (found :: rest)
        else .error (.character found valuePlace)

/-- The items of an array up to its end. -/
def readItems : (fuel depth : Nat) → Source → Except JsonReadError (List JsonValue × Source)
  | 0, _, _ => .error .cutOff
  | fuel + 1, depth, text => do
    let (item, text) ← readValue fuel depth text
    match skipJsonSpace text with
    | .character ',' :: text =>
      let (items, text) ← readItems fuel depth text
      return (item :: items, text)
    | .character ']' :: text => return ([item], text)
    | text => unexpected "after array element" text

/-- The members of an object up to its end. -/
def readMembers :
    (fuel depth : Nat) → Source → Except JsonReadError (List (String × JsonValue) × Source)
  | 0, _, _ => .error .cutOff
  | fuel + 1, depth, text => do
    let (key, text) ← match skipJsonSpace text with
      | .character '"' :: text => readString (text.length + 1) [] text
      | text => unexpected keyPlace text
    let text ← match skipJsonSpace text with
      | .character ':' :: text => pure text
      | text => unexpected "after object key" text
    let (value, text) ← readValue fuel depth text
    match skipJsonSpace text with
    | .character ',' :: text =>
      let (members, text) ← readMembers fuel depth text
      return ((key, value) :: members, text)
    | .character '\x7d' :: text => return ([(key, value)], text)
    | text => unexpected "after object key:value pair" text

end

/-- Whether a text is nothing but a comma or colon and white space. -/
def isLoneDelimiter (text : Source) : Bool :=
  match skipJsonSpace text with
  | .character ',' :: rest => (skipJsonSpace rest).isEmpty
  | .character ':' :: rest => (skipJsonSpace rest).isEmpty
  | _ => false

/-- The document that a text holds. -/
def read (text : RawText) : Except JsonReadError JsonValue := do
  let text := text.glyphs
  if isLoneDelimiter text then throw .cutOff
  let (value, rest) ← readValue (text.length + 1) 0 text
  match skipJsonSpace rest with
  | [] => return value
  | rest => unexpected "after top-level value" rest

end JsonValue

end DisplayFilter
