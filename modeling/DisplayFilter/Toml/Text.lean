/-
**Quoted texts of TOML.**

A literal text between single quotes stands for itself; a basic one between double quotes knows
escapes. With three quotes on either side a text may run over several lines, and a line break right
behind the opening quotes does not count.

* `literal`, `longLiteral`, `basic`, `longBasic`: the texts after their opening quotes.
* `quotedText`: the text at a quote.
-/

import DisplayFilter.Number.Integer
import DisplayFilter.RawText

namespace DisplayFilter.Toml

/-- What is left of a document. -/
abbrev Source := List Text.Glyph

/-- An octet by its code point, and as a character if that is printable. -/
def codeName (octet : UInt8) : String :=
  let character := Char.ofNat octet.toNat
  let code := "U+00" ++ String.ofList ((Text.hexDigits 2 octet.toNat).map Char.toUpper)
  if Text.isPrintable character then code ++ " '" ++ String.ofList [character] ++ "'" else code

/-- What can be wrong with a quoted text. -/
inductive TextError where
  | literalBreak
  | literalCharacter
  | literalOpen
  | longLiteralOpen
  | longLiteralQuotes
  | basicBreak
  | basicOpen
  | longBasicOpen
  | longBasicQuotes
  /-- A carriage return without a line feed. -/
  | lonelyReturn
  | backslashAtEnd
  /-- A character that is not allowed in a text without escapes. -/
  | encoding
  /-- A character that is not allowed in a text with escapes. -/
  | character (octet : UInt8)
  | escape (octet : UInt8)
  | codeLength (wanted present : Nat)
  | codeDigit
  | codePoint
deriving DecidableEq, Repr

/-- The wording of a text error. -/
def TextError.message : TextError → String
  | .literalBreak => "literal strings cannot have new lines"
  | .literalCharacter => "invalid character"
  | .literalOpen => "unterminated literal string"
  | .longLiteralOpen => "multiline literal string not terminated by '''"
  | .longLiteralQuotes => "''' not allowed in multiline literal string"
  | .basicBreak => "basic strings cannot have new lines"
  | .basicOpen => "basic string not terminated by \""
  | .longBasicOpen => "multiline basic string not terminated by \"\"\""
  | .longBasicQuotes => "\"\"\" not allowed in multiline basic string"
  | .lonelyReturn => "need a \\n after \\r"
  | .backslashAtEnd => "need a character after \\"
  | .encoding => "invalid UTF-8"
  | .character octet => "invalid character " ++ codeName octet
  | .escape octet => "invalid escaped character " ++ codeName octet
  | .codeLength wanted present =>
    "unicode point needs " ++ Number.decimal wanted ++ " character, not " ++ Number.decimal present
  | .codeDigit => "non-hex character"
  | .codePoint => "escape sequence is invalid Unicode code point"

/-- Whether a glyph may stand in a document: no control characters but tabs and line breaks. -/
def isAllowed : Text.Glyph → Bool
  | .character value =>
    value = '\t' || value = '\n' || value = '\r' || (0x20 ≤ value.toNat && value.toNat ≠ 0x7F)
  | .stray _ => false

/-! ### Literal texts -/

/-- The rest of a literal text after the glyphs already read, the last one first, and what follows
it. -/
def literal (read : Source) : Source → Except TextError (Source × Source)
  | [] => .error .literalOpen
  | .character '\'' :: rest => .ok (read.reverse, rest)
  | .character '\n' :: _ => .error .literalBreak
  | .character '\r' :: _ => .error .literalBreak
  | glyph :: rest =>
    if isAllowed glyph then literal (glyph :: read) rest else .error .literalCharacter

/-- Whether a text starts with three quotes: then how many more there are, and what follows them
all. -/
def closing? (quote : Char) (text : Source) : Option (Nat × Source) :=
  let count := (text.takeWhile (· = .character quote)).length
  if count < 3 then none else some (count - 3, text.drop count)

/-- The end of a long text after the glyphs already read, the last one first. Up to two quotes may
stand before the closing ones. -/
def closed (quote : Char) (error : TextError) (read : Source) (extra : Nat) (rest : Source) :
    Except TextError (Source × Source) :=
  if 3 ≤ extra then .error error
  else .ok (read.reverse ++ List.replicate extra (.character quote), rest)

/-- The rest of a long literal text after the glyphs already read, the last one first, and what
follows it. -/
def longLiteral (read : Source) : Source → Except TextError (Source × Source)
  | [] => .error .longLiteralOpen
  | first :: rest =>
    match closing? '\'' (first :: rest) with
    | some (extra, rest) => closed '\'' .longLiteralQuotes read extra rest
    | none =>
      if first = .character '\r' && rest.head? ≠ some (.character '\n') then .error .lonelyReturn
      else if isAllowed first then longLiteral (first :: read) rest
      else .error .literalCharacter

/-! ### Basic texts -/

/-- The rest of a basic text after the glyphs already read, the last one first, with its escapes as
they are written; whether there are any, and what follows it. -/
def basic (escaped : Bool) (read : Source) : Source → Except TextError (Source × Bool × Source)
  | [] => .error .basicOpen
  | .character '"' :: rest => .ok (read.reverse, escaped, rest)
  | .character '\n' :: _ => .error .basicBreak
  | .character '\r' :: _ => .error .basicBreak
  | [.character '\\'] => .error .backslashAtEnd
  | .character '\\' :: next :: rest => basic true (next :: .character '\\' :: read) rest
  | glyph :: rest => basic escaped (glyph :: read) rest

/-- The rest of a long basic text after the glyphs already read, the last one first, with its
escapes as they are written; whether there are any, and what follows it. -/
def longBasic (escaped : Bool) (read : Source) : Source → Except TextError (Source × Bool × Source)
  | [] => .error .longBasicOpen
  | [.character '\\'] => .error .backslashAtEnd
  | .character '\\' :: next :: rest => longBasic true (next :: .character '\\' :: read) rest
  | first :: rest =>
    match closing? '"' (first :: rest) with
    | some (extra, rest) =>
      (closed '"' .longBasicQuotes read extra rest).map fun (text, rest) => (text, escaped, rest)
    | none =>
      if first = .character '\r' && rest.head? ≠ some (.character '\n') then .error .lonelyReturn
      else longBasic escaped (first :: read) rest

/-- The character that a letter after a backslash stands for. -/
def escapedLetter? : Char → Option Char
  | '"' => some '"'
  | '\\' => some '\\'
  | 'b' => some (Char.ofNat 8)
  | 'f' => some (Char.ofNat 12)
  | 'n' => some '\n'
  | 'r' => some '\r'
  | 't' => some '\t'
  | 'e' => some (Char.ofNat 27)
  | _ => none

/-- The number of hexadecimal digits that a letter after a backslash asks for. -/
def codeWidth? : Char → Option Nat
  | 'u' => some 4
  | 'U' => some 8
  | _ => none

/-- The character of so many hexadecimal digits at the start of a text. -/
def codeCharacter (width : Nat) (text : Source) : Except TextError Char :=
  let octets := RawText.octets ⟨text⟩
  if octets.length < width then .error (.codeLength width octets.length)
  else
    match Number.inBase? 16 ((octets.take width).map fun octet => Char.ofNat octet.toNat) with
    | none => .error .codeDigit
    | some point =>
      match Text.character? point with
      | some character => .ok character
      | none => .error .codePoint

/-- What follows the line breaks and blanks after a backslash, if it is the last sign of its
line. -/
def continued? (text : Source) : Option Source :=
  let isBlank (glyph : Text.Glyph) : Bool := glyph = .character ' ' || glyph = .character '\t'
  let isSpace (glyph : Text.Glyph) : Bool :=
    isBlank glyph || glyph = .character '\n' || glyph = .character '\r'
  match text.dropWhile isBlank with
  | .character '\n' :: rest => some (rest.dropWhile isSpace)
  | .character '\r' :: .character '\n' :: rest => some (rest.dropWhile isSpace)
  | _ => none

/-- The text of glyphs with escapes, after what is already known of it, the last glyph first. A long
text has quotes behind it that count as part of a code. -/
def unescape (long : Bool) : (fuel : Nat) → Source → Source → Except TextError Source
  | 0, known, _ => .ok known.reverse
  | _, known, [] => .ok known.reverse
  | fuel + 1, known, .character '\\' :: rest =>
    match if long then continued? rest else none with
    | some rest => unescape long fuel known rest
    | none =>
      match rest with
      | [] => .ok known.reverse
      | letter :: rest =>
        match letter.char?.bind codeWidth?, letter.char?.bind escapedLetter? with
        | some width, _ => do
          let behind := if long then List.replicate 3 (.character '"') else []
          let character ← codeCharacter width (rest ++ behind)
          unescape long fuel (.character character :: known) (rest.drop width)
        | none, some character => unescape long fuel (.character character :: known) rest
        | none, none => .error (.escape letter.firstOctet)
  | fuel + 1, known, glyph :: rest =>
    if isAllowed glyph then unescape long fuel (glyph :: known) rest
    else .error (.character glyph.firstOctet)

/-- The text that a basic text stands for. -/
def plainText (long : Bool) (text : Source) (escaped : Bool) : Except TextError Source :=
  if escaped then unescape long text.length [] text
  else if text.all isAllowed then .ok text
  else .error .encoding

/-! ### Texts -/

/-- A text without the line break right at its start. -/
def dropBreak : Source → Source
  | .character '\n' :: rest => rest
  | .character '\r' :: .character '\n' :: rest => rest
  | text => text

/-- The short text that starts with the given quote, after the quote, and what follows it. -/
def shortText (double : Bool) (text : Source) : Except TextError (RawText × Source) := do
  if double then
    let (written, escaped, rest) ← basic false [] text
    return (⟨← plainText false written escaped⟩, rest)
  let (written, rest) ← literal [] text
  return (⟨written⟩, rest)

/-- The text at a quote, which may be a long one, and what follows it. -/
def quotedText (double : Bool) (text : Source) : Except TextError (RawText × Source) := do
  let quote := if double then '"' else '\''
  if (closing? quote text).isNone then return ← shortText double (text.drop 1)
  if double then
    let (written, escaped, rest) ← longBasic false [] (text.drop 3)
    return (⟨← plainText true (dropBreak written) escaped⟩, rest)
  let (written, rest) ← longLiteral [] (text.drop 3)
  return (⟨dropBreak written⟩, rest)

end DisplayFilter.Toml
