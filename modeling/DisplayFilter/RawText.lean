/-
**Text with stray octets.**

Text that came from binary data need not be well formed: an octet that begins no character (a stray
continuation, an overlong or cut-off sequence, a surrogate) is kept by itself, so nothing is lost.
A `RawText` is a list of such characters and octets. It is compared, sorted and measured by its
octets; where only characters can be shown, each stray octet is shown as the replacement character.

* `RawText.ofString`, `RawText.ofOctets`: the raw text of a text and of octets.
* `RawText.octets`: the octets of a raw text.
* `RawText.shown`, `RawText.quoted`: the forms in which it is shown.
-/

import DisplayFilter.Text.Blank
import DisplayFilter.Text.Quoted

namespace DisplayFilter

namespace Text

/-- A character, or an octet that belongs to none. -/
inductive Glyph where
  | character (value : Char)
  | stray (octet : UInt8)
deriving DecidableEq, Repr

namespace Glyph

/-- The character that stands for everything that is none. -/
def replacement : Char := Char.ofNat 0xFFFD

/-- The character of a glyph; a stray octet has the replacement character. -/
def shown : Glyph → Char
  | .character value => value
  | .stray _ => replacement

/-- The character of a glyph that has one. -/
def char? : Glyph → Option Char
  | .character value => some value
  | .stray _ => none

/-- Whether a glyph is white space. -/
def isBlank : Glyph → Bool
  | .character value => Text.isBlank value
  | .stray _ => false

/-- The octets of a glyph. -/
def octets : Glyph → List UInt8
  | .character value => String.utf8EncodeChar value
  | .stray octet => [octet]

/-- The first octet of a glyph. -/
def firstOctet : Glyph → UInt8
  | .character value => (String.utf8EncodeChar value).headD 0
  | .stray octet => octet

/-- The quoted form of a glyph; a stray octet is written with two digits. -/
def quoted : Glyph → List Char
  | .character value => quoteChar value
  | .stray octet => '\\' :: 'x' :: hexDigits 2 octet.toNat

end Glyph

/-! ### Octets as characters -/

/-- Whether an octet continues a character. -/
def isContinuation (octet : UInt8) : Bool :=
  0x80 ≤ octet && octet < 0xC0

/-- The number of octets that the first one promises; none if it starts no character. -/
def promisedLength (first : UInt8) : Nat :=
  if first < 0x80 then 1
  else if first < 0xC0 then 0
  else if first < 0xE0 then 2
  else if first < 0xF0 then 3
  else if first < 0xF8 then 4
  else 0

/-- The least code point that needs so many octets. -/
def leastPoint (length : Nat) : Nat :=
  if length = 2 then 0x80 else if length = 3 then 0x800 else if length = 4 then 0x10000 else 0

/-- The character of a code point, which is neither a surrogate nor beyond the last plane. -/
def character? (point : Nat) : Option Char :=
  if (0xD800 ≤ point && point < 0xE000) || 0x10FFFF < point then none else some (Char.ofNat point)

/-- The character at the head of the octets and how many octets it takes, if it is well formed. -/
def leadingChar? : List UInt8 → Option (Char × Nat)
  | [] => none
  | first :: rest =>
    let length := promisedLength first
    let following := rest.take (length - 1)
    let lead := if length ≤ 1 then first.toNat else first.toNat % Nat.pow 2 (7 - length)
    let point := following.foldl (fun value octet => value * 64 + octet.toNat % 64) lead
    if length = 0 || following.length + 1 ≠ length || !following.all isContinuation then none
    else if point < leastPoint length then none
    else (character? point).map fun character => (character, length)

/-- The characters and stray octets, reading at most as many as there is fuel. -/
def glyphsFrom : Nat → List UInt8 → List Glyph
  | 0, _ => []
  | _, [] => []
  | fuel + 1, first :: rest =>
    match leadingChar? (first :: rest) with
    | some (character, size) => .character character :: glyphsFrom fuel (rest.drop (size - 1))
    | none => .stray first :: glyphsFrom fuel rest

end Text

/-! ### Raw text -/

/-- A text in which octets that belong to no character may stand. -/
structure RawText where
  glyphs : List Text.Glyph
deriving DecidableEq, Repr

namespace RawText

/-- The text without glyphs. -/
def empty : RawText := ⟨[]⟩

/-- The raw text of characters. -/
def ofChars (text : List Char) : RawText :=
  ⟨text.map .character⟩

/-- The raw text of a text. -/
def ofString (text : String) : RawText :=
  ofChars text.toList

instance : Coe String RawText := ⟨ofString⟩

instance : Append RawText := ⟨fun first second => ⟨first.glyphs ++ second.glyphs⟩⟩

/-- The raw text that octets encode. -/
def ofOctets (octets : List UInt8) : RawText :=
  ⟨Text.glyphsFrom octets.length octets⟩

/-- Whether a text has no glyphs. -/
def isEmpty (text : RawText) : Bool :=
  text.glyphs.isEmpty

/-- The octets of a text. -/
def octets (text : RawText) : List UInt8 :=
  text.glyphs.flatMap Text.Glyph.octets

/-- The characters of a text, with the replacement character for each stray octet. -/
def chars (text : RawText) : List Char :=
  text.glyphs.map Text.Glyph.shown

/-- The text as it is shown, with the replacement character for each stray octet. -/
def shown (text : RawText) : String :=
  String.ofList text.chars

/-- The text, when no octet is stray. -/
def string? (text : RawText) : Option String :=
  (text.glyphs.mapM Text.Glyph.char?).map String.ofList

/-- The quoted form of a text. -/
def quoted (text : RawText) : String :=
  String.ofList ('"' :: (text.glyphs.flatMap Text.Glyph.quoted ++ ['"']))

/-- Whether a text comes before another or is the same, octet by octet. -/
def precedes (first second : RawText) : Bool :=
  first.octets ≤ second.octets

/-- Texts with another one between each two. -/
def join (separator : RawText) : List RawText → RawText
  | [] => empty
  | [text] => text
  | text :: texts => text ++ separator ++ join separator texts

end RawText

end DisplayFilter
