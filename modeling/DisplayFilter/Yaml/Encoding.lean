/-
**The encoding of a document.**

A document is given by octets, in one of three encodings that a mark at the start tells apart. It is
decoded block by block, and only as far as it is read, so a malformed character does no harm behind
the end of the first document. A character that is cut off at the end of a block begins the next
one.

* `Encoding.detect`: the encoding that the first octets tell.
* `blocks`: the decoded blocks of a document.
-/

import DisplayFilter.RawText

namespace DisplayFilter.Yaml

/-- A character that a document may hold: no control characters but tabs and line breaks. -/
def isAllowed (character : Char) : Bool :=
  let point := character.toNat
  point = 9 || point = 10 || point = 13 || (0x20 ≤ point && point ≤ 0x7E) || point = 0x85 ||
    (0xA0 ≤ point && point ≤ 0xFFFD) || 0x10000 ≤ point

/-- An encoding: octets of one to four for a character, or pairs of octets with the lesser or the
greater one first. -/
inductive Encoding where
  | octets
  | pairsLittle
  | pairsBig
deriving DecidableEq, Repr

/-- What the octets at a place hold: a character and how many octets it takes, the start of one that
is cut off, or no character. -/
inductive Decoded where
  | character (value : Char) (size : Nat)
  | cutOff
  | malformed
deriving DecidableEq, Repr

namespace Encoding

/-- The encoding that the first octets tell, and the length of the mark that tells it. -/
def detect : List UInt8 → Encoding × Nat
  | 0xFF :: 0xFE :: _ => (.pairsLittle, 2)
  | 0xFE :: 0xFF :: _ => (.pairsBig, 2)
  | 0xEF :: 0xBB :: 0xBF :: _ => (.octets, 3)
  | _ => (.octets, 0)

/-- The character of a code point that takes so many octets. -/
def ofPoint (point size : Nat) : Decoded :=
  match Text.character? point with
  | some value => .character value size
  | none => .malformed

/-- The number that a pair of octets stands for. -/
def unit (little : Bool) (first second : UInt8) : Nat :=
  if little then first.toNat + 256 * second.toNat else 256 * first.toNat + second.toNat

/-- What pairs of octets hold: one pair, or two for the characters beyond the first plane. -/
def decodePairs (little : Bool) : List UInt8 → Decoded
  | first :: second :: rest =>
    let high := unit little first second
    if 0xDC00 ≤ high && high < 0xE000 then .malformed
    else if high < 0xD800 || 0xE000 ≤ high then ofPoint high 2
    else
      match rest with
      | third :: fourth :: _ =>
        let low := unit little third fourth
        if 0xDC00 ≤ low && low < 0xE000 then
          ofPoint (0x10000 + (high - 0xD800) * 1024 + (low - 0xDC00)) 4
        else .malformed
      | _ => .cutOff
  | _ => .cutOff

/-- What octets of one to four for a character hold. -/
def decodeOctets : List UInt8 → Decoded
  | [] => .cutOff
  | first :: rest =>
    let length := Text.promisedLength first
    if length ≠ 0 && rest.length + 1 < length then .cutOff
    else
      match Text.leadingChar? (first :: rest) with
      | some (value, size) => .character value size
      | none => .malformed

/-- What octets hold in an encoding. -/
def decode : Encoding → List UInt8 → Decoded
  | .octets, text => decodeOctets (text.take 4)
  | .pairsLittle, text => decodePairs true text
  | .pairsBig, text => decodePairs false text

/-- The characters of octets, the last one first, after those already decoded, and the octets of a
character that is cut off. Nothing if a character is malformed or not allowed. -/
def decodeAll (encoding : Encoding) :
    (fuel : Nat) → List Char → List UInt8 → Option (List Char × List UInt8)
  | 0, decoded, text => some (decoded, text)
  | _, decoded, [] => some (decoded, [])
  | fuel + 1, decoded, text =>
    match encoding.decode text with
    | .character value size =>
      if isAllowed value then decodeAll encoding fuel (value :: decoded) (text.drop size) else none
    | .cutOff => some (decoded, text)
    | .malformed => none

end Encoding

/-- The number of octets in a block. -/
def blockSize : Nat := 512

/-- The characters of a block; nothing if the block cannot be decoded. -/
abbrev Block := Option (List Char)

/-- The blocks of octets, the first of which has a mark of the given length in front. A character
that is cut off at the end of the octets makes a block that cannot be decoded. -/
def blocksFrom (encoding : Encoding) : (fuel mark : Nat) → List UInt8 → List Block
  | 0, _, _ => []
  | _, _, [] => []
  | fuel + 1, mark, text =>
    let raw := (text.take blockSize).drop mark
    match encoding.decodeAll raw.length [] raw with
    | none => [none]
    | some (decoded, left) =>
      let rest := text.drop blockSize
      if decoded.isEmpty && rest.isEmpty && !left.isEmpty then [none]
      else some decoded.reverse :: blocksFrom encoding fuel 0 (left ++ rest)

/-- The blocks of a document. -/
def blocks (text : List UInt8) : List Block :=
  let (encoding, mark) := Encoding.detect text
  blocksFrom encoding (text.length + 1) mark text

end DisplayFilter.Yaml
