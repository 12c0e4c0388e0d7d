/-
**The tokens of a text.**

A text is read token by token. Blanks, line breaks and comments between tokens are skipped, changes
of indentation open and close block collections, and each indicator stands for a token of its own.
Where the text goes wrong the tokens simply end, so that a document which is complete before that
place can still be read.

* `Layout.next`: reads one token.
* `tokens`: the tokens of a text, as far as it can be read.
-/

import DisplayFilter.Yaml.Layout
import DisplayFilter.Yaml.Property
import DisplayFilter.Yaml.Scalar.Block
import DisplayFilter.Yaml.Scalar.Plain
import DisplayFilter.Yaml.Scalar.Quoted

namespace DisplayFilter.Yaml

/-! ### Between tokens -/

/-- How far ahead comments are looked for. -/
def lookahead : Nat := 512

/-- The mark that tells how a text is encoded. -/
def byteOrderMark : Char := Char.ofNat 0xFEFF

namespace Scanning

/-- Looks for a number sign behind characters that may be passed over, from so many places ahead on:
how far it is away. -/
def commentAhead (passes : Char → Bool) : (fuel count : Nat) → Scanning (Option Nat)
  | 0, _ => return none
  | fuel + 1, count => do
    need (count + 1)
    let character ← ahead count
    if passes character then commentAhead passes fuel (count + 1)
    else return if character = '#' then some count else none

/-- Moves on over blanks and line breaks to a number sign, which is at the given index. -/
def skipTo (index : Nat) : (fuel : Nat) → Scanning Unit
  | 0 => return ()
  | fuel + 1 => do
    need 1
    if index ≤ (← get).index then return ()
    if isBreak (← peek) then skipBreak else skip
    skipTo index fuel

/-- Moves on to the end of the line of a comment that starts so many places ahead. -/
def skipComment (count : Nat) : Scanning Unit := do
  skipTo ((← get).index + count) (count + 1)
  skipLine

/-- Moves on over a comment and those that follow it with only blanks and line breaks in between.
They are looked for from so many places ahead on. -/
def skipComments : (fuel count : Nat) → Scanning Unit
  | 0, _ => return ()
  | fuel + 1, count => do
    let passes (character : Char) : Bool :=
      isBlank character || character = '\n' || character = '\r'
    match ← commentAhead passes (lookahead - count) count with
    | none => return ()
    | some count =>
      skipComment count
      skipComments fuel 1

end Scanning

namespace Layout

/-- Skips spaces, comments and line breaks. Tabs are skipped where no key may start. In a block
collection a key may start on a new line. A character at the start of a line is passed over while
the text that was decoded begins with a mark of the encoding. -/
def skipToToken : (fuel : Nat) → Layout → Except Error Layout
  | 0, layout => .ok layout
  | fuel + 1, layout => do
    let tabs := layout.inFlow || !layout.keyAllowed
    let (crossed, layout) ← layout.scan do
      Scanning.need 1
      let cursor ← get
      if cursor.column = 0 && cursor.lead = byteOrderMark then Scanning.skip
      Scanning.skipWhile fun character => character = ' ' || (tabs && character = '\t')
      if (← Scanning.peek) = '#' then Scanning.skipComments cursor.limit 0
      if isBreak (← Scanning.peek) then
        Scanning.skipBreak
        return true
      return false
    if crossed then skipToToken fuel (layout.allow (layout.keyAllowed || !layout.inFlow))
    else return layout

/-- Skips a comment after a token on the same line. A comment after the hyphen of an item is left to
what follows. -/
def skipLineComment (layout : Layout) : Except Error Layout := do
  if layout.cursor.fresh || layout.tokens.back? = some .blockEntry then return layout
  let (_, layout) ← layout.scan do
    match ← Scanning.commentAhead isBlank lookahead 0 with
    | none => return ()
    | some count => Scanning.skipComment count
  return layout

/-! ### Tokens -/

/-- The end of the text. -/
def endOfText (layout : Layout) : Except Error Layout := do
  let cursor := layout.cursor
  let cursor :=
    if cursor.column = 0 then cursor else { cursor with column := 0, line := cursor.line + 1 }
  let layout ← { layout.unrollAll with cursor }.dropKey
  return (layout.push .streamEnd).allow false

/-- A token at the start of a line that stands outside of all collections. -/
def topLevel (layout : Layout) (reading : Scanning Token) : Except Error Layout := do
  let layout ← layout.unrollAll.dropKey
  return (← layout.scanToken reading).allow false

/-- The start of a flow collection. -/
def openFlow (layout : Layout) (token : Token) : Except Error Layout := do
  let layout ← (← layout.saveKey).openLevel
  return (← layout.indicator token).allow true

/-- The end of a flow collection. -/
def closeFlow (layout : Layout) (token : Token) : Except Error Layout := do
  let layout := (← layout.dropKey).closeLevel
  return (← layout.indicator token).allow false

/-- The comma between items. -/
def flowEntry (layout : Layout) : Except Error Layout := do
  let layout ← layout.dropKey
  return (← layout.indicator .flowEntry).allow true

/-- Opens a block collection at the current column for an indicator, which needs a place where a key
may start. -/
def rollHere (layout : Layout) (token : Token) : Except Error Layout :=
  if layout.inFlow then .ok layout
  else if !layout.keyAllowed then .error .indentation
  else layout.roll layout.cursor.column none token

/-- The hyphen before an item. -/
def blockEntry (layout : Layout) : Except Error Layout := do
  let layout ← (← layout.rollHere .blockSequence).dropKey
  return (← layout.indicator .blockEntry).allow true

/-- The question mark before a key. -/
def explicitKey (layout : Layout) : Except Error Layout := do
  let layout ← (← layout.rollHere .blockMapping).dropKey
  return (← layout.indicator .key).allow !layout.inFlow

/-- The colon before a value, which makes a key of the possible one. -/
def value (layout : Layout) : Except Error Layout := do
  let (layout, confirmed) ← layout.confirmKey
  let layout ← if confirmed then pure layout else layout.rollHere .blockMapping
  return (← layout.indicator .value).allow (!confirmed && !layout.inFlow)

/-- A token with which a key may start. -/
def keyed (layout : Layout) (reading : Scanning Token) : Except Error Layout := do
  let layout ← layout.saveKey
  return (← layout.scanToken reading).allow false

/-- A plain scalar. After one that ends at a line break a key may start. -/
def plainScalar (layout : Layout) : Except Error Layout := do
  let layout ← layout.saveKey
  let (reading, layout) ← layout.scan (Plain.read layout.inFlow layout.margin)
  return (layout.push (.scalar (String.ofList reading.text) true)).allow reading.gap.crossed

/-- A quoted scalar. -/
def quotedScalar (layout : Layout) (double : Bool) : Except Error Layout :=
  layout.keyed do return .scalar (String.ofList (← Quoted.read double)) false

/-- A block scalar. -/
def blockScalar (layout : Layout) (literal : Bool) : Except Error Layout := do
  let layout ← layout.dropKey
  let (text, layout) ← layout.scan (BlockScalar.read literal layout.margin)
  return (layout.push (.scalar (String.ofList text) false)).allow true

/-- Characters with which no plain scalar starts, or only before certain others. -/
def indicators : List Char :=
  "-?:,[]\x7b\x7d#&*!|>'\"%@`".toList

/-- Whether a plain scalar starts with a character, given the one after it. -/
def startsPlain (flow : Bool) (character next : Char) : Bool :=
  !(endsWord character || indicators.contains character) ||
    (character = '-' && !isBlank next) ||
    (!flow && (character = '?' || character = ':') && !endsWord next)

/-- The token of the mark at the start of a line. -/
def documentMark : Scanning Token := do
  let first ← Scanning.peek
  Scanning.advance 3
  return if first = '-' then .documentStart else .documentEnd

/-- The alias or anchor at a place. -/
def named (make : String → Token) : Scanning Token :=
  make <$> Property.name

/-- Reads the token at the current place, which starts with the given character and the one after
it. -/
def token (layout : Layout) (character next : Char) : Except Error Layout :=
  let flow := layout.inFlow
  if character = '[' then layout.openFlow .flowSequence
  else if character = '\x7b' then layout.openFlow .flowMapping
  else if character = ']' then layout.closeFlow .flowSequenceEnd
  else if character = '\x7d' then layout.closeFlow .flowMappingEnd
  else if character = ',' then layout.flowEntry
  else if character = '-' && endsWord next then layout.blockEntry
  else if character = '?' && (flow || endsWord next) then layout.explicitKey
  else if character = ':' && (flow || endsWord next) then layout.value
  else if character = '*' then layout.keyed (named .alias)
  else if character = '&' then layout.keyed (named .anchor)
  else if character = '!' then layout.keyed Property.tag
  else if character = '|' && !flow then layout.blockScalar true
  else if character = '>' && !flow then layout.blockScalar false
  else if character = '\'' then layout.quotedScalar false
  else if character = '"' then layout.quotedScalar true
  else if startsPlain flow character next then layout.plainScalar
  else .error .token

/-- Reads the next token and what can be skipped around it. -/
def next (layout : Layout) : Except Error Layout := do
  let layout := (← layout.skipToToken layout.cursor.limit).unroll
  let ((atMark, character, next), layout) ← layout.scan do
    Scanning.need 4
    return (← Scanning.atDocumentMark, ← Scanning.peek, ← Scanning.ahead 1)
  if character = endMark then layout.endOfText
  else if layout.cursor.column = 0 && character = '%' then layout.topLevel Property.directive
  else if atMark then layout.topLevel documentMark
  else (← layout.token character next).skipLineComment

/-- Reads tokens to the end of the text or up to where it goes wrong, and hands out the settled
ones. -/
def readAll : (fuel : Nat) → Layout → List Token
  | 0, layout => layout.settled
  | fuel + 1, layout =>
    match layout.next with
    | .error _ => layout.settled
    | .ok layout =>
      if layout.tokens.back? = some .streamEnd then layout.tokens.toList
      else
        let (layout, readable) := layout.release
        if readable then readAll fuel layout else layout.settled

end Layout

/-- The tokens of a text, as far as it can be read. -/
def tokens (text : List UInt8) : List Token :=
  match (Layout.start text).scan (Scanning.need 1) with
  | .ok (_, layout) => layout.readAll (2 * text.length + 8)
  | .error _ => []

end DisplayFilter.Yaml
