/-
**The layout of a document.**

While a text is taken apart into tokens, the `Layout` remembers which block collections are open and
at which columns, how many flow collections are open, and which token may still turn out to be the
start of a key. Only a colon tells that a token before it was a key, so the mark for a key is put in
front of that token afterwards. Tokens are therefore handed out late: a token is released when two
more tokens follow it and it cannot become a key any more.

* `Layout.roll`, `Layout.unroll`: open and close block collections by column.
* `Layout.saveKey`, `Layout.dropKey`, `Layout.confirmKey`: possible keys.
* `Layout.release`: hands out the tokens that are settled.
-/

import DisplayFilter.Yaml.Cursor
import DisplayFilter.Yaml.Token

namespace DisplayFilter.Yaml

/-- A token that may turn out to start a key: its position among the tokens, whether it has to be a
key, its place in the text, and whether it is held back until this is known. -/
structure PossibleKey where
  position : Nat
  required : Bool
  index : Nat
  line : Nat
  column : Nat
  held : Bool

/-- Whether a possible key can no longer be one: a key stays on one line and is not longer than 1024
characters. -/
def PossibleKey.isStale (key : PossibleKey) (cursor : Cursor) : Bool :=
  key.line < cursor.line || key.index + 1024 < cursor.index

/-- A level of flow nesting: its possible key, and the position of the last token that could be one,
which at first is the one that opens the level. -/
structure Level where
  key? : Option PossibleKey
  position : Nat

/-- The state of taking a text apart. -/
structure Layout where
  cursor : Cursor
  tokens : Array Token
  /-- How many tokens are settled. -/
  released : Nat
  /-- The columns of the open block collections, the innermost first. -/
  columns : List Nat
  level : Level
  /-- The levels around the current one; there are none outside of flow collections. -/
  outer : List Level
  /-- Whether a key may start at this place. -/
  keyAllowed : Bool

namespace Layout

/-- The layout at the start of a text. -/
def start (text : List UInt8) : Layout :=
  ⟨.start text, #[], 0, [], ⟨none, 0⟩, [], true⟩

/-- How deeply collections may be nested. -/
def nestingLimit : Nat := 10000

/-- Whether a flow collection is open. -/
def inFlow (layout : Layout) : Bool :=
  !layout.outer.isEmpty

/-- The first column beyond that of the innermost block collection. -/
def margin (layout : Layout) : Nat :=
  match layout.columns with
  | [] => 0
  | column :: _ => column + 1

/-- Adds a token. -/
def push (layout : Layout) (token : Token) : Layout :=
  { layout with tokens := layout.tokens.push token }

/-- Puts a token in front of the one at a position; if that one has been handed out, at the end. -/
def insert (layout : Layout) (position : Nat) (token : Token) : Layout :=
  if position < layout.released then layout.push token
  else { layout with tokens := layout.tokens.insertIdxIfInBounds position token }

/-- Reads from the text. -/
def scan {α : Type} (layout : Layout) (reading : Scanning α) : Except Error (α × Layout) :=
  (reading.run layout.cursor).map fun (value, cursor) => (value, { layout with cursor })

/-- Reads a token from the text and adds it. -/
def scanToken (layout : Layout) (reading : Scanning Token) : Except Error Layout :=
  (layout.scan reading).map fun (token, layout) => layout.push token

/-- Adds the token of an indicator of one character. -/
def indicator (layout : Layout) (token : Token) : Except Error Layout :=
  layout.scanToken (Scanning.skip *> pure token)

/-! ### Block collections -/

/-- Opens a block collection if the column is deeper than the innermost one, with its token at a
position or at the end. -/
def roll (layout : Layout) (column : Nat) (position? : Option Nat) (token : Token) :
    Except Error Layout :=
  if layout.inFlow || column < layout.margin then .ok layout
  else if nestingLimit ≤ layout.columns.length then .error .nesting
  else
    let layout := { layout with columns := column :: layout.columns }
    .ok (match position? with
      | some position => layout.insert position token
      | none => layout.push token)

/-- Closes the block collections whose columns satisfy a condition, from the innermost on. -/
def close (layout : Layout) (isDeeper : Nat → Bool) : Layout :=
  if layout.inFlow then layout
  else
    let closed := layout.columns.takeWhile isDeeper
    { layout with
      columns := layout.columns.dropWhile isDeeper
      tokens := closed.foldl (fun tokens _ => tokens.push .blockEnd) layout.tokens }

/-- Closes the block collections that are deeper than the current column. -/
def unroll (layout : Layout) : Layout :=
  layout.close (layout.cursor.column < ·)

/-- Closes all block collections. -/
def unrollAll (layout : Layout) : Layout :=
  layout.close fun _ => true

/-! ### Possible keys -/

/-- Gives up the possible key of the current level; one that has to be a key cannot be given up. -/
def dropKey (layout : Layout) : Except Error Layout :=
  match layout.level.key? with
  | none => .ok layout
  | some key =>
    if key.required then .error .key
    else .ok { layout with level := { layout.level with key? := none } }

/-- Notes that the next token may start a key, if one is allowed here. At the column of the
innermost block collection it has to. -/
def saveKey (layout : Layout) : Except Error Layout :=
  if !layout.keyAllowed then .ok layout
  else do
    let layout ← layout.dropKey
    let cursor := layout.cursor
    let position := layout.tokens.size
    let required := !layout.inFlow && layout.columns.head? = some cursor.column
    let key := ⟨position, required, cursor.index, cursor.line, cursor.column, true⟩
    return { layout with level := ⟨some key, position⟩ }

/-- Marks the possible key of the current level as a key, if it still can be one; whether it was. -/
def confirmKey (layout : Layout) : Except Error (Layout × Bool) :=
  match layout.level.key? with
  | none => .ok (layout, false)
  | some key =>
    if key.isStale layout.cursor then
      if key.required then .error .key else .ok (layout, false)
    else do
      let layout := layout.insert key.position .key
      let layout ← layout.roll key.column (some key.position) .blockMapping
      return ({ layout with level := { layout.level with key? := none } }, true)

/-- Allows or forbids keys. -/
def allow (layout : Layout) (keyAllowed : Bool) : Layout :=
  { layout with keyAllowed }

/-! ### Flow collections -/

/-- Opens a level of flow nesting. -/
def openLevel (layout : Layout) : Except Error Layout :=
  if nestingLimit ≤ layout.outer.length then .error .nesting
  else .ok { layout with
    level := ⟨none, layout.tokens.size⟩
    outer := layout.level :: layout.outer }

/-- No longer holds a token back for being a possible key. -/
def Level.letGo (level : Level) (position : Nat) : Level :=
  { level with key? := level.key?.map fun key =>
      if key.position = position then { key with held := false } else key }

/-- Closes the innermost level of flow nesting. A collection without a possible key inside lets go
of its opening token. -/
def closeLevel (layout : Layout) : Layout :=
  match layout.outer with
  | [] => layout
  | level :: outer => { layout with level := Level.letGo level layout.level.position, outer }

/-! ### Handing out tokens -/

/-- The possible key that holds back the token at a position. -/
def keyAt? (layout : Layout) (position : Nat) : Option PossibleKey :=
  (layout.level :: layout.outer).findSome? fun level =>
    level.key?.filter fun key => key.held && key.position = position

/-- Releases at most as many tokens as there is fuel. -/
def releaseUpTo : Nat → Layout → Layout × Bool
  | 0, layout => (layout, true)
  | fuel + 1, layout =>
    if layout.tokens.size < layout.released + 3 then (layout, true)
    else
      let next := { layout with released := layout.released + 1 }
      match layout.keyAt? layout.released with
      | none => releaseUpTo fuel next
      | some key =>
        if !key.isStale layout.cursor then (layout, true)
        else if key.required then (layout, false)
        else releaseUpTo fuel next

/-- Releases the tokens that are settled; whether the text can be read on. -/
def release (layout : Layout) : Layout × Bool :=
  releaseUpTo layout.tokens.size layout

/-- The tokens that are settled. -/
def settled (layout : Layout) : List Token :=
  layout.tokens.toList.take layout.released

end Layout

end DisplayFilter.Yaml
