/-
**The first document of a text.**

The tokens of a text are put together to the tree of its first document; what follows that document
is not looked at. Anchors are known from the start of their node on, so an alias may stand inside
that node, and a later anchor of the same name takes the place of an earlier one.

* `Composing`: the tokens left and the anchors known.
* `node`: the tree of the node that the tokens start with.
* `Document.read`: the first document of a text.
-/

import DisplayFilter.Yaml.TokenStream
import DisplayFilter.Yaml.Tree

namespace DisplayFilter.Yaml

/-- What is left to put together: the tokens, the nodes with an anchor, which are missing until they
are complete, the names of the anchors with the numbers of their nodes, the latest first, the number
of aliases so far, and what the tag handles are short for. -/
structure Composition where
  tokens : List Token
  anchors : Anchors
  names : List (String × Nat)
  aliases : Nat
  handles : List (String × String)

/-- Putting a tree together from tokens. -/
abbrev Composing := StateT Composition (Except Error)

namespace Composing

/-- The next token. -/
def peek : Composing Token := do
  match (← get).tokens with
  | [] => throw .grammar
  | token :: _ => return token

/-- Drops the next token. -/
def drop : Composing Unit :=
  modify fun state => { state with tokens := state.tokens.drop 1 }

/-- Drops the next token and looks at the one after it. -/
def dropAndPeek : Composing Token := do
  drop
  peek

/-! ### Properties of a node -/

/-- The tree of an alias. -/
def aliasNode (name : String) : Composing Tree := do
  let state ← get
  match state.names.lookup name with
  | none => throw .alias
  | some target =>
    set { state with aliases := state.aliases + 1 }
    return .alias name state.aliases target

/-- Puts a node together that may have an anchor. -/
def anchored (anchor? : Option String) (compose : Composing Tree) : Composing Tree :=
  match anchor? with
  | none => compose
  | some name => do
    let target := (← get).anchors.size
    modify fun state => { state with
      anchors := state.anchors.push .missing
      names := (name, target) :: state.names }
    let tree ← compose
    modify fun state => { state with anchors := state.anchors.setIfInBounds target tree }
    return tree

/-- The kind that a handle and a suffix name; a lone exclamation mark names none. -/
def tagOf (handle suffix : String) : Composing (Option Tag) := do
  let address ←
    if handle = "" then pure suffix
    else
      match (← get).handles.lookup handle with
      | some address => pure (address ++ suffix)
      | none => throw .property
  return if address = "!" then none else some (.ofAddress address)

/-- The properties of a node: its anchor, the kind that its tag names, and whether there is any. -/
structure Properties where
  anchor? : Option String
  tag? : Option Tag
  present : Bool

/-- The anchor and the tag before a node, in either order. -/
def properties : Composing Properties := do
  match ← peek with
  | .anchor name =>
    match ← dropAndPeek with
    | .tag handle suffix =>
      drop
      return ⟨some name, ← tagOf handle suffix, true⟩
    | _ => return ⟨some name, none, true⟩
  | .tag handle suffix =>
    match ← dropAndPeek with
    | .anchor name =>
      drop
      return ⟨some name, ← tagOf handle suffix, true⟩
    | _ => return ⟨none, ← tagOf handle suffix, true⟩
  | _ => return ⟨none, none, false⟩

/-- The kind of a scalar without a tag. -/
def defaultTag (text : String) (plain : Bool) : Tag :=
  if !plain then .str else if text = "<<" then .merge else plainTag text

/-! ### Nodes -/

mutual

/-- The tree of the node that the tokens start with. A block collection may only start where it is
said to, and a sequence that is not indented only as a key or value. -/
def node : Nat → Bool → Bool → Composing Tree
  | 0, _, _ => throw .grammar
  | fuel + 1, block, indentless => do
    if let .alias name := ← peek then
      drop
      return ← aliasNode name
    let properties ← properties
    let within := anchored properties.anchor?
    let sequence := Tree.sequence (properties.tag?.getD .seq)
    let mapping := Tree.mapping (properties.tag?.getD .map)
    match ← peek with
    | .scalar text plain =>
      drop
      within (return .scalar (properties.tag?.getD (defaultTag text plain)) text)
    | .flowSequence =>
      drop
      within (sequence <$> flowItems fuel true)
    | .flowMapping =>
      drop
      within (mapping <$> flowEntries fuel true)
    | token =>
      if indentless && token = .blockEntry then within (sequence <$> indentlessItems fuel)
      else if block && token = .blockSequence then
        drop
        within (sequence <$> blockItems fuel)
      else if block && token = .blockMapping then
        drop
        within (mapping <$> blockEntries fuel)
      else if properties.present then
        within (return .scalar (properties.tag?.getD .null) "")
      else throw .grammar

/-- The items of a block sequence. -/
def blockItems : Nat → Composing (List Tree)
  | 0 => throw .grammar
  | fuel + 1 => do
    match ← peek with
    | .blockEnd =>
      drop
      return []
    | .blockEntry =>
      let next ← dropAndPeek
      let absent := next = .blockEntry || next = .blockEnd
      let item ← if absent then pure .missing else node fuel true false
      return item :: (← blockItems fuel)
    | _ => throw .grammar

/-- The items of a sequence that is not indented more than the mapping around it. -/
def indentlessItems : Nat → Composing (List Tree)
  | 0 => throw .grammar
  | fuel + 1 => do
    if (← peek) ≠ .blockEntry then return []
    let next ← dropAndPeek
    let absent := next = .blockEntry || next = .key || next = .value || next = .blockEnd
    let item ← if absent then pure .missing else node fuel true false
    return item :: (← indentlessItems fuel)

/-- The entries of a block mapping. -/
def blockEntries : Nat → Composing (List (Tree × Tree))
  | 0 => throw .grammar
  | fuel + 1 => do
    match ← peek with
    | .blockEnd =>
      drop
      return []
    | .key =>
      let key ← blockPart fuel
      let value ← if (← peek) = .value then blockPart fuel else pure .missing
      return (key, value) :: (← blockEntries fuel)
    | _ => throw .grammar

/-- The key or value behind its indicator in a block mapping. -/
def blockPart : Nat → Composing Tree
  | 0 => throw .grammar
  | fuel + 1 => do
    let next ← dropAndPeek
    if next = .key || next = .value || next = .blockEnd then return .missing
    node fuel true true

/-- The items of a flow sequence, the first of which has no comma before it. An item with a key is a
mapping of one entry. -/
def flowItems : Nat → Bool → Composing (List Tree)
  | 0, _ => throw .grammar
  | fuel + 1, first => do
    let next ← peek
    if next = .flowSequenceEnd then
      drop
      return []
    if !first then
      if next ≠ .flowEntry then throw .grammar
      drop
    match ← peek with
    | .flowSequenceEnd =>
      drop
      return []
    | .key =>
      drop
      let item ← flowPair fuel
      return item :: (← flowItems fuel false)
    | _ =>
      let item ← node fuel false false
      return item :: (← flowItems fuel false)

/-- The single entry of an item of a flow sequence. Where its key is left out, the token in the
key's place is passed over. -/
def flowPair : Nat → Composing Tree
  | 0 => throw .grammar
  | fuel + 1 => do
    let next ← peek
    let absent := next = .value || next = .flowEntry || next = .flowSequenceEnd
    let key ← if absent then (drop *> pure .missing) else node fuel false false
    let value ← if (← peek) = .value then flowPart fuel .flowSequenceEnd else pure .missing
    return .mapping .map [(key, value)]

/-- The entries of a flow mapping, the first of which has no comma before it. An entry without an
indicator is a key alone. -/
def flowEntries : Nat → Bool → Composing (List (Tree × Tree))
  | 0, _ => throw .grammar
  | fuel + 1, first => do
    let next ← peek
    if next = .flowMappingEnd then
      drop
      return []
    if !first then
      if next ≠ .flowEntry then throw .grammar
      drop
    match ← peek with
    | .flowMappingEnd =>
      drop
      return []
    | .key =>
      let next ← dropAndPeek
      let absent := next = .value || next = .flowEntry || next = .flowMappingEnd
      let key ← if absent then pure .missing else node fuel false false
      let value ← if (← peek) = .value then flowPart fuel .flowMappingEnd else pure .missing
      return (key, value) :: (← flowEntries fuel false)
    | _ =>
      let key ← node fuel false false
      return (key, Tree.missing) :: (← flowEntries fuel false)

/-- The value behind its colon in a flow collection that ends with the given token. -/
def flowPart : Nat → Token → Composing Tree
  | 0, _ => throw .grammar
  | fuel + 1, last => do
    let next ← dropAndPeek
    if next = .flowEntry || next = last then return .missing
    node fuel false false

end

/-! ### Documents -/

/-- What the tag handles are short for without directives. -/
def defaultHandles : List (String × String) :=
  [("!", "!"), ("!!", standardAddress)]

/-- The directives of a document: each handle is given once, and the version is named at most once
and is the one that is understood here. -/
def directives : Nat → Bool → List (String × String) → Composing Unit
  | 0, _, _ => throw .directive
  | fuel + 1, versioned, handles => do
    match ← peek with
    | .version major minor =>
      if versioned || major ≠ 1 || minor ≠ 1 then throw .directive
      drop
      directives fuel true handles
    | .handle name address =>
      if (handles.lookup name).isSome then throw .directive
      drop
      directives fuel versioned (handles ++ [(name, address)])
    | _ => modify fun state => { state with handles := handles ++ defaultHandles }

/-- Whether a document that has started ends without a node. -/
def endsDocument : Token → Bool
  | .version .. | .handle .. | .documentStart | .documentEnd | .streamEnd => true
  | _ => false

/-- The first document: none in a text without one. -/
def document (fuel : Nat) : Composing (Option Tree) := do
  match ← peek with
  | .streamEnd => return none
  | .version .. | .handle .. | .documentStart =>
    directives fuel false []
    if (← peek) ≠ .documentStart then throw .grammar
    let next ← dropAndPeek
    let root ← if endsDocument next then pure .missing else node fuel true false
    let _ ← peek
    return some root
  | _ =>
    let root ← node fuel true false
    let _ ← peek
    return some root

end Composing

/-- A document: its tree, if there is one, its nodes with an anchor, and a bound on how deeply the
tree is nested when every alias is followed once. -/
structure Document where
  root? : Option Tree
  anchors : Anchors
  depth : Nat

/-- The first document of a text. -/
def Document.read (text : RawText) : Except Error Document := do
  let tokens := tokens text.octets
  let fuel := 4 * tokens.length + 4
  let (root?, state) ←
    (Composing.document fuel).run ⟨tokens, #[], [], 0, Composing.defaultHandles⟩
  return ⟨root?, state.anchors, fuel * (state.aliases + 1)⟩

end DisplayFilter.Yaml
