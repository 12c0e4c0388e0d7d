/-
**Reading values from a document.**

The parts of a document are read into what is wanted at their place: a text, a truth value, a list,
a record of named parts, or a constant of whatever kind it happens to be. Nothing at all leaves the
place unset. A merge key brings in the entries of other mappings whose keys the mapping itself, and
the mappings merged before, do not have.

Following aliases can make a document grow without bound, so the nodes that are visited are counted,
and reading stops when too many of them were reached through aliases. An alias that is reached again
while it is being followed has no end, and reading stops there too.

* `Tree.text?`, `Tree.flag?`, `Tree.items?`, `Tree.record?`: the wanted forms.
* `Tree.constant`, `Tree.table?`: the constants that a node and a mapping stand for.
* `Reading.result`: the outcome of reading.
-/

import DisplayFilter.Yaml.Document

namespace DisplayFilter.Yaml

/-! ### Effort -/

/-- How many nodes were visited, how many of them through aliases, and which aliases are being
followed. -/
structure Effort where
  visits : Nat
  aliased : Nat
  following : List Nat

/-- Whether too many of the visited nodes were reached through aliases. Up to 99 of 100 may be while
at most 400 000 nodes are visited; from 4 000 000 on it is 10 of 100, and in between the share falls
evenly. -/
def Effort.isExcessive (effort : Effort) : Bool :=
  let range := 3600000
  let beyond := min (effort.visits - 400000) range
  100 < effort.aliased && 1000 < effort.visits &&
    effort.visits * (99 * range - 89 * beyond) < 100 * range * effort.aliased

/-- Reading from a document with the given nodes that have an anchor. -/
abbrev Reading := ReaderT Anchors (StateT Effort (Except Error))

namespace Reading

/-- Counts the visit of a node. -/
def visit : Reading Unit := do
  let effort ← get
  let aliased := if effort.following.isEmpty then effort.aliased else effort.aliased + 1
  let effort := { effort with visits := effort.visits + 1, aliased }
  if effort.isExcessive then throw .growth
  set effort

/-- Reads while an alias is followed. -/
def follow {α : Type} (occurrence : Nat) (reading : Reading α) : Reading α := do
  if (← get).following.contains occurrence then throw .alias
  modify fun effort => { effort with following := occurrence :: effort.following }
  let result ← reading
  modify fun effort => { effort with following := effort.following.drop 1 }
  return result

/-- The outcome of reading. -/
def result {α : Type} (anchors : Anchors) (reading : Reading α) : Except Error α :=
  ((reading.run anchors).run ⟨0, 0, []⟩).map Prod.fst

end Reading

namespace Tree

/-- Visits a node and reads it, seen through an alias. -/
def visit {α : Type} (tree : Tree) (read : Tree → Reading α) : Reading α := do
  Reading.visit
  match tree with
  | .alias _ occurrence _ =>
    Reading.follow occurrence do
      Reading.visit
      read (tree.resolved (← readThe Anchors))
  | tree => read tree

/-! ### Scalars -/

/-- The constant of a scalar. -/
def ownConstant : Tree → Reading Constant
  | .scalar tag text => liftM (tagged tag text)
  | _ => throw .kind

/-- Nothing at all, where a scalar can mean nothing else. -/
def nothing {α : Type} (tree : Tree) : Reading (Option α) := do
  match ← tree.ownConstant with
  | .null => return none
  | _ => throw .kind

/-- A text: any scalar as it is written, and binary data as the text it holds. -/
def text? (tree : Tree) : Reading (Option RawText) :=
  tree.visit fun tree => do
    let constant ← tree.ownConstant
    match constant, tree with
    | .null, _ => return none
    | _, .scalar .binary _ => return some constant.text
    | _, .scalar _ text => return some text
    | _, _ => throw .kind

/-- The truth value that a word stands for where a truth value is wanted. -/
def flagWord? (word : RawText) : Option Bool :=
  let oneOf (words : List String) : Bool := words.any fun known => word = known
  if oneOf ["y", "Y", "yes", "Yes", "YES", "on", "On", "ON"] then some true
  else if oneOf ["n", "N", "no", "No", "NO", "off", "Off", "OFF"] then some false
  else none

/-- A truth value. -/
def flag? (tree : Tree) : Reading (Option Bool) :=
  tree.visit fun tree => do
    match ← tree.ownConstant with
    | .null => return none
    | .bool value => return some value
    | .string word =>
      match flagWord? word with
      | some value => return some value
      | none => throw .kind
    | _ => throw .kind

/-- The items of a sequence, each read in the given way. -/
def items? {α : Type} (read : Tree → Reading α) (tree : Tree) : Reading (Option (List α)) :=
  tree.visit fun tree => do
    match tree with
    | .sequence _ items => return some (← items.mapM read)
    | tree => tree.nothing

/-! ### Mappings -/

/-- Whether a constant can be a key. -/
def isKey : Constant → Bool
  | .list _ | .record _ | .mapping _ | .bytes _ => false
  | _ => true

/-- Whether two keys are the same constant. What is no number is not even the same as itself, and
zero is the same with either sign. -/
def sameKey : Constant → Constant → Bool
  | .null, .null => true
  | .bool value, .bool other => value = other
  | .string value, .string other => value = other
  | .integer kind value, .integer other value' => kind = other && value = value'
  | .real _ .nan, _ => false
  | .real _ (.finite _ 0 _), .real _ (.finite _ 0 _) => true
  | .real _ value, .real _ other => value = other
  | .time value, .time other => value.isSame other
  | _, _ => false

/-- How the entries of a mapping are read into a state of type `σ`. -/
structure EntryReader (σ : Type) where
  /-- The key of an entry; an entry with a key of nothing is passed over. -/
  key : Tree → Reading (Option Constant)
  /-- How the value of a key is added; an entry with an unknown key is passed over. -/
  add? : Constant → Option (σ → Tree → Reading σ)
  /-- Whether a mapping may have each known key only once. -/
  once : Bool
  /-- A key as the constant that it stands for. -/
  anyKey : Tree → Reading Constant

/-- Where the reading of a mapping stands: the state, the keys that were added, and, in a merge, the
keys that were seen before. -/
structure Entries (σ : Type) where
  state : σ
  added : List Constant
  seen? : Option (List Constant)

/-- Reads one entry of a mapping. In a merge a key that was seen before is passed over. -/
def ownEntry {σ : Type} (reader : EntryReader σ) (entries : Entries σ) (entry : Tree × Tree) :
    Reading (Entries σ) := do
  if entry.1.isMerge then return entries
  match ← reader.key entry.1 with
  | none => return entries
  | some key =>
    if entries.seen?.any fun seen => seen.any (sameKey key) then return entries
    let entries := { entries with seen? := entries.seen?.map (key :: ·) }
    match reader.add? key with
    | none => return entries
    | some add =>
      if !reader.once then return { entries with state := ← add entries.state entry.2 }
      if entries.added.any (sameKey key) then throw .duplicate
      return { entries with
        state := ← add entries.state entry.2
        added := key :: entries.added }

mutual

/-- Reads the entries of a mapping and of the mappings that it merges; in a merge, after the keys
that were seen before. -/
def entries {σ : Type} (reader : EntryReader σ) :
    Nat → σ → Option (List Constant) → List (Tree × Tree) → Reading (σ × List Constant)
  | 0, _, _, _ => throw .growth
  | fuel + 1, state, seen?, written => do
    if !hasDistinctKeys written then throw .duplicate
    let own ← written.foldlM (ownEntry reader) ⟨state, [], seen?⟩
    match written.find? fun entry => entry.1.isMerge with
    | none => return (own.state, own.seen?.getD [])
    | some (_, source) =>
      let seen ← match own.seen? with
        | some seen => pure seen
        | none => written.mapM fun entry => reader.anyKey entry.1
      match source with
      | .sequence _ sources => mergedEntries reader fuel own.state seen sources
      | source => mergedEntries reader fuel own.state seen [source]

/-- Reads the entries that several mappings bring in, one after the other. -/
def mergedEntries {σ : Type} (reader : EntryReader σ) :
    Nat → σ → List Constant → List Tree → Reading (σ × List Constant)
  | 0, _, _, _ => throw .growth
  | _, state, seen, [] => return (state, seen)
  | fuel + 1, state, seen, source :: sources => do
    let anchors ← readThe Anchors
    match (source.resolved anchors).entries? with
    | none => throw .merge
    | some written =>
      let (state, seen) ← source.visit fun _ => entries reader fuel state (some seen) written
      mergedEntries reader fuel state seen sources

end

/-! ### Constants -/

/-- The pairs with one more, which takes the place of a pair with the same key. -/
def put (pairs : List (Constant × Constant)) (key value : Constant) : List (Constant × Constant) :=
  if pairs.any (fun pair => sameKey key pair.1) then
    pairs.map fun pair => if sameKey key pair.1 then (key, value) else pair
  else pairs ++ [(key, value)]

/-- Whether all keys of a mapping are texts. -/
def hasTextKeys (anchors : Anchors) (written : List (Tree × Tree)) : Bool :=
  written.all fun entry =>
    let tag? := (entry.1.resolved anchors).ownTag?
    tag? = some .str || tag? = some .merge

mutual

/-- The constants of a mapping under their keys; keys are read as texts if asked for. -/
def pairs (textual : Bool) : Nat → List (Tree × Tree) → Reading (List (Constant × Constant))
  | 0, _ => throw .growth
  | fuel + 1, written => do
    let key (tree : Tree) : Reading (Option Constant) := do
      if textual then return (← tree.text?).map Constant.string
      let key ← constant fuel tree
      if isKey key then return some key
      throw .kind
    let add (key : Constant) (pairs : List (Constant × Constant)) (tree : Tree) :
        Reading (List (Constant × Constant)) := do
      return put pairs key (← constant fuel tree)
    let reader : EntryReader (List (Constant × Constant)) :=
      ⟨key, fun key => some (add key), false, constant fuel⟩
    return (← entries reader fuel [] none written).1

/-- The constant that a node stands for: a mapping whose keys are all texts stands for a record. -/
def constant : Nat → Tree → Reading Constant
  | 0, _ => throw .growth
  | fuel + 1, tree =>
    tree.visit fun tree => do
      match tree with
      | .sequence _ items => return .list (← items.mapM (constant fuel))
      | .mapping _ written =>
        if hasTextKeys (← readThe Anchors) written then
          return .record ((← pairs true fuel written).map fun (key, value) => (key.text, value))
        return .mapping (← pairs false fuel written)
      | tree => tree.ownConstant

end

/-! ### Records -/

/-- A record: the parts of a mapping whose keys are known names, each of which may be given once.
Other parts are passed over. -/
def record? {σ : Type} (fuel : Nat) (initial : σ)
    (add? : String → Option (σ → Tree → Reading σ)) (tree : Tree) : Reading (Option σ) :=
  tree.visit fun tree => do
    match tree with
    | .mapping _ written =>
      let key (tree : Tree) : Reading (Option Constant) := do
        return (← tree.text?).map Constant.string
      let known : Constant → Option (σ → Tree → Reading σ)
        | .string name => name.string?.bind add?
        | _ => none
      let (state, _) ← entries ⟨key, known, true, constant fuel⟩ fuel initial none written
      return some state
    | tree => tree.nothing

/-- A table: the constants of a mapping under texts. -/
def table? (fuel : Nat) (tree : Tree) : Reading (Option (List (RawText × Constant))) :=
  tree.visit fun tree => do
    match tree with
    | .mapping _ written =>
      return some ((← pairs true fuel written).map fun (key, value) => (key.text, value))
    | tree => tree.nothing

end Tree

/-- Reads the tree of a document; a document counts as a node itself. A text without a document has
no tree. -/
def Document.readWith {α : Type} (document : Document) (read : Tree → Reading (Option α)) :
    Except Error (Option α) :=
  match document.root? with
  | none => .ok none
  | some tree => Reading.result document.anchors do
    Reading.visit
    read tree

end DisplayFilter.Yaml
