/-
**Putting a pattern together.**

While a pattern is read, its pieces lie on a stack, with marks for the groups that are open and for
the bars in them. Neighbouring characters are joined to literals, and what alternatives start with
in common is taken out of them. A pattern whose tree is too high or too large is refused as soon as
such a piece arises.

The size is only measured when it may matter: when the number of pieces ever held at one time, times
the product of all repetition counts, reaches the limit.

* `Builder.push`: adds a piece.
* `Builder.repeatTop`: repeats the last piece.
* `Builder.openGroup`, `Builder.addBar`, `Builder.closeGroup?`: groups and alternatives.
-/

import DisplayFilter.Pattern.Piece

namespace DisplayFilter.Pattern

/-- A limit that a pattern exceeds. -/
inductive Excess where
  | size
  | height
deriving DecidableEq, Repr

/-- What the flags of a pattern change: whether case does not matter, whether a dot also matches a
line break, and whether repetitions are greedy. -/
structure Flags where
  folded : Bool
  dotAll : Bool
  greedy : Bool
deriving DecidableEq, Repr

/-- The flags at the start of a pattern. -/
def Flags.start : Flags := ⟨false, false, true⟩

/-- What lies on the stack: a piece, or the mark of an open group or of a bar. -/
inductive Item where
  | piece (piece : Piece)
  | group (captures : Bool) (flags : Flags)
  | bar

/-- The measures of what lies on the stack. -/
def Item.measures : Item → Measures
  | .piece inner => inner.measures
  | _ => ⟨1, 1, 1⟩

/-- A pattern that is being put together: the stack, the top first, the flags, how many pieces were
made anew and how many are free to be used again, the product of all repetition counts, and whether
sizes are measured. -/
structure Builder where
  stack : List Item
  flags : Flags
  made : Nat
  free : Nat
  repeats : Nat
  measuring : Bool

/-- A step that may exceed a limit. -/
abbrev Building := StateT Builder (Except Excess)

namespace Builder

/-- The greatest height of a pattern. -/
def heightLimit : Nat := 1000

/-- The greatest size of a pattern. -/
def sizeLimit : Nat := 3355443

/-- Nothing read so far. -/
def start : Builder := ⟨[], .start, 0, 0, 1, false⟩

/-! ### Limits -/

/-- Takes a piece that is free, or makes one. -/
def take : Building Unit :=
  modify fun builder =>
    if builder.free = 0 then { builder with made := builder.made + 1 }
    else { builder with free := builder.free - 1 }

/-- Frees pieces. -/
def release (count : Nat) : Building Unit :=
  modify fun builder => { builder with free := builder.free + count }

/-- Counts the repetitions of a piece; more than the limit count as the limit. -/
def countRepeats (piece : Piece) : Building Unit :=
  match piece with
  | .node (.counted bounds _) _ _ =>
    modify fun builder =>
      let count := max 1 bounds.count
      if sizeLimit / builder.repeats < count then { builder with repeats := sizeLimit }
      else { builder with repeats := builder.repeats * count }
  | _ => pure ()

/-- Whether measures are within the limit of sizes. -/
def checkSize (measures : Measures) : Building Unit :=
  if sizeLimit < measures.size then throw .size else pure ()

/-- Checks the limits for a new piece. -/
def check (piece : Piece) : Building Unit := do
  if !(← get).measuring then
    countRepeats piece
    let builder ← get
    if sizeLimit / builder.repeats ≤ builder.made then
      set { builder with measuring := true }
      builder.stack.reverse.forM fun item => checkSize item.measures
  if (← get).measuring then checkSize piece.measures
  if heightLimit < piece.measures.height then throw .height

/-! ### Pieces -/

/-- Joins the two literals on top of the stack, if there are two of the same case. Whether there
were. -/
def joinLiterals : Building Bool := do
  let builder ← get
  match builder.stack with
  | .piece (.leaf (.literal points folded)) :: .piece (.leaf (.literal before folded')) :: rest =>
    if folded = folded' then
      set { builder with stack := .piece (.leaf (.literal (before ++ points) folded)) :: rest }
      return true
    return false
  | _ => return false

/-- Puts an item on the stack. -/
def place (item : Item) : Building Unit :=
  modify fun builder => { builder with stack := item :: builder.stack }

/-- Adds a piece. -/
def push (piece : Piece) : Building Unit := do
  let add (piece : Piece) : Building Unit := do
    place (.piece piece)
    check piece
  let addLiteral (point : Nat) (folded : Bool) : Building Unit := do
    let literal := .leaf (.literal #[point] folded)
    if ← joinLiterals then place (.piece literal) else add literal
  match piece with
  | .leaf (.charClass set) =>
    match set.single?, set.casePair? with
    | some point, _ => addLiteral point false
    | none, some point => addLiteral point true
    | none, none => addAfterJoining add
  | _ => addAfterJoining add
where
  /-- Joins literals before adding a piece. -/
  addAfterJoining (add : Piece → Building Unit) : Building Unit := do
    if ← joinLiterals then release 1
    add piece

/-- Adds a new piece that is made of no others. -/
def pushLeaf (leaf : Leaf) : Building Unit := do
  take
  push (.leaf leaf)

/-- Adds a character. -/
def pushChar (point : Nat) : Building Unit := do
  let folded := (← get).flags.folded
  pushLeaf (.literal #[if folded then leastVariant point else point] folded)

/-- Adds a dot. -/
def pushDot : Building Unit := do
  pushLeaf (if (← get).flags.dotAll then .anyChar else .dot)

/-- Adds the mark of a group or bar. -/
def pushMark (item : Item) : Building Unit := do
  take
  if ← joinLiterals then release 1
  place item
  check (.leaf .empty)

/-- Repeats the piece on top of the stack. Whether there is one, and its weight. -/
def repeatTop (joint : Joint) : Building (Option Nat) := do
  match (← get).stack with
  | .piece piece :: rest =>
    take
    let repeated := Piece.make joint [piece]
    modify fun builder => { builder with stack := .piece repeated :: rest }
    check repeated
    return some repeated.measures.weight
  | _ => return none

/-! ### Alternatives -/

/-- The characters that a piece starts with, and whether their case does not matter. -/
def leadingLiteral (piece : Piece) : Array Nat × Bool :=
  match piece with
  | .leaf (.literal points folded) => (points, folded)
  | .node .concat _ (.leaf (.literal points folded) :: _) => (points, folded)
  | _ => (#[], false)

/-- A piece without some of the characters that it starts with. -/
def dropLiteral (count : Nat) (piece : Piece) : Building Piece :=
  let shortened (points : Array Nat) (folded : Bool) : Piece :=
    if points.size ≤ count then .leaf .empty
    else .leaf (.literal (points.extract count points.size) folded)
  match piece with
  | .leaf (.literal points folded) => return shortened points folded
  | .node .concat _ (.leaf (.literal points folded) :: rest) => do
    let first := shortened points folded
    if !first.isEmpty then return .make .concat (first :: rest)
    release 1
    match rest with
    | [only] =>
      release 1
      return only
    | rest => return .make .concat rest
  | piece => return piece

/-- The first part of a piece, unless it is empty. -/
def leadingPart? (piece : Piece) : Option Piece :=
  match piece with
  | .leaf .empty => none
  | .node .concat _ (first :: _) => if first.isEmpty then none else some first
  | piece => some piece

/-- A piece without its first part, which is freed if asked for. -/
def dropPart (frees : Bool) (piece : Piece) : Building Piece := do
  match piece with
  | .node .concat _ (_ :: rest) =>
    if frees then release 1
    match rest with
    | [only] =>
      release 1
      return only
    | rest => return .make .concat rest
  | _ =>
    if frees then release 1
    take
    return .leaf .empty

/-- The length of what two literals start with in common. -/
def commonLength (first second : Array Nat) : Nat :=
  ((first.toList.zip second.toList).takeWhile fun (point, other) => point = other).length

/-- Alternatives grouped by the characters that they start with in common. -/
def byLiteral : List Piece → List (Array Nat × Bool × List Piece)
  | [] => []
  | piece :: pieces =>
    gather (leadingLiteral piece) [piece] pieces
where
  /-- Goes on with a group that starts with the given characters. -/
  gather (shared : Array Nat × Bool) (group : List Piece) :
      List Piece → List (Array Nat × Bool × List Piece)
    | [] => [(shared.1, shared.2, group.reverse)]
    | piece :: pieces =>
      let (points, folded) := leadingLiteral piece
      let length := commonLength shared.1 points
      if folded = shared.2 && 0 < length then
        gather (shared.1.extract 0 length, folded) (piece :: group) pieces
      else (shared.1, shared.2, group.reverse) :: gather (points, folded) [piece] pieces

/-- Alternatives grouped by the set that they start with in common. -/
def byPart : List Piece → List (Option Piece × List Piece)
  | [] => []
  | piece :: pieces => gather (leadingPart? piece) [piece] pieces
where
  /-- Goes on with a group that starts with the given part. -/
  gather (shared? : Option Piece) (group : List Piece) :
      List Piece → List (Option Piece × List Piece)
    | [] => [(shared?, group.reverse)]
    | piece :: pieces =>
      let part? := leadingPart? piece
      let alike := match shared?, part? with
        | some shared, some part => shared.matchesAlike part && shared.isFixedSet
        | _, _ => false
      if alike then gather shared? (piece :: group) pieces
      else (shared?, group.reverse) :: gather part? [piece] pieces

/-- Neighbouring alternatives of one character each put together to sets. -/
def joinSets (pieces : List Piece) : Building (List Piece) := do
  let groups := pieces.splitBy fun first second => first.isSingle && second.isSingle
  groups.mapM fun group => do
    match group with
    | first :: second :: rest =>
      release (group.length - 1)
      return ((second :: rest).foldl Piece.merged first).finished
    | group => return group.headD (.leaf .empty)

/-- Alternatives without neighbours that are both empty. -/
def joinEmpty : List Piece → List Piece
  | first :: second :: rest =>
    if first.isEmpty && second.isEmpty then joinEmpty (second :: rest)
    else first :: joinEmpty (second :: rest)
  | pieces => pieces

mutual

/-- The alternatives with what they start with in common taken out. -/
def factored : Nat → List Piece → Building (List Piece)
  | 0, pieces => return pieces
  | fuel + 1, pieces => do
    let pieces ← (byLiteral pieces).mapM fun (points, folded, group) => do
      if group.length ≤ 1 then return group.headD (.leaf .empty)
      take
      let rests ← group.mapM fun piece => do
        let rest ← dropLiteral points.size piece
        check rest
        return rest
      let suffix ← alternatives fuel rests
      take
      return .make .concat [.leaf (.literal points folded), suffix]
    let pieces ← (byPart pieces).mapM fun (part?, group) => do
      match part?, group with
      | some part, first :: second :: others =>
        let rests ← (first :: second :: others).zipIdx.mapM fun (piece, index) => do
          let rest ← dropPart (index ≠ 0) piece
          check rest
          return rest
        let suffix ← alternatives fuel rests
        take
        return .make .concat [part, suffix]
      | _, group => return group.headD (.leaf .empty)
    return joinEmpty (← joinSets pieces)

/-- The piece that matches one of several alternatives. -/
def alternatives : Nat → List Piece → Building Piece
  | 0, pieces => return .make .alternate pieces
  | fuel + 1, pieces => do
    match pieces with
    | [only] => return only
    | pieces =>
      take
      release (pieces.countP (Piece.isMade .alternate))
      let pieces ← factored fuel (pieces.flatMap (Piece.partsOf .alternate))
      match pieces with
      | [only] =>
        release 1
        return only
      | pieces => return .make .alternate pieces

end

/-! ### Groups -/

/-- The pieces on top of the stack, in the order in which they were added, taken off it. -/
def takePieces : Building (List Piece) := do
  let builder ← get
  let piece? : Item → Option Piece
    | .piece piece => some piece
    | _ => none
  let items := builder.stack.takeWhile fun item => (piece? item).isSome
  set { builder with stack := builder.stack.drop items.length }
  return items.reverse.filterMap piece?

/-- Makes one piece of those since the last mark. -/
def finishRow : Building Unit := do
  if ← joinLiterals then release 1
  match ← takePieces with
  | [] => pushLeaf .empty
  | [only] => push only
  | pieces =>
    take
    release (pieces.countP (Piece.isMade .concat))
    push (.make .concat (pieces.flatMap (Piece.partsOf .concat)))

/-- Moves the piece on top of the stack below a bar, and puts it together with the one there if both
match one character. Whether there is a bar. -/
def passBar : Building Bool := do
  let builder ← get
  match builder.stack with
  | .piece top :: .bar :: .piece below :: rest =>
    if top.isSingle && below.isSingle then
      release 1
      modify fun builder => { builder with
        stack := .bar :: .piece (below.merged top) :: rest }
    else
      set { builder with stack := .bar :: .piece top :: .piece below.finished :: rest }
    return true
  | .piece top :: .bar :: rest =>
    set { builder with stack := .bar :: .piece top :: rest }
    return true
  | _ => return false

/-- Adds a bar. -/
def addBar : Building Unit := do
  finishRow
  if !(← passBar) then pushMark .bar

/-- Makes one piece of the alternatives since the last open group. -/
def finishAlternatives : Building Unit := do
  finishRow
  if ← passBar then modify fun builder => { builder with stack := builder.stack.drop 1 }
  let pieces ← takePieces
  let finished := match pieces.reverse with
    | [] => []
    | last :: before => (last.finished :: before).reverse
  let size := (finished.map (·.measures.size)).foldl (· + ·) 0
  push (← alternatives (2 * size + 2) finished)

/-- Opens a group. -/
def openGroup (captures : Bool) : Building Unit := do
  pushMark (.group captures (← get).flags)

/-- Closes a group. Whether one was open. -/
def closeGroup : Building Bool := do
  finishAlternatives
  let builder ← get
  match builder.stack with
  | .piece inner :: .group captures flags :: rest =>
    set { builder with stack := rest, flags }
    push (if captures then .make .capture [inner] else inner)
    return true
  | _ => return false

/-- Ends a pattern. Whether all groups were closed. -/
def finish : Building Bool := do
  finishAlternatives
  return (← get).stack.length = 1

end Builder

end DisplayFilter.Pattern
