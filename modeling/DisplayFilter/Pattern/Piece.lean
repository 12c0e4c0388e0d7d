/-
**The pieces of a pattern.**

A pattern is a tree of pieces. The machine that matches patterns refuses trees that are too high,
that would grow too large when repetitions are written out, and whose repetition counts multiply to
more than a thousand, so each piece carries these measures.

* `Piece`: the pieces with their measures.
* `Piece.concat`, `Piece.alternate`, `Piece.repeated`, …: pieces made of others.
-/

import DisplayFilter.Pattern.CharSet

namespace DisplayFilter.Pattern

/-- The bounds of a counted repetition; without an upper bound it is unlimited. -/
structure Bounds where
  low : Nat
  high? : Option Nat
deriving DecidableEq, Repr

/-- How a piece is made of others. -/
inductive Joint where
  | capture
  | star (greedy : Bool)
  | plus (greedy : Bool)
  | optional (greedy : Bool)
  | counted (bounds : Bounds) (greedy : Bool)
  | concat
  | alternate
deriving DecidableEq, Repr

/-- A piece that is made of no others. -/
inductive Leaf where
  | nothing
  | empty
  /-- Characters in a row, and whether their case does not matter. -/
  | literal (points : Array Nat) (folded : Bool)
  | charClass (set : CharSet)
  /-- Any character but a line break. -/
  | dot
  | anyChar
  | assertion
deriving DecidableEq, Repr

/-- The height of a piece, its size with repetitions written out, and the product of its nested
repetition counts. -/
structure Measures where
  height : Nat
  size : Nat
  weight : Nat
deriving DecidableEq, Repr

/-- A piece of a pattern. -/
inductive Piece where
  | leaf (leaf : Leaf)
  | node (joint : Joint) (measures : Measures) (parts : List Piece)

/-- Whether two pieces that are made of no others are written alike; case is not compared. -/
def Leaf.matchesAlike : Leaf → Leaf → Bool
  | .literal points _, .literal others _ => points = others
  | own, other => own = other

namespace Bounds

/-- Whether the bounds are small enough and in order. -/
def valid (bounds : Bounds) : Bool :=
  bounds.low ≤ 1000 && bounds.high?.all fun high => high ≤ 1000 && bounds.low ≤ high

/-- The greatest count, or the least one when the repetition is unlimited. -/
def count (bounds : Bounds) : Nat :=
  bounds.high?.getD bounds.low

/-- The size of a repeated piece when the repetition is written out. -/
def expandedSize (bounds : Bounds) (size : Nat) : Nat :=
  match bounds.high? with
  | some high => high * size + (high - bounds.low)
  | none => if bounds.low = 0 then 2 + size else 1 + bounds.low * size

/-- The product of nested counts; a piece that is repeated no time at all counts for nothing. -/
def expandedWeight (bounds : Bounds) (weight : Nat) : Nat :=
  if bounds.high? = some 0 then 1 else max 1 bounds.count * weight

end Bounds

namespace Piece

/-- The measures of a piece. -/
def measures : Piece → Measures
  | .leaf (.literal points _) => ⟨1, max 1 points.size, 1⟩
  | .leaf _ => ⟨1, 1, 1⟩
  | .node _ measures _ => measures

/-- The size of a piece made of others of some size, without repetition counts. -/
def jointSize (joint : Joint) (sizes : List Nat) : Nat :=
  let total := sizes.foldl (· + ·) 0
  match joint with
  | .capture | .star _ => 2 + total
  | .plus _ | .optional _ => 1 + total
  | .counted bounds _ => bounds.expandedSize total
  | .concat => total
  | .alternate => total + (sizes.length - 1)

/-- The piece made of others. -/
def make (joint : Joint) (parts : List Piece) : Piece :=
  let inner := parts.map measures
  let weight := (inner.map (·.weight)).foldl max 1
  .node joint
    { height := (inner.map (·.height)).foldl max 0 + 1
      size := max 1 (jointSize joint (inner.map (·.size)))
      weight := match joint with
        | .counted bounds _ => bounds.expandedWeight weight
        | _ => weight }
    parts

/-- The parts of a piece that is made in a given way, or the piece itself. -/
def partsOf (joint : Joint) (piece : Piece) : List Piece :=
  match piece with
  | .node own _ parts => if own = joint then parts else [piece]
  | .leaf _ => [piece]

/-- Whether a piece is made in a given way. -/
def isMade (joint : Joint) : Piece → Bool
  | .node own _ _ => own = joint
  | .leaf _ => false

/-- Whether a piece matches the empty text only. -/
def isEmpty : Piece → Bool
  | .leaf .empty => true
  | _ => false

/-- Whether a piece matches exactly one character of some set. -/
def isSingle : Piece → Bool
  | .leaf (.literal points _) => points.size = 1
  | .leaf (.charClass _) | .leaf .dot | .leaf .anyChar => true
  | _ => false

/-- Whether a piece is a set, or a set that is repeated a fixed number of times. -/
def isFixedSet : Piece → Bool
  | .node (.counted bounds _) _ [part] => bounds.high? = some bounds.low && part.isSingle
  | piece => piece.isSingle

/-- Whether two pieces match one character of the same set, as often. -/
def matchesAlike : Piece → Piece → Bool
  | .leaf own, .leaf other => own.matchesAlike other
  | .node joint _ [.leaf own], .node joint' _ [.leaf other] =>
    joint = joint' && own.matchesAlike other
  | _, _ => false

/-! ### Sets put together -/

/-- How general a piece is that matches one character: a literal, a set, a dot, or anything. -/
def generality : Piece → Nat
  | .leaf (.literal ..) => 0
  | .leaf (.charClass _) => 1
  | .leaf .dot => 2
  | _ => 3

/-- The set that a piece of one character stands for. -/
def toSet : Piece → CharSet
  | .leaf (.literal points folded) =>
    let ranges := points.toList.map fun point => (point, point)
    .ofRanges (if folded then foldedRanges ranges else ranges)
  | .leaf (.charClass set) => set
  | .leaf .dot => .ofRanges [(0, 9), (11, lastPoint)]
  | _ => .ofRanges [(0, lastPoint)]

/-- The piece of a set that cannot grow any more. -/
def ofFinishedSet (set : CharSet) : Piece :=
  if set = .ofRanges [(0, lastPoint)] then .leaf .anyChar
  else if set = .ofRanges [(0, 9), (11, lastPoint)] then .leaf .dot
  else .leaf (.charClass set)

/-- A piece that cannot grow any more. -/
def finished : Piece → Piece
  | .leaf (.charClass set) => ofFinishedSet set
  | piece => piece

/-- The piece that matches one character of either of two sets. -/
def merged (first second : Piece) : Piece :=
  let (general, simple) :=
    if first.generality < second.generality then (second, first) else (first, second)
  match general, simple with
  | .leaf .anyChar, _ => general
  | .leaf .dot, _ =>
    if simple.toSet.ranges.any fun (low, high) => low ≤ 10 && 10 ≤ high then .leaf .anyChar
    else general
  | .leaf (.literal points folded), .leaf (.literal others folded') =>
    if points = others && folded = folded' then general
    else .leaf (.charClass (general.toSet.union simple.toSet))
  | _, _ => .leaf (.charClass (general.toSet.union simple.toSet))

end Piece

end DisplayFilter.Pattern
