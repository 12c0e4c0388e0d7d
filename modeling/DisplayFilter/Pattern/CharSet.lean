/-
**Sets of characters.**

A class of a pattern stands for a set of code points. It is kept as ascending ranges; classes of the
Unicode standard are kept by their names, because only the form of a pattern matters here.

* `CharSet.ofRanges`: the set of ranges, put in order.
* `CharSet.union`, `CharSet.complement`: the operations of a bracketed class.
* `foldedRanges`: ranges together with the other case of their letters.
-/

namespace DisplayFilter.Pattern

/-- The last code point. -/
def lastPoint : Nat := 0x10FFFF

/-- Inclusive ranges of code points. -/
abbrev Ranges := List (Nat × Nat)

namespace Ranges

/-- Ranges in order of their starts joined where they overlap or touch. -/
def joined : Ranges → Ranges
  | [] => []
  | (low, high) :: rest =>
    match joined rest with
    | [] => [(low, high)]
    | (next, last) :: later =>
      if next ≤ high + 1 then (low, max high last) :: later
      else (low, high) :: (next, last) :: later

/-- Ranges in ascending order, joined where they overlap or touch. -/
def normal (ranges : Ranges) : Ranges :=
  joined (ranges.mergeSort fun first second => first.1 ≤ second.1)

/-- The code points from one on that ascending ranges leave out. -/
def gapsFrom (low : Nat) : Ranges → Ranges
  | [] => if low ≤ lastPoint then [(low, lastPoint)] else []
  | (next, last) :: rest =>
    if low < next then (low, next - 1) :: gapsFrom (last + 1) rest else gapsFrom (last + 1) rest

/-- The code points outside of ascending ranges. -/
def outside (ranges : Ranges) : Ranges :=
  gapsFrom 0 ranges

end Ranges

/-! ### Letter case -/

/-- The code points that differ from one only by case, among them those with an ASCII letter. -/
def caseVariants (point : Nat) : List Nat :=
  if point = 0x4B || point = 0x6B || point = 0x212A then [0x4B, 0x6B, 0x212A]
  else if point = 0x53 || point = 0x73 || point = 0x17F then [0x53, 0x73, 0x17F]
  else if 0x41 ≤ point && point ≤ 0x5A then [point, point + 32]
  else if 0x61 ≤ point && point ≤ 0x7A then [point - 32, point]
  else [point]

/-- The least code point that differs from one only by case. -/
def leastVariant (point : Nat) : Nat :=
  (caseVariants point).headD point

/-- The code points that have case variants. -/
def casedPoints : List Nat :=
  List.range' 0x41 26 ++ List.range' 0x61 26 ++ [0x17F, 0x212A]

/-- Ranges together with the other case of their letters. -/
def foldedRanges (ranges : Ranges) : Ranges :=
  let letters := casedPoints.filter fun point =>
    ranges.any fun (low, high) => low ≤ point && point ≤ high
  ranges ++ (letters.flatMap caseVariants).map fun point => (point, point)

/-! ### Sets -/

/-- A set of code points: ranges, classes by their names and whether those are negated, or all that
is in none of them. -/
structure CharSet where
  ranges : Ranges
  named : List (List Char × Bool)
  negated : Bool
deriving DecidableEq, Repr

namespace CharSet

/-- The empty set. -/
def empty : CharSet := ⟨[], [], false⟩

/-- The set of ranges. -/
def ofRanges (ranges : Ranges) : CharSet :=
  ⟨ranges.normal, [], false⟩

/-- The set of a named class. -/
def ofName (name : List Char) (negated : Bool) : CharSet :=
  ⟨[], [(name, negated)], false⟩

/-- The set of what is in either of two sets. -/
def union (first second : CharSet) : CharSet :=
  ⟨(first.ranges ++ second.ranges).normal, first.named ++ second.named, false⟩

/-- The set of what is in any of several sets. -/
def unions (sets : List CharSet) : CharSet :=
  ⟨Ranges.normal (sets.flatMap (·.ranges)), sets.flatMap (·.named), false⟩

/-- The set of what is not in a set. -/
def complement (set : CharSet) : CharSet :=
  if set.named.isEmpty then ⟨set.ranges.outside, [], false⟩ else { set with negated := true }

/-- The only member of a set that has one. -/
def single? (set : CharSet) : Option Nat :=
  match set with
  | ⟨[(low, high)], [], false⟩ => if low = high then some low else none
  | _ => none

/-- The lesser member of a set that holds exactly the two cases of a letter. -/
def casePair? (set : CharSet) : Option Nat :=
  match set with
  | ⟨[(low, high), (low', high')], [], false⟩ =>
    if low = high && low' = high' && caseVariants low = [low, low'] then some low else none
  | _ => none

end CharSet

end DisplayFilter.Pattern
