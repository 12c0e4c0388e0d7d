/-
**Suggestions for misspelt names.**

A name of several parts between dots is compared part by part. Candidates with as many parts whose
distances add up to little enough are suggested, the nearest first and equally near ones in
alphabetical order, at most three of them.

* `threshold`: how far a candidate may be from a name of a given length.
* `suggest`: the suggestions for a name.
* `hint`: the question that offers them.
-/

import DisplayFilter.EditDistance
import DisplayFilter.RawText

namespace DisplayFilter

/-- A candidate and its distance from the name asked for. -/
structure Suggestion where
  value : RawText
  distance : Nat
deriving DecidableEq, Repr

namespace Suggestion

/-- At most this many suggestions are made. -/
def limit : Nat := 3

/-- How far a candidate may be from a name, by the octets of the name. -/
def threshold (target : RawText) : Nat :=
  if target.octets.length ≤ 3 then 1
  else if target.octets.length ≤ 6 then 2
  else 3

/-- The sum of the distances of the parts; none when the numbers of parts differ. -/
def distance? (target candidate : RawText) : Option Nat :=
  let wanted := Text.split '.' target.chars
  let offered := Text.split '.' candidate.chars
  if offered.length = wanted.length then
    some (((wanted.zip offered).map fun pair => editDistance pair.1 pair.2).foldl (· + ·) 0)
  else none

/-- The suggestion a candidate makes, if it is near enough. -/
def ofCandidate? (target candidate : RawText) : Option Suggestion :=
  if candidate.isEmpty ∨ candidate = target then none
  else
    match distance? target candidate with
    | some distance => if distance ≤ threshold target then some ⟨candidate, distance⟩ else none
    | none => none

/-- Nearer suggestions come first, equally near ones in alphabetical order. -/
def precedes (first second : Suggestion) : Bool :=
  first.distance < second.distance ||
    (first.distance = second.distance && first.value.precedes second.value)

/-- The suggestions for a name among the candidates. -/
def suggest (target : RawText) (candidates : List RawText) : List Suggestion :=
  if target.isEmpty then []
  else ((candidates.filterMap (ofCandidate? target)).mergeSort precedes).take limit

/-- The question that offers the suggestions; no suggestion asks nothing. -/
def hint : List Suggestion → String
  | [] => ""
  | [only] => "did you mean " ++ only.value.shown ++ "?"
  | several => "did you mean one of " ++ ", ".intercalate (several.map (·.value.shown)) ++ "?"

end Suggestion

end DisplayFilter
