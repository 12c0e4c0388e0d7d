/-
**Bracketed classes in patterns.**

A class between brackets lists characters, ranges of characters, classes that a backslash begins and
classes that are named between colons.

* `bracketClass`: the set of a bracketed class.
-/

import DisplayFilter.Pattern.Escape

namespace DisplayFilter.Pattern

/-- The text before the first colon followed by a closing bracket, and what follows them. -/
def bracketName? : Source → Option (Source × Source)
  | [] => none
  | .character ':' :: .character ']' :: rest => some ([], rest)
  | first :: rest => (bracketName? rest).map fun (name, rest) => (first :: name, rest)

/-- A class named between colons and what follows it, unless there is no such name here. -/
def namedClass? (folded : Bool) (text : Source) :
    Except GrammarError (Option (CharSet × Source)) :=
  match text with
  | .character '[' :: .character ':' :: inner =>
    match bracketName? inner with
    | none => .ok none
    | some (name, rest) =>
      let (name, negated) := withoutCaret (name.map Text.Glyph.shown)
      match bracketClasses.lookup (String.ofList name) with
      | some ranges => .ok (some (classOf folded negated ranges, rest))
      | none => failAt .classRange text rest
  | _ => .ok none

/-- One character of a bracketed class, written as itself or escaped. The class begins at
`whole`. -/
def classChar (whole text : Source) : Except GrammarError (Nat × Source) := do
  match text with
  | .character '\\' :: _ => escape text
  | text =>
    match ← nextChar text with
    | (none, _) => throw ⟨.missingBracket, whole⟩
    | (some character, rest) => return (character.toNat, rest)

/-- One item of a bracketed class: a class, a character or a range. -/
def classItem (folded : Bool) (whole text : Source) : Except GrammarError (CharSet × Source) := do
  match ← namedClass? folded text with
  | some result => return result
  | none =>
    match ← escapedClass? folded text with
    | some result => return result
    | none =>
      let (low, rest) ← classChar whole text
      match rest with
      | .character '-' :: next :: more =>
        if next = .character ']' then return (classOf folded false [(low, low)], rest)
        else
          let (high, rest) ← classChar whole (next :: more)
          if high < low then failAt .classRange text rest
          else return (classOf folded false [(low, high)], rest)
      | _ => return (classOf folded false [(low, low)], rest)

/-- The items of a bracketed class up to its closing bracket, the last one first, after those
already read. The first item may be a bracket. -/
def classItems (folded : Bool) (whole : Source) : (fuel : Nat) → List CharSet → Source →
    Except GrammarError (List CharSet × Source)
  | 0, items, text => .ok (items, text)
  | fuel + 1, items, text =>
    match text, items with
    | .character ']' :: rest, _ :: _ => .ok (items, rest)
    | _, _ => do
      let (item, rest) ← classItem folded whole text
      classItems folded whole fuel (item :: items) rest

/-- The set of a bracketed class and what follows it; the text starts with its bracket. -/
def bracketClass (folded : Bool) (text : Source) : Except GrammarError (CharSet × Source) := do
  let (negated, inner) := match text.drop 1 with
    | .character '^' :: inner => (true, inner)
    | inner => (false, inner)
  let (items, rest) ← classItems folded text (text.length + 1) [] inner
  let set := CharSet.unions items
  return (if negated then set.complement else set, rest)

end DisplayFilter.Pattern
