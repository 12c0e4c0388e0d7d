/-
**Coloured JSON.**

On a terminal a JSON document is shown with two blanks of indentation a level, the members of each
object in alphabetical order, and a colour for each kind of value and for the keys.

* `JsonValue.colored`: the coloured document.
-/

import DisplayFilter.JsonValue
import DisplayFilter.Text.Style

namespace DisplayFilter.JsonValue

/-- A bold text in a colour. -/
def bright (color : Nat) (text : String) : String :=
  Text.paint true [.foreground color, .bold] text

/-- The colour of nothing. -/
def nullColor : Nat := 30

/-- The colour of strings. -/
def stringColor : Nat := 32

/-- The colour of truth values. -/
def boolColor : Nat := 33

/-- The colour of keys. -/
def keyColor : Nat := 34

/-- The colour of numbers. -/
def numberColor : Nat := 36

mutual

/-- The coloured document at a given depth. -/
def coloredAt (depth : Nat) : JsonValue → String
  | .null => bright nullColor "null"
  | .bool value => bright boolColor (if value then "true" else "false")
  | .number text => bright numberColor text
  | .string value => bright stringColor (quoted false value.shown)
  | .array items => bracketed "[" "]" depth (coloredItems (depth + 1) items)
  | .object members =>
    let shown := (coloredMembers (depth + 1) members).mergeSort fun first second =>
      first.1 ≤ second.1
    bracketed "\x7b" "\x7d" depth (shown.map fun member => member.2)

/-- The coloured items of an array. -/
def coloredItems (depth : Nat) : List JsonValue → List String
  | [] => []
  | item :: items => item.coloredAt depth :: coloredItems depth items

/-- The keys of an object, each with its coloured member. -/
def coloredMembers (depth : Nat) : List (String × JsonValue) → List (String × String)
  | [] => []
  | (key, value) :: members =>
    (key, bright keyColor ("\"" ++ key ++ "\"") ++ ": " ++ value.coloredAt depth) ::
      coloredMembers depth members

end

/-- The coloured document. -/
def colored (document : JsonValue) : String :=
  document.coloredAt 0

end DisplayFilter.JsonValue
