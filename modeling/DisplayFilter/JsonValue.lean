/-
**JSON documents.**

A JSON document with its object members in order. Numbers are kept as they are written. An octet of
a text that is no part of a character is written as the replacement character.

* `JsonValue.compact`: the document on one line, with characters that mean something to a markup
  reader escaped.
* `JsonValue.indented`: the document with two blanks of indentation a level.
-/

import DisplayFilter.RawText

namespace DisplayFilter

/-- A JSON document. -/
inductive JsonValue where
  | null
  | bool (value : Bool)
  | number (text : String)
  | string (value : RawText)
  | array (items : List JsonValue)
  | object (members : List (String × JsonValue))

namespace JsonValue

/-- A character as it is written in a JSON string. Characters of markup are escaped if asked for. -/
def escapeChar (markup : Bool) (character : Char) : List Char :=
  let point := character.toNat
  if character = '"' || character = '\\' then ['\\', character]
  else if point = 8 then ['\\', 'b']
  else if point = 12 then ['\\', 'f']
  else if point = 10 then ['\\', 'n']
  else if point = 13 then ['\\', 'r']
  else if point = 9 then ['\\', 't']
  else if point < 0x20 || point = 0x2028 || point = 0x2029 ||
      (markup && (character = '<' || character = '>' || character = '&')) then
    '\\' :: 'u' :: Text.hexDigits 4 point
  else [character]

/-- A text as it is written in a JSON string, without its quotes. -/
def escape (markup : Bool) (text : RawText) : List Char :=
  text.chars.flatMap (escapeChar markup)

/-- A text as a JSON string. -/
def quoted (markup : Bool) (text : RawText) : String :=
  String.ofList ('"' :: (escape markup text ++ ['"']))

mutual

/-- The document on one line. -/
def compact : JsonValue → String
  | .null => "null"
  | .bool value => if value then "true" else "false"
  | .number text => text
  | .string value => quoted true value
  | .array items => "[" ++ ",".intercalate (compactItems items) ++ "]"
  | .object members => "\x7b" ++ ",".intercalate (compactMembers members) ++ "\x7d"

/-- Several documents, each on one line. -/
def compactItems : List JsonValue → List String
  | [] => []
  | item :: items => item.compact :: compactItems items

/-- The members of an object, each on one line. -/
def compactMembers : List (String × JsonValue) → List String
  | [] => []
  | (key, value) :: members => (quoted true key ++ ":" ++ value.compact) :: compactMembers members

end

/-- The start of a line so many levels deep. -/
def margin (depth : Nat) : String :=
  String.ofList (List.replicate (2 * depth) ' ')

/-- The lines of a collection between its brackets; an empty one stays on one line. -/
def bracketed (left right : String) (depth : Nat) (lines : List String) : String :=
  if lines.isEmpty then left ++ right
  else
    left ++ "\n" ++ ",\n".intercalate (lines.map (margin (depth + 1) ++ ·)) ++ "\n" ++
      margin depth ++ right

mutual

/-- The document with two blanks of indentation a level, at a given depth. -/
def indentedAt (depth : Nat) : JsonValue → String
  | .null => "null"
  | .bool value => if value then "true" else "false"
  | .number text => text
  | .string value => quoted true value
  | .array items => bracketed "[" "]" depth (indentedItems (depth + 1) items)
  | .object members => bracketed "\x7b" "\x7d" depth (indentedMembers (depth + 1) members)

/-- The items of an array, indented. -/
def indentedItems (depth : Nat) : List JsonValue → List String
  | [] => []
  | item :: items => item.indentedAt depth :: indentedItems depth items

/-- The members of an object, indented. -/
def indentedMembers (depth : Nat) : List (String × JsonValue) → List String
  | [] => []
  | (key, value) :: members =>
    (quoted true key ++ ": " ++ value.indentedAt depth) :: indentedMembers depth members

end

/-- The document with two blanks of indentation a level. -/
def indented (document : JsonValue) : String :=
  document.indentedAt 0

end JsonValue

end DisplayFilter
