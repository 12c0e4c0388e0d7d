/-
**Quoted text.**

A quoted text stands between double quotes. The quote and the backslash are written behind a
backslash, printable characters as themselves, the seven control characters with a letter by that
letter, and every other character by its code point in hexadecimal digits: two below the end of
ASCII, four below the end of the basic plane, eight above it.

* `quote`: the quoted form of a text.
* `quoteSingle`: a character between single quotes.
-/

import DisplayFilter.Text.Printable

namespace DisplayFilter.Text

/-- The lower-case hexadecimal digit of a number below sixteen. -/
def hexDigit (digit : Nat) : Char :=
  if digit < 10 then Char.ofNat (48 + digit) else Char.ofNat (87 + digit)

/-- The last digits of a number in lower-case hexadecimal, exactly as many as asked for. -/
def hexDigits : (count number : Nat) → List Char
  | 0, _ => []
  | count + 1, number => hexDigits count (number / 16) ++ [hexDigit (number % 16)]

/-- The quoted form of one character. -/
def quoteChar (character : Char) : List Char :=
  let point := character.toNat
  if character = '"' || character = '\\' then ['\\', character]
  else if isPrintable character then [character]
  else if point = 7 then ['\\', 'a']
  else if point = 8 then ['\\', 'b']
  else if point = 12 then ['\\', 'f']
  else if point = 10 then ['\\', 'n']
  else if point = 13 then ['\\', 'r']
  else if point = 9 then ['\\', 't']
  else if point = 11 then ['\\', 'v']
  else if point < 0x80 then '\\' :: 'x' :: hexDigits 2 point
  else if point < 0x10000 then '\\' :: 'u' :: hexDigits 4 point
  else '\\' :: 'U' :: hexDigits 8 point

/-- A character between single quotes, where a double quote stands for itself. -/
def quoteSingle (character : Char) : String :=
  if character = '\'' then "'\\''"
  else if character = '"' then "'\"'"
  else String.ofList ('\'' :: (quoteChar character ++ ['\'']))

/-- The first octet of the encoded form of a character, as a character. -/
def leadingOctet (character : Char) : Char :=
  match (String.ofList [character]).toUTF8.toList with
  | [] => character
  | octet :: _ => Char.ofNat octet.toNat

/-- The quoted form of a text. -/
def quote (text : String) : String :=
  String.ofList ('"' :: (text.toList.flatMap quoteChar ++ ['"']))

end DisplayFilter.Text
