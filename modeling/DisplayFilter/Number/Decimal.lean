/-
**Decimal numbers in text.**

A decimal number has an optional sign, digits with at most one point among or beside them, and an
optional exponent. Single underscores may stand between two digits.

* `decimal?`: the sign, coefficient and power of ten that a text stands for.
* `Format.read?`: the nearest value of a format, unless it is beyond the greatest.
* `Format.ofText`: the same for a text that may also be infinite or no number.
-/

import DisplayFilter.Number.Binary

namespace DisplayFilter.Number

/-- Whether every underscore stands between two digits; `afterDigit` tells what came before. -/
def separated (afterDigit : Bool) : List Char → Bool
  | [] => true
  | '_' :: next :: rest => afterDigit && isDigit next && separated false (next :: rest)
  | ['_'] => false
  | character :: rest => separated (isDigit character) rest

/-- Digits with at most one point: all digits, how many follow the point, and what is left. -/
def mantissa (sawPoint : Bool) : List Char → List Char × Nat × List Char
  | '.' :: rest =>
    if sawPoint then ([], 0, '.' :: rest) else mantissa true rest
  | character :: rest =>
    if isDigit character then
      let (written, places, rest) := mantissa sawPoint rest
      (character :: written, if sawPoint then places + 1 else places, rest)
    else ([], 0, character :: rest)
  | [] => ([], 0, [])

/-- The exponent of a number; no exponent at all is zero. -/
def exponent? : List Char → Option Int
  | [] => some 0
  | marker :: rest =>
    if marker = 'e' || marker = 'E' then
      let (negative, magnitude) := splitSign rest
      if magnitude ≠ [] && magnitude.all isDigit then
        some (if negative then -(ofDigits magnitude : Int) else ofDigits magnitude)
      else none
    else none

/-- The sign, coefficient and power of ten that a text stands for. -/
def decimal? (text : List Char) : Option (Bool × Nat × Int) := do
  let (negative, unsigned) := splitSign text
  if !separated false unsigned then none
  let (written, places, rest) := mantissa false (unsigned.filter (· ≠ '_'))
  if written.isEmpty then none
  let exponent ← exponent? rest
  return (negative, ofDigits written, exponent - places)

/-- The value of a format nearest to the number a text stands for; none for a number beyond the
greatest value. -/
def Format.read? (format : Format) (text : List Char) : Option Binary := do
  let (negative, coefficient, exponent) ← decimal? text
  match format.ofDecimal negative coefficient exponent with
  | .infinite _ => none
  | value => some value

/-- The value that a text stands for, which may be infinite or no number. -/
def Format.ofText (format : Format) (text : String) : Binary :=
  if text = "Inf" || text = "+Inf" then .infinite false
  else if text = "-Inf" then .infinite true
  else (format.read? text.toList).getD .nan

end DisplayFilter.Number
