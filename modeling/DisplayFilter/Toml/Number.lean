/-
**Numbers of TOML.**

A number is read as the signs that can belong to one, and only then judged: underscores have to
stand between digits, needless zeros are refused, and the value has to fit.

* `integer`: the whole number of its signs.
* `real`: the decimal number of its signs.
-/

import DisplayFilter.Number.Decimal

namespace DisplayFilter.Toml

/-- What can be wrong with a number. -/
inductive NumberError where
  | underscoreFirst
  | underscoreLast
  | underscoresTogether
  | underscoreBeforeExponent
  | underscoreAfterExponent
  | underscoreBeforePoint
  | underscoreAfterPoint
  | leadingZero
  | value (base : Nat) (error : Number.ReadError)
  | pointFirst
  | pointLast
  | pointTwice
  | pointBeforeNoDigit
  | pointAfterNoDigit
  | realLeadingZero
  /-- A text that is no decimal number, or one beyond the greatest. -/
  | real (error : Number.ReadError)
deriving DecidableEq, Repr

/-- The name of the numbers of a base. -/
def baseName (base : Nat) : String :=
  if base = 16 then "hexadecimal" else if base = 8 then "octal" else if base = 2 then "binary"
  else "decimal"

/-- The wording of a number error. -/
def NumberError.message : NumberError → String
  | .underscoreFirst => "number cannot start with underscore"
  | .underscoreLast => "number cannot end with underscore"
  | .underscoresTogether => "number must have at least one digit between underscores"
  | .underscoreBeforeExponent => "cannot have underscore before exponent"
  | .underscoreAfterExponent => "cannot have underscore after exponent"
  | .underscoreBeforePoint => "cannot have underscore before decimal point"
  | .underscoreAfterPoint => "cannot have underscore after decimal point"
  | .leadingZero => "leading zero not allowed on decimal number"
  | .value base error =>
    "couldn't parse " ++ baseName base ++ " number: strconv.ParseInt: " ++ error.detail
  | .pointFirst => "float cannot start with a dot"
  | .pointLast => "float cannot end with a dot"
  | .pointTwice => "float can have at most one decimal point"
  | .pointAfterNoDigit => "float decimal point must be preceded by a digit"
  | .pointBeforeNoDigit => "float decimal point must be followed by a digit"
  | .realLeadingZero => "float integer part cannot have leading zeroes"
  | .real error => "unable to parse float: strconv.ParseFloat: " ++ error.detail

/-! ### Whole numbers -/

/-- Whether two underscores stand together. -/
def hasDoubleUnderscore : List Char → Bool
  | '_' :: '_' :: _ => true
  | _ :: rest => hasDoubleUnderscore rest
  | [] => false

/-- The signs of a whole number without its underscores. -/
def withoutUnderscores (text : List Char) : Except NumberError (List Char) :=
  let unsigned := (Number.splitSign text).2
  if unsigned.isEmpty then .ok text
  else if unsigned.head? = some '_' then .error .underscoreFirst
  else if text.getLast? = some '_' then .error .underscoreLast
  else if hasDoubleUnderscore text then .error .underscoresTogether
  else .ok (text.filter (· ≠ '_'))

/-- The whole number of a base. -/
def integerIn (base : Nat) (text : List Char) : Except NumberError Int := do
  let digits ← withoutUnderscores text
  let unsigned := (Number.splitSign digits).2
  if base = 10 && 1 < unsigned.length && unsigned.head? = some '0' then throw .leadingZero
  (Number.readIn base (.ofChars digits)).mapError (.value base)

/-- The whole number of its signs, in the base that they tell. -/
def integer (text : List Char) : Except NumberError Int :=
  match text with
  | '0' :: 'x' :: digit :: digits => integerIn 16 (digit :: digits)
  | '0' :: 'o' :: digit :: digits => integerIn 8 (digit :: digits)
  | '0' :: 'b' :: digit :: digits => integerIn 2 (digit :: digits)
  | text => integerIn 10 text

/-! ### Decimal numbers -/

/-- The signs of a decimal number without its underscores, given the sign before and whether a digit
came since the last underscore or sign. -/
def realSigns (before : Char) (digit : Bool) : List Char → Except NumberError (List Char)
  | [] => .ok []
  | sign :: rest => do
    let next := rest.headD ' '
    if sign = '_' then
      if !digit then throw .underscoresTogether
      if next = 'e' || next = 'E' then throw .underscoreBeforeExponent
      realSigns sign false rest
    else
      if (sign = 'e' || sign = 'E') && next = '_' then throw .underscoreAfterExponent
      if sign = '.' && next = '_' then throw .underscoreAfterPoint
      if sign = '.' && before = '_' then throw .underscoreBeforePoint
      let digit :=
        if sign = '+' || sign = '-' then false
        else digit || !(sign = 'e' || sign = 'E' || sign = '.')
      return sign :: (← realSigns sign digit rest)

/-- Checks the points of a decimal number, given the sign before and whether a point was seen. -/
def checkPoints (before : Char) (seen : Bool) : List Char → Except NumberError Unit
  | [] => .ok ()
  | sign :: rest =>
    if sign ≠ '.' then checkPoints sign seen rest
    else if seen then .error .pointTwice
    else if !Number.isDigit before then .error .pointAfterNoDigit
    else if !Number.isDigit (rest.headD ' ') then .error .pointBeforeNoDigit
    else checkPoints sign true rest

/-- The decimal number of signs without underscores. -/
def realValue (text : List Char) : Except NumberError Number.Binary :=
  let (negative, unsigned) := Number.splitSign text
  if unsigned = "inf".toList then .ok (.infinite negative)
  else if text = "nan".toList then .ok .nan
  else if (Number.decimal? text).isNone then .error (.real (.malformed (.ofChars text)))
  else
    match Number.Format.double.read? text with
    | some value => .ok value
    | none => .error (.real (.outOfRange (.ofChars text)))

/-- The decimal number of its signs. -/
def real (text : List Char) : Except NumberError Number.Binary := do
  if text = "+nan".toList || text = "-nan".toList then return .nan
  if text.head? = some '_' then throw .underscoreFirst
  if text.getLast? = some '_' then throw .underscoreLast
  let signs ← if text.contains '_' then realSigns ' ' false text else pure text
  if signs.head? = some '.' then throw .pointFirst
  if signs.getLast? = some '.' then throw .pointLast
  checkPoints ' ' false signs
  match (Number.splitSign signs).2 with
  | '0' :: digit :: _ => if Number.isDigit digit then throw .realLeadingZero
  | _ => pure ()
  realValue signs

end DisplayFilter.Toml
