/-
**Whole numbers in text.**

Whole numbers are written in decimal with a minus sign in front of negative ones. They are read
with an optional sign in front of the digits and have to fit in sixty-four bits.

* `digits`, `decimal`: the written forms.
* `inBase?`: the number that digits of some base stand for.
* `read`, `readIn`: the number a text stands for, or why it stands for none.
-/

import DisplayFilter.RawText

namespace DisplayFilter.Number

/-- The decimal digits of a natural number, most significant first. -/
def digits (number : Nat) : List Char :=
  if number < 10 then [Char.ofNat (48 + number)]
  else digits (number / 10) ++ [Char.ofNat (48 + number % 10)]

/-- A whole number in decimal. -/
def decimalChars : Int → List Char
  | .ofNat number => digits number
  | .negSucc number => '-' :: digits (number + 1)

/-- A whole number in decimal. -/
def decimal (number : Int) : String :=
  String.ofList (decimalChars number)

/-- A natural number in decimal with zeros in front up to the given width. -/
def padded (width number : Nat) : List Char :=
  let written := digits number
  List.replicate (width - written.length) '0' ++ written

/-- Whether a character is a decimal digit. -/
def isDigit (character : Char) : Bool :=
  '0' ≤ character && character ≤ '9'

/-- The number that a sequence of digits stands for. -/
def ofDigits (text : List Char) : Nat :=
  text.foldl (fun value character => value * 10 + (character.toNat - 48)) 0

/-- The value of a character as a digit of a base up to sixteen. -/
def digitIn? (base : Nat) (character : Char) : Option Nat :=
  let value :=
    if '0' ≤ character && character ≤ '9' then character.toNat - 48
    else if 'a' ≤ character && character ≤ 'f' then character.toNat - 87
    else if 'A' ≤ character && character ≤ 'F' then character.toNat - 55
    else base
  if value < base then some value else none

/-- The number that digits of a base up to sixteen stand for; no digits stand for zero. -/
def inBase? (base : Nat) (text : List Char) : Option Nat :=
  text.foldlM (fun value character => (digitIn? base character).map (value * base + ·)) 0

/-- Why a text is not a whole number of sixty-four bits. -/
inductive ReadError where
  | malformed (text : RawText)
  | outOfRange (text : RawText)
deriving DecidableEq, Repr

/-- What was read and why it is no number. -/
def ReadError.detail : ReadError → String
  | .malformed text => "parsing " ++ text.quoted ++ ": invalid syntax"
  | .outOfRange text => "parsing " ++ text.quoted ++ ": value out of range"

/-- The wording of a reading error. -/
def ReadError.message (error : ReadError) : String :=
  "strconv.Atoi: " ++ error.detail

/-- The sign of a number and what follows it. -/
def splitSign : List Char → Bool × List Char
  | '-' :: rest => (true, rest)
  | '+' :: rest => (false, rest)
  | text => (false, text)

/-- The first number beyond the signed numbers of sixty-four bits. -/
def signedLimit : Nat := 0x8000000000000000

/-- The first number beyond the unsigned numbers of sixty-four bits. -/
def unsignedLimit : Nat := 0x10000000000000000

/-- The signed number of a magnitude, when it fits in sixty-four bits. -/
def signed? (negative : Bool) (magnitude : Nat) : Option Int :=
  if negative then
    if magnitude ≤ signedLimit then some (-(magnitude : Int)) else none
  else if magnitude < signedLimit then some magnitude else none

/-- Reads a number of a base up to sixteen. Digits whose value passes sixty-four unsigned bits are
out of range whatever follows them; otherwise a character that is no digit makes the text
malformed. -/
def readIn (base : Nat) (text : RawText) : Except ReadError Int :=
  let (negative, magnitude) := splitSign text.chars
  let leading := magnitude.takeWhile fun character => (digitIn? base character).isSome
  let value := (inBase? base leading).getD 0
  if unsignedLimit ≤ value then .error (.outOfRange text)
  else if magnitude = [] || leading.length ≠ magnitude.length then .error (.malformed text)
  else
    match signed? negative value with
    | some number => .ok number
    | none => .error (.outOfRange text)

/-- Reads a decimal number. -/
def read (text : RawText) : Except ReadError Int :=
  readIn 10 text

end DisplayFilter.Number
