/-
**Shortest decimals.**

A binary value is written with the fewest decimal digits that read back as the same value of its
format; of several such decimals the nearest one is taken. Where the digits are laid out (plainly or
with a power of ten) is a choice of the text that holds the number, given by a `Layout`.

* `shortest`: the digits of a positive value and the power of ten of the first.
* `Layout.write`: a value in the layout's form.
* `plainLayout`, `jsonLayout`: the layouts of filter text and of the JSON form of a program.
-/

import DisplayFilter.Number.Binary
import DisplayFilter.Number.Integer

namespace DisplayFilter.Number

/-- The power of ten of the leading digit of a positive fraction. -/
def leadingPower (numerator denominator : Nat) : Int :=
  if denominator ≤ numerator then (digits (numerator / denominator)).length - 1
  else
    let width := (digits (denominator / numerator)).length
    if denominator ≤ numerator * Nat.pow 10 (width - 1) then -((width - 1 : Nat) : Int)
    else -(width : Int)

/-- The decimals that read back as one binary value: the fractions between two bounds over a common
denominator, the bounds themselves included or not. -/
structure Interval where
  low : Nat
  value : Nat
  high : Nat
  denominator : Nat
  closed : Bool

/-- The fractions that a format rounds to the given value. Below a power of two the neighbours are
half as far apart as above it. -/
def Interval.of (format : Format) (significand : Nat) (exponent : Int) : Interval :=
  let below :=
    if significand = Nat.pow 2 (format.precision - 1) && format.least < exponent then 1 else 2
  let scale := Nat.pow 2 (exponent - 2).toNat
  { low := (4 * significand - below) * scale
    value := 4 * significand * scale
    high := (4 * significand + 2) * scale
    denominator := Nat.pow 2 (2 - exponent).toNat
    closed := significand % 2 = 0 }

/-- Whether a fraction lies in the interval. -/
def Interval.holds (interval : Interval) (numerator denominator : Nat) : Bool :=
  let candidate := numerator * interval.denominator
  let low := interval.low * denominator
  let high := interval.high * denominator
  if interval.closed then low ≤ candidate && candidate ≤ high
  else low < candidate && candidate < high

/-- The nearest decimal of the interval among those with the given number of digits, as a
coefficient of the last digit's power of ten. -/
def Interval.onGrid? (interval : Interval) (unit : Int) : Option Nat :=
  let up := Nat.pow 10 unit.toNat
  let down := Nat.pow 10 (-unit).toNat
  let floor := interval.value * down / (interval.denominator * up)
  let rest := interval.value * down % (interval.denominator * up)
  let lower := interval.holds (floor * up) down
  let upper := interval.holds ((floor + 1) * up) down
  if lower && upper then
    if interval.denominator * up < 2 * rest ||
        (interval.denominator * up = 2 * rest && floor % 2 = 1) then some (floor + 1)
    else some floor
  else if lower then some floor
  else if upper then some (floor + 1)
  else none

/-- The first grid, from the coarsest on, that meets the interval. -/
def Interval.search (interval : Interval) (power : Int) : (fuel count : Nat) → Nat × Int
  | 0, count => (interval.value / interval.denominator, power - count)
  | fuel + 1, count =>
    let unit := power - count
    match interval.onGrid? unit with
    | some coefficient => (coefficient, unit)
    | none => interval.search power fuel (count + 1)

/-- The digits of a positive value, without zeros at the end, and the power of ten of the first. -/
def shortest (format : Format) (significand : Nat) (exponent : Int) : List Char × Int :=
  let interval := Interval.of format significand exponent
  let power := leadingPower interval.value interval.denominator
  let (coefficient, unit) := interval.search power 18 0
  let written := digits coefficient
  let trimmed := (written.reverse.dropWhile (· = '0')).reverse
  (trimmed, unit + written.length - 1)

/-- How the digits of a number are laid out: plainly while the power of ten of the first digit is
within the bounds, otherwise with an exponent of at least so many digits. -/
structure Layout where
  least : Int
  beyond : Int
  exponentWidth : Nat

/-- Numbers in filter text are plain from ten thousandths on and below a million. -/
def plainLayout : Layout := ⟨-4, 6, 2⟩

/-- Numbers in JSON are plain from millionths on and below a sextillion. -/
def jsonLayout : Layout := ⟨-6, 21, 1⟩

/-- The plain form of digits whose first stands for the given power of ten. -/
def positional (written : List Char) (power : Int) : List Char :=
  if power < 0 then '0' :: '.' :: (List.replicate ((-power).toNat - 1) '0' ++ written)
  else
    let whole := power.toNat + 1
    let front := written.take whole
    let front := front ++ List.replicate (whole - front.length) '0'
    let back := written.drop whole
    if back.isEmpty then front else front ++ '.' :: back

/-- The form with an exponent. -/
def scientific (written : List Char) (power : Int) (exponentWidth : Nat) : List Char :=
  let front := written.take 1
  let back := written.drop 1
  let coefficient := if back.isEmpty then front else front ++ '.' :: back
  let sign := if power < 0 then '-' else '+'
  coefficient ++ 'e' :: sign :: padded exponentWidth power.natAbs

/-- The unsigned text of a positive significand times a power of two. -/
def Layout.writePositive (layout : Layout) (format : Format) (significand : Nat)
    (exponent : Int) : List Char :=
  let (written, power) := shortest format significand exponent
  if power < layout.least || layout.beyond ≤ power then
    scientific written power layout.exponentWidth
  else positional written power

/-- The text of a value of the given format. -/
def Layout.write (layout : Layout) (format : Format) : Binary → String
  | .nan => "NaN"
  | .infinite negative => if negative then "-Inf" else "+Inf"
  | .finite negative significand exponent =>
    let body :=
      if significand = 0 then ['0'] else layout.writePositive format significand exponent
    String.ofList (if negative then '-' :: body else body)

end DisplayFilter.Number
