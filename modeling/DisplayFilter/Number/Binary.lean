/-
**Binary floating-point values.**

A finite value is a whole significand times a power of two, with a sign of its own so that zero has
two forms. A `Format` bounds the significand and the power; `single` and `double` are the formats of
thirty-two and sixty-four bits.

* `Format.round`: the value of a format nearest to a fraction, halves to the even significand.
* `Format.ofDecimal`: the same for a decimal number.
-/

import DisplayFilter.Number.Integer

namespace DisplayFilter.Number

/-- A binary floating-point value: a sign, a significand and the power of two it counts. -/
inductive Binary where
  | nan
  | infinite (negative : Bool)
  | finite (negative : Bool) (significand : Nat) (exponent : Int)
deriving DecidableEq, Repr

/-- The bits of a significand and the least and greatest power of two it may count. -/
structure Format where
  precision : Nat
  least : Int
  greatest : Int
deriving DecidableEq, Repr

namespace Format

/-- The format of sixty-four bits. -/
def double : Format := ⟨53, -1074, 971⟩

/-- The format of thirty-two bits. -/
def single : Format := ⟨24, -149, 104⟩

/-- A fraction over a power of two, as a fraction. -/
def scaled (numerator denominator : Nat) (exponent : Int) : Nat × Nat :=
  (numerator * Nat.pow 2 (-exponent).toNat, denominator * Nat.pow 2 exponent.toNat)

/-- The whole number nearest to a fraction, halves to the even neighbour. -/
def nearest (numerator denominator : Nat) : Nat :=
  let floor := numerator / denominator
  let twice := 2 * (numerator % denominator)
  if denominator < twice || (twice = denominator && floor % 2 = 1) then floor + 1 else floor

/-- The power of two that a fraction's significand counts, so that the significand has as many bits
as the format allows and is not finer than its least power. -/
def exponentOf (format : Format) (numerator denominator : Nat) : Int :=
  let guess : Int := (numerator.log2 : Int) - denominator.log2 - format.precision + 1
  let (top, bottom) := scaled numerator denominator guess
  let exact := if top / bottom < Nat.pow 2 (format.precision - 1) then guess - 1 else guess
  max format.least exact

/-- The value nearest to a fraction; a fraction beyond the greatest value is infinite. -/
def round (format : Format) (negative : Bool) (numerator denominator : Nat) : Binary :=
  if numerator = 0 then .finite negative 0 format.least
  else
    let exponent := format.exponentOf numerator denominator
    let (top, bottom) := scaled numerator denominator exponent
    let significand := nearest top bottom
    let (significand, exponent) :=
      if significand = Nat.pow 2 format.precision then
        (Nat.pow 2 (format.precision - 1), exponent + 1)
      else (significand, exponent)
    if format.greatest < exponent then .infinite negative
    else .finite negative significand exponent

/-- The value nearest to a decimal number: a coefficient times a power of ten. Numbers far outside
both formats are settled without computing the power. -/
def ofDecimal (format : Format) (negative : Bool) (coefficient : Nat) (exponent : Int) : Binary :=
  let width := (digits coefficient).length
  if coefficient = 0 then .finite negative 0 format.least
  else if 400 < exponent + width then .infinite negative
  else if exponent + width < -400 then .finite negative 0 format.least
  else
    format.round negative (coefficient * Nat.pow 10 exponent.toNat)
      (Nat.pow 10 (-exponent).toNat)

end Format

/-- The double nearest to a whole number. -/
def Binary.ofInt (number : Int) : Binary :=
  Format.double.round (number < 0) number.natAbs 1

end DisplayFilter.Number
