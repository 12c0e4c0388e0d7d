/-
**Coloured text.**

Text on a terminal is coloured by attribute codes around it. A `Style` is a list of attributes;
painting writes their codes in front and a reset behind. A reset takes back each attribute, a colour
together with everything else and boldness by a code of its own.
-/

import DisplayFilter.Number.Integer

namespace DisplayFilter.Text

/-- An attribute of coloured text. -/
inductive Attribute where
  | bold
  | foreground (code : Nat)
deriving DecidableEq, Repr

/-- The code that sets an attribute. -/
def Attribute.code : Attribute → Nat
  | .bold => 1
  | .foreground code => code

/-- The code that takes an attribute back. -/
def Attribute.resetCode : Attribute → Nat
  | .bold => 22
  | .foreground _ => 0

/-- The attributes of a piece of text. -/
abbrev Style := List Attribute

/-- An escape sequence of attribute codes. -/
def escapeSequence (codes : List Nat) : String :=
  "\x1b[" ++ ";".intercalate (codes.map fun (code : Nat) => Number.decimal code) ++ "m"

/-- A text in a style, or bare when colours are off. -/
def paint (color : Bool) (style : Style) (text : String) : String :=
  if color then
    escapeSequence (style.map Attribute.code) ++ text ++
      escapeSequence (style.map Attribute.resetCode)
  else text

end DisplayFilter.Text
