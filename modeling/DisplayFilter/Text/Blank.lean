/-
**Blank characters and parts of a text.**

Texts are taken apart as lists of characters. Blank characters are the white space of the Unicode
standard, control spaces included.

* `isBlank`: the blank characters.
* `trimBy`: a text without the blanks around it.
* `split`: the parts of a text between the occurrences of a separator.
-/

namespace DisplayFilter.Text

/-- Whether a character is white space. -/
def isBlank (character : Char) : Bool :=
  let point := character.toNat
  (9 ≤ point && point ≤ 13) || point = 0x20 || point = 0x85 || point = 0xA0 || point = 0x1680 ||
    (0x2000 ≤ point && point ≤ 0x200A) || point = 0x2028 || point = 0x2029 || point = 0x202F ||
    point = 0x205F || point = 0x3000

variable {α : Type}

/-- A list without the leading and trailing elements of a class. -/
def trimBy (belongs : α → Bool) (text : List α) : List α :=
  ((text.dropWhile belongs).reverse.dropWhile belongs).reverse

variable [DecidableEq α]

/-- The parts of a list between the occurrences of a separator; there is always at least one. -/
def split (separator : α) : List α → List (List α)
  | [] => [[]]
  | first :: rest =>
    if first = separator then [] :: split separator rest
    else
      match split separator rest with
      | [] => [[first]]
      | part :: parts => (first :: part) :: parts

/-- A list without one given leading element. -/
def dropLeading (element : α) : List α → List α
  | [] => []
  | first :: rest => if first = element then rest else first :: rest

/-- A list without one given trailing element. -/
def dropTrailing (element : α) (text : List α) : List α :=
  (dropLeading element text.reverse).reverse

end DisplayFilter.Text
