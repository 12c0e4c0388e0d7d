/-
**Constants of a filter.**

A literal of a filter tree holds a constant: a truth value, a text, a number of some width, or a
collection of constants.

* `Constant.text`: the constant as it is shown inside a collection.
* `Constant.literal`: the constant as a literal, where a text is quoted.
-/

import DisplayFilter.Number.Shortest
import DisplayFilter.Timestamp

namespace DisplayFilter

/-- The width and signedness of an integer constant. -/
inductive IntegerKind where
  | int
  | int8
  | int16
  | int32
  | int64
  | uint
  | uint8
  | uint16
  | uint32
  | uint64
deriving DecidableEq, Repr

/-- The width of a floating-point constant. -/
inductive RealWidth where
  | single
  | double
deriving DecidableEq, Repr

/-- The binary format of a floating-point constant. -/
def RealWidth.format : RealWidth → Number.Format
  | .single => .single
  | .double => .double

/-- A constant of a filter. -/
inductive Constant where
  | null
  | bool (value : Bool)
  | string (value : RawText)
  | integer (kind : IntegerKind) (value : Int)
  | real (width : RealWidth) (value : Number.Binary)
  | time (value : Timestamp)
  | bytes (value : List UInt8)
  | list (items : List Constant)
  | record (entries : List (RawText × Constant))
  | mapping (entries : List (Constant × Constant))

namespace Constant

/-- The order in which the kinds of key of a mapping are shown. -/
def keyRank : Constant → Nat
  | .null => 0
  | .integer .uint64 _ => 1
  | .integer _ _ => 2
  | .real _ _ => 3
  | .bool _ => 4
  | .string _ => 5
  | _ => 6

/-- Whether one floating-point value is less than another; what is not a number comes first. -/
def realBelow : Number.Binary → Number.Binary → Bool
  | .nan, .nan => false
  | .nan, _ => true
  | _, .nan => false
  | .infinite negative, .infinite other => negative && !other
  | .infinite negative, .finite .. => negative
  | .finite .., .infinite other => !other
  | .finite negative significand exponent, .finite other significand' exponent' =>
    let least := min exponent exponent'
    let left : Int := significand * Nat.pow 2 (exponent - least).toNat
    let right : Int := significand' * Nat.pow 2 (exponent' - least).toNat
    (if negative then -left else left) < (if other then -right else right)

/-- Whether one key of a mapping is shown before another. -/
def keyPrecedes (first second : Constant) : Bool :=
  if first.keyRank ≠ second.keyRank then first.keyRank < second.keyRank
  else
    match first, second with
    | .integer _ value, .integer _ other => value ≤ other
    | .real _ value, .real _ other => !realBelow other value
    | .bool value, .bool other => !value || other
    | .string value, .string other => value.precedes other
    | .time value, .time other => value.precedes other
    | _, _ => true

mutual

/-- A constant as it is shown inside a collection, where texts stand bare. -/
def text : Constant → RawText
  | .null => "<nil>"
  | .bool value => if value then "true" else "false"
  | .string value => value
  | .integer _ value => Number.decimal value
  | .real width value => Number.plainLayout.write width.format value
  | .time value => value.text
  | .bytes value =>
    "[" ++ " ".intercalate (value.map fun octet => Number.decimal octet.toNat) ++ "]"
  | .list items => "[" ++ RawText.join " " (itemTexts items) ++ "]"
  | .record entries =>
    let shown := (entryTexts entries).mergeSort fun first second => first.1.precedes second.1
    "map[" ++ RawText.join " " (shown.map fun entry => entry.1 ++ ":" ++ entry.2) ++ "]"
  | .mapping entries =>
    let shown := (pairTexts entries).mergeSort fun first second => keyPrecedes first.1 second.1
    "map[" ++ RawText.join " " (shown.map fun entry => entry.2) ++ "]"

/-- The constants of a list as they are shown. -/
def itemTexts : List Constant → List RawText
  | [] => []
  | item :: items => item.text :: itemTexts items

/-- The entries of a record with their values as they are shown. -/
def entryTexts : List (RawText × Constant) → List (RawText × RawText)
  | [] => []
  | (key, value) :: entries => (key, value.text) :: entryTexts entries

/-- The keys of a mapping, each with its entry as it is shown. -/
def pairTexts : List (Constant × Constant) → List (Constant × RawText)
  | [] => []
  | (key, value) :: entries => (key, key.text ++ ":" ++ value.text) :: pairTexts entries

end

/-- A constant as a literal: a text is quoted. -/
def literal : Constant → String
  | .string value => value.quoted
  | constant => constant.text.shown

end Constant

end DisplayFilter
