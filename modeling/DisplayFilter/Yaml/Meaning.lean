/-
**What scalars mean.**

A plain scalar means the constant that its text looks like: nothing, a truth value, a number, a
point in time, or else the text itself. A tag says which kind of constant is meant; the text then
has to look like one.

* `Tag`: the kinds of node that tags name.
* `meaning`: the constant that plain text looks like.
* `tagged`: the constant that text means under a tag.
-/

import DisplayFilter.Constant
import DisplayFilter.Number.Decimal
import DisplayFilter.Text.Base64
import DisplayFilter.Yaml.Error

namespace DisplayFilter.Yaml

/-- The kind of node that a tag names. -/
inductive Tag where
  | null
  | bool
  | int
  | float
  | timestamp
  | str
  | binary
  | merge
  | seq
  | map
  | other (name : String)
deriving DecidableEq, Repr

/-- The kind that a name behind two exclamation marks stands for. -/
def Tag.ofName (name : String) : Tag :=
  match name with
  | "null" => .null
  | "bool" => .bool
  | "int" => .int
  | "float" => .float
  | "timestamp" => .timestamp
  | "str" => .str
  | "binary" => .binary
  | "merge" => .merge
  | "seq" => .seq
  | "map" => .map
  | _ => .other ("!!" ++ name)

/-- The address that all standard tags start with. -/
def standardAddress : String := "tag:yaml.org,2002:"

/-- The kind that a whole tag stands for. -/
def Tag.ofAddress (address : String) : Tag :=
  if address.startsWith standardAddress then
    .ofName (String.ofList (address.toList.drop standardAddress.length))
  else if address.startsWith "!!" then .ofName (String.ofList (address.toList.drop 2))
  else .other address

/-! ### Numbers -/

/-- The base that the first characters of a number tell, and its digits: `0x`, `0o` and `0b` go
before digits, and a zero alone makes a number octal. -/
def baseAndDigits : List Char → Nat × List Char
  | ['0', digit] => (8, [digit])
  | '0' :: marker :: rest =>
    match marker with
    | 'x' | 'X' => (16, rest)
    | 'o' | 'O' => (8, rest)
    | 'b' | 'B' => (2, rest)
    | _ => (8, marker :: rest)
  | '0' :: rest => (8, rest)
  | text => (10, text)

/-- The number that unsigned text stands for. -/
def magnitude? (text : List Char) : Option Nat :=
  if text.isEmpty then none
  else
    let (base, digits) := baseAndDigits text
    Number.inBase? base digits

/-- A whole number of sixty-four bits with its sign behind the mark of its base. -/
def innerSigned? : List Char → Option Int
  | '0' :: marker :: sign :: digits =>
    let base := if marker = 'b' then 2 else if marker = 'o' then 8 else 0
    if base = 0 || (sign ≠ '+' && sign ≠ '-') || digits.isEmpty then none
    else (Number.inBase? base digits).bind (Number.signed? (sign = '-'))
  | _ => none

/-- The whole number that text stands for: signed if it fits, else unsigned. -/
def wholeNumber? (text : List Char) : Option Constant :=
  let (negative, unsigned) := Number.splitSign text
  match magnitude? unsigned with
  | none => none
  | some magnitude =>
    match Number.signed? negative magnitude with
    | some number => some (.integer .int number)
    | none =>
      if unsigned.length = text.length && magnitude < Number.unsignedLimit then
        some (.integer .uint64 magnitude)
      else none

/-- The decimal number that text stands for. -/
def realNumber? (text : List Char) : Option Constant :=
  (Number.Format.double.read? text).map (Constant.real .double)

/-- The number that text with a digit or sign in front stands for. Underscores mean nothing. -/
def number? (text : List Char) : Option Constant :=
  let plain := text.filter (· ≠ '_')
  (wholeNumber? plain).or ((realNumber? plain).or
    ((innerSigned? plain).map (Constant.integer .int)))

/-! ### Constants -/

/-- The constants that are written with a word of their own. -/
def word? (text : String) : Option Constant :=
  match text with
  | "" | "~" | "null" | "Null" | "NULL" => some .null
  | "true" | "True" | "TRUE" => some (.bool true)
  | "false" | "False" | "FALSE" => some (.bool false)
  | ".nan" | ".NaN" | ".NAN" => some (.real .double .nan)
  | ".inf" | ".Inf" | ".INF" | "+.inf" | "+.Inf" | "+.INF" =>
    some (.real .double (.infinite false))
  | "-.inf" | "-.Inf" | "-.INF" => some (.real .double (.infinite true))
  | _ => none

/-- The constant that text stands for by its first character: a point in time or a number behind a
digit or sign, a number behind a point. -/
def numeric? (text : List Char) : Option Constant :=
  match text with
  | [] => none
  | '.' :: _ => realNumber? text
  | first :: _ =>
    if Number.isDigit first || first = '+' || first = '-' then
      ((Timestamp.read? text).map Constant.time).or (number? text)
    else none

/-- The constant that plain text looks like. -/
def meaning (text : String) : Constant :=
  ((word? text).or (numeric? text.toList)).getD (.string text)

/-- The tag of the constant that plain text looks like. -/
def plainTag (text : String) : Tag :=
  match meaning text with
  | .null => .null
  | .bool _ => .bool
  | .integer .. => .int
  | .real .. => .float
  | .time _ => .timestamp
  | _ => .str

/-- The constant that text means under a tag. A whole number is also a decimal one. -/
def tagged (tag : Tag) (text : String) : Except Error Constant :=
  match tag with
  | .null | .bool | .int | .float | .timestamp =>
    if plainTag text = tag then .ok (meaning text)
    else
      match tag, meaning text with
      | .float, .integer .int number => .ok (.real .double (.ofInt number))
      | _, _ => .error .kind
  | .binary =>
    match Text.base64? text.toList with
    | some octets => .ok (.string (.ofOctets octets))
    | none => .error .kind
  | _ => .ok (.string text)

end DisplayFilter.Yaml
