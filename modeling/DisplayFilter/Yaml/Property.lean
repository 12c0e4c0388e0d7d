/-
**Properties and directives.**

A node may carry an anchor and a tag, and an alias stands for the node of an anchor. Lines with a
percent sign at the start of a document are directives: they name the version of the format or give
tag handles.

* `Property.name`: the name of an anchor or alias.
* `Property.tag`: a tag.
* `Property.directive`: a directive.
-/

import DisplayFilter.Number.Integer
import DisplayFilter.Yaml.Cursor
import DisplayFilter.Yaml.Token

namespace DisplayFilter.Yaml.Property

/-! ### Names -/

/-- Whether a name may end before a character. -/
def endsName (character : Char) : Bool :=
  endsWord character || "?:,]\x7d%@`".toList.contains character

/-- The name after the indicator at a place. -/
def name : Scanning String := do
  Scanning.skip
  let written ← Scanning.takeWhile isWord
  if written.isEmpty || !endsName (← Scanning.peek) then throw .property
  return String.ofList written

/-! ### Tags -/

/-- A character of a tag address. -/
def isAddress (character : Char) : Bool :=
  isWord character || ";/?:@&=+$,.!~*'()[]%".toList.contains character

/-- The octet written as a percent sign and two hexadecimal digits. -/
def percentOctet : Scanning UInt8 := do
  Scanning.need 3
  match (← get).rest with
  | '%' :: high :: low :: _ =>
    match Number.inBase? 16 [high, low] with
    | some octet =>
      Scanning.advance 3
      return UInt8.ofNat octet
    | none => throw .property
  | _ => throw .property

/-- The octets that continue an encoded character, each with a percent sign. -/
def continuation : Nat → Scanning (List UInt8)
  | 0 => return []
  | count + 1 => do
    let octet ← percentOctet
    if !Text.isContinuation octet then throw .property
    return octet :: (← continuation count)

/-- The octets of an encoded character, each written with a percent sign. -/
def percentEncoded : Scanning (List UInt8) := do
  let first ← percentOctet
  let length := Text.promisedLength first
  if length = 0 then throw .property
  return first :: (← continuation (length - 1))

/-- The address at a place, after the octets already read, the last one first. -/
def addressFrom : (fuel : Nat) → List UInt8 → Scanning (List UInt8)
  | 0, read => return read.reverse
  | fuel + 1, read => do
    Scanning.need 1
    let character ← Scanning.peek
    if character = '%' then addressFrom fuel ((← percentEncoded).reverse ++ read)
    else if isAddress character then
      Scanning.skip
      addressFrom fuel (UInt8.ofNat character.toNat :: read)
    else return read.reverse

/-- The address at a place, after the characters that are known to belong to it. It may only be
empty if it is said to. -/
def address (known : List Char) (mayBeEmpty : Bool) : Scanning String := do
  let start := (← get).index
  let octets ← addressFrom (← get).limit []
  if !mayBeEmpty && (← get).index = start then throw .property
  return String.ofList known ++ (RawText.ofOctets octets).shown

/-- The exclamation mark at a place with the name after it and the mark that closes it. -/
def handle : Scanning (List Char) := do
  Scanning.need 1
  if (← Scanning.peek) ≠ '!' then throw .property
  Scanning.skip
  let word ← Scanning.takeWhile isWord
  if (← Scanning.peek) = '!' then
    Scanning.skip
    return '!' :: word ++ ['!']
  return '!' :: word

/-- Whether an exclamation mark and a name are closed by another mark. -/
def isClosed (written : List Char) : Bool :=
  1 < written.length && written.getLast? = some '!'

/-- The handle and suffix of the tag at a place. -/
def tagParts : Scanning (String × String) := do
  Scanning.need 2
  if (← Scanning.ahead 1) = '<' then
    Scanning.advance 2
    let suffix ← address [] false
    if (← Scanning.peek) ≠ '>' then throw .property
    Scanning.skip
    return ("", suffix)
  let written ← handle
  if isClosed written then return (String.ofList written, ← address [] false)
  let suffix ← address (written.drop 1) true
  return if suffix = "" then ("", "!") else ("!", suffix)

/-- The tag at a place, which has to stand by itself. -/
def tag : Scanning Token := do
  let (handle, suffix) ← tagParts
  Scanning.need 1
  if !endsWord (← Scanning.peek) then throw .property
  return .tag handle suffix

/-! ### Directives -/

/-- A number of one or two digits at a place. -/
def versionNumber : Scanning Nat := do
  let written ← Scanning.takeWhile Number.isDigit
  if written.isEmpty || 2 < written.length then throw .directive
  return Number.ofDigits written

/-- The version after the name of a version directive. -/
def version : Scanning Token := do
  Scanning.skipWhile isBlank
  let major ← versionNumber
  if (← Scanning.peek) ≠ '.' then throw .directive
  Scanning.skip
  return .version major (← versionNumber)

/-- The handle and address after the name of a tag directive. -/
def tagHandle : Scanning Token := do
  Scanning.skipWhile isBlank
  let written ← handle
  if !isClosed written && written.length ≠ 1 then throw .directive
  Scanning.need 1
  if !isBlank (← Scanning.peek) then throw .directive
  Scanning.skipWhile isBlank
  let address ← address [] false
  Scanning.need 1
  if !endsWord (← Scanning.peek) then throw .directive
  return .handle (String.ofList written) address

/-- The directive at a place, which is its percent sign, with its line. -/
def directive : Scanning Token := do
  Scanning.skip
  let word ← Scanning.takeWhile isWord
  if !endsWord (← Scanning.peek) then throw .directive
  let token ←
    if word = "YAML".toList then version
    else if word = "TAG".toList then tagHandle
    else throw .directive
  Scanning.skipWhile isBlank
  if (← Scanning.peek) = '#' then Scanning.skipLine
  if !endsLine (← Scanning.peek) then throw .directive
  if isBreak (← Scanning.peek) then Scanning.skipBreak
  return token

end DisplayFilter.Yaml.Property
