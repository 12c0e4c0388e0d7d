/-
**Binary data as text.**

Binary data is written with sixty-four characters, each of which stands for six bits; four
characters make three octets. The last group is filled up with equals signs. Line breaks mean
nothing.

* `base64?`: the octets that a text stands for.
-/

namespace DisplayFilter.Text

/-- The six bits that a character stands for. -/
def sextet? (character : Char) : Option Nat :=
  if 'A' ≤ character && character ≤ 'Z' then some (character.toNat - 65)
  else if 'a' ≤ character && character ≤ 'z' then some (character.toNat - 71)
  else if '0' ≤ character && character ≤ '9' then some (character.toNat + 4)
  else if character = '+' then some 62
  else if character = '/' then some 63
  else none

/-- The octets of a group of characters without line breaks; the group at the end may be filled up
with one or two equals signs. -/
def base64Groups? : List Char → Option (List UInt8)
  | [] => some []
  | [first, second, '=', '='] => do
    let bits := (← sextet? first) * 64 + (← sextet? second)
    return [UInt8.ofNat (bits / 16)]
  | [first, second, third, '='] => do
    let bits := ((← sextet? first) * 64 + (← sextet? second)) * 64 + (← sextet? third)
    return [UInt8.ofNat (bits / 1024), UInt8.ofNat (bits / 4 % 256)]
  | first :: second :: third :: fourth :: rest => do
    let bits := (((← sextet? first) * 64 + (← sextet? second)) * 64 + (← sextet? third)) * 64 +
      (← sextet? fourth)
    return UInt8.ofNat (bits / 65536) :: UInt8.ofNat (bits / 256 % 256) ::
      UInt8.ofNat (bits % 256) :: (← base64Groups? rest)
  | _ => none

/-- The octets that a text stands for. -/
def base64? (text : List Char) : Option (List UInt8) :=
  base64Groups? (text.filter fun character => character ≠ '\n' && character ≠ '\r')

end DisplayFilter.Text
