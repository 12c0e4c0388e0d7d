/-
**Whole numbers in JSON documents.**

A document holds whole numbers as their decimal digits, from which they are read back.

* `Number.ofDigits_digits`: the digits of a natural number stand for it.
* `JsonValue.toInt_ofInt`: whole numbers are read back.
-/

import DisplayFilter.Program.Json

namespace DisplayFilter

namespace Number

/-- The digit of a number below ten. -/
theorem toNat_digit : ∀ digit < 10, (Char.ofNat (48 + digit)).toNat = 48 + digit := by
  decide

theorem isDigit_digit : ∀ digit < 10, isDigit (Char.ofNat (48 + digit)) = true := by
  decide

theorem isDigit_of_mem_digits {number : Nat} {character : Char}
    (member : character ∈ digits number) : isDigit character = true := by
  induction number using Nat.strongRecOn with
  | ind number ih =>
    rw [digits] at member
    split at member
    · rename_i small
      rw [List.mem_singleton.mp member]
      exact isDigit_digit number small
    · rcases List.mem_append.mp member with front | last
      · exact ih _ (by omega) front
      · rw [List.mem_singleton.mp last]
        exact isDigit_digit _ (Nat.mod_lt _ (by decide))

theorem digits_ne_nil (number : Nat) : digits number ≠ [] := by
  rw [digits]
  split
  · exact List.cons_ne_nil _ _
  · exact List.append_ne_nil_of_right_ne_nil _ (List.cons_ne_nil _ _)

/-- **The digits of a number stand for it.** -/
theorem ofDigits_digits (number : Nat) : ofDigits (digits number) = number := by
  induction number using Nat.strongRecOn with
  | ind number ih =>
    rw [digits]
    split
    · rename_i small
      rw [ofDigits, List.foldl_cons, List.foldl_nil, toNat_digit number small]
      omega
    · have front := ih (number / 10) (by omega)
      unfold ofDigits at front
      rw [ofDigits, List.foldl_append, front, List.foldl_cons, List.foldl_nil,
        toNat_digit _ (Nat.mod_lt _ (by decide))]
      omega

/-- The whole number that an optional minus sign and digits stand for. -/
def ofDecimal : List Char → Int
  | '-' :: magnitude => -(ofDigits magnitude : Int)
  | magnitude => ofDigits magnitude

/-- **Whole numbers are read back.** -/
theorem ofDecimal_decimalChars (number : Int) : ofDecimal (decimalChars number) = number := by
  match number with
  | .ofNat number =>
    unfold decimalChars ofDecimal
    split
    · -- No natural number is written with a sign.
      rename_i magnitude signed
      have digit : isDigit '-' = true := isDigit_of_mem_digits (signed ▸ List.mem_cons_self)
      cases digit
    · rw [ofDigits_digits]
      rfl
  | .negSucc number =>
    rw [decimalChars, ofDecimal, ofDigits_digits]
    rfl

end Number

namespace JsonValue

/-- The whole number that a JSON number stands for. -/
def toInt : JsonValue → Int
  | .number text => Number.ofDecimal text.toList
  | _ => 0

@[simp] theorem toInt_ofInt (number : Int) : (ofInt number).toInt = number := by
  rw [ofInt, toInt, Number.decimal, String.toList_ofList, Number.ofDecimal_decimalChars]

end JsonValue

end DisplayFilter
