/-
**Whole numbers in text are read back.**

A text stands for a whole number if it has digits, after at most one sign, and their value fits in
sixty-four bits with the sign. What is written in decimal is such a text.

* `Number.read_ok_iff`: which texts are read, and as what.
* `Number.Numeral`, `Number.read_ok_iff_numeral`: the same, told by the forms of the texts.
* `Number.numeral_decimalChars`: numbers of sixty-four bits are written as numerals.
-/

import DisplayFilter.Proofs.Json.Numbers
import Mathlib.Data.List.TakeWhile

namespace DisplayFilter

@[simp] theorem RawText.chars_ofChars (text : List Char) : (ofChars text).chars = text := by
  unfold chars ofChars
  rw [List.map_map]
  exact List.map_id text

namespace Number

/-- Whether a whole number is a signed number of sixty-four bits. -/
def Fits (number : Int) : Prop :=
  -(signedLimit : Int) ≤ number ∧ number < signedLimit

instance : DecidablePred Fits := fun number =>
  inferInstanceAs (Decidable (-(signedLimit : Int) ≤ number ∧ number < signedLimit))

/-! ### Digits -/

/-- A range of characters as a range of code points. -/
theorem between_iff {low high character : Char} :
    (decide (low ≤ character) && decide (character ≤ high)) = true ↔
      low.toNat ≤ character.toNat ∧ character.toNat ≤ high.toNat := by
  rw [Bool.and_eq_true, decide_eq_true_eq, decide_eq_true_eq]
  exact Iff.rfl

/-- The decimal digits and their values. -/
theorem digitIn?_ten (character : Char) :
    digitIn? 10 character = if isDigit character then some (character.toNat - 48) else none := by
  unfold digitIn? isDigit
  by_cases digit : (decide ('0' ≤ character) && decide (character ≤ '9')) = true
  · have bounds : 48 ≤ character.toNat ∧ character.toNat ≤ 57 := between_iff.mp digit
    simp only [digit, if_true]
    rw [if_pos (by omega)]
  · simp only [digit, if_false, Bool.false_eq_true]
    refine if_neg ?_
    split_ifs with lower upper
    · have bounds : 97 ≤ character.toNat ∧ character.toNat ≤ 102 := between_iff.mp lower
      omega
    · have bounds : 65 ≤ character.toNat ∧ character.toNat ≤ 70 := between_iff.mp upper
      omega
    · omega

/-- Digits stand for their value. -/
theorem inBase?_ten {text : List Char} (digits : ∀ character ∈ text, isDigit character = true) :
    inBase? 10 text = some (ofDigits text) := by
  have folded : ∀ value, text.foldlM
      (fun value character => (digitIn? 10 character).map (value * 10 + ·)) value =
      some (text.foldl (fun value character => value * 10 + (character.toNat - 48)) value) := by
    induction text with
    | nil => exact fun _ => rfl
    | cons first rest ih =>
      intro value
      obtain ⟨head, tail⟩ := List.forall_mem_cons.mp digits
      rw [List.foldlM_cons, digitIn?_ten, if_pos head]
      exact ih tail _
  exact folded 0

/-- The number of a magnitude with a sign, if it fits. -/
theorem signed?_eq_some_iff {negative : Bool} {magnitude : Nat} {number : Int} :
    signed? negative magnitude = some number ↔
      number = (if negative then -(magnitude : Int) else magnitude) ∧ Fits number := by
  have limit : signedLimit = 9223372036854775808 := rfl
  unfold signed? Fits
  cases negative with
  | false =>
    by_cases small : magnitude < signedLimit
    · simp only [Bool.false_eq_true, if_false, small, if_true, Option.some.injEq]
      omega
    · simp only [Bool.false_eq_true, if_false, small, reduceCtorEq, false_iff]
      omega
  | true =>
    by_cases small : magnitude ≤ signedLimit
    · simp only [if_true, small, Option.some.injEq]
      omega
    · simp only [if_true, small, if_false, reduceCtorEq, false_iff]
      omega

/-! ### Reading -/

/-- **A text is read exactly if it has digits after at most one sign whose value fits.** -/
theorem read_ok_iff {text : RawText} {number : Int} :
    read text = .ok number ↔ (splitSign text.chars).2 ≠ [] ∧
      (∀ character ∈ (splitSign text.chars).2, isDigit character = true) ∧
      signed? (splitSign text.chars).1 (ofDigits (splitSign text.chars).2) = some number := by
  unfold read readIn
  obtain ⟨negative, magnitude⟩ := splitSign text.chars
  have digitsOnly : (fun character => (digitIn? 10 character).isSome) = isDigit := by
    funext character
    rw [digitIn?_ten]
    cases isDigit character <;> rfl
  simp only [digitsOnly]
  by_cases digits : ∀ character ∈ magnitude, isDigit character = true
  · rw [List.takeWhile_eq_self_iff.mpr digits, inBase?_ten digits, Option.getD_some,
      and_iff_right digits]
    have beyond : unsignedLimit ≤ ofDigits magnitude →
        signed? negative (ofDigits magnitude) = none := by
      intro large
      have apart : signedLimit < unsignedLimit := by decide
      unfold signed?
      split <;> exact if_neg (by omega)
    by_cases none : magnitude = []
    · simp [none, ofDigits, unsignedLimit]
    by_cases large : unsignedLimit ≤ ofDigits magnitude
    · simp [large, beyond large]
    · cases signed? negative (ofDigits magnitude) <;> simp [large, none]
  · have shorter : (magnitude.takeWhile isDigit).length ≠ magnitude.length := by
      intro same
      exact digits (List.takeWhile_eq_self_iff.mp
        ((List.takeWhile_prefix isDigit).eq_of_length same))
    refine iff_of_false (fun read => ?_) fun both => digits both.2.1
    split at read
    · cases read
    · simp [shorter] at read

/-! ### Numerals -/

/-- Digits that stand for a number: at least one, and no other character. -/
structure AreDigits (text : List Char) : Prop where
  nonempty : text ≠ []
  each : ∀ character ∈ text, isDigit character = true

/-- The written forms that are read, and the numbers they stand for: digits behind at most one sign,
with a value of sixty-four bits. -/
inductive Numeral : List Char → Int → Prop
  | unsigned {digits : List Char} (decimal : AreDigits digits) (fits : Fits (ofDigits digits)) :
      Numeral digits (ofDigits digits)
  | positive {digits : List Char} (decimal : AreDigits digits) (fits : Fits (ofDigits digits)) :
      Numeral ('+' :: digits) (ofDigits digits)
  | negative {digits : List Char} (decimal : AreDigits digits) (fits : Fits (-ofDigits digits)) :
      Numeral ('-' :: digits) (-ofDigits digits)

namespace Numeral

variable {text : List Char} {number : Int}

/-- A numeral is a digit or a sign, then digits. -/
theorem cons (numeral : Numeral text number) : ∃ first rest, text = first :: rest ∧
    (isDigit first = true ∨ first = '+' ∨ first = '-') ∧
    ∀ character ∈ rest, isDigit character = true := by
  cases numeral with
  | unsigned decimal fits =>
    obtain ⟨first, rest, rfl⟩ := List.exists_cons_of_ne_nil decimal.nonempty
    obtain ⟨head, tail⟩ := List.forall_mem_cons.mp decimal.each
    exact ⟨first, rest, rfl, .inl head, tail⟩
  | positive decimal fits => exact ⟨'+', _, rfl, .inr (.inl rfl), decimal.each⟩
  | negative decimal fits => exact ⟨'-', _, rfl, .inr (.inr rfl), decimal.each⟩

theorem fits (numeral : Numeral text number) : Fits number := by
  cases numeral with
  | unsigned decimal fits => exact fits
  | positive decimal fits => exact fits
  | negative decimal fits => exact fits

theorem ne_nil (numeral : Numeral text number) : text ≠ [] := by
  obtain ⟨first, rest, rfl, _⟩ := numeral.cons
  exact List.cons_ne_nil _ _

theorem mem (numeral : Numeral text number) {character : Char} (member : character ∈ text) :
    isDigit character = true ∨ character = '+' ∨ character = '-' := by
  obtain ⟨first, rest, rfl, starts, digit⟩ := numeral.cons
  rcases List.mem_cons.mp member with rfl | later
  · exact starts
  · exact .inl (digit character later)

end Numeral

/-- Digits have no sign in front of them. -/
theorem splitSign_of_isDigit {text : List Char}
    (each : ∀ character ∈ text, isDigit character = true) : splitSign text = (false, text) := by
  unfold splitSign
  split
  · cases each '-' List.mem_cons_self
  · cases each '+' List.mem_cons_self
  · rfl

/-- **The texts that are read are the numerals.** -/
theorem read_ok_iff_numeral {text : RawText} {number : Int} :
    read text = .ok number ↔ Numeral text.chars number := by
  rw [read_ok_iff, signed?_eq_some_iff]
  generalize text.chars = written
  constructor
  · -- The sign that is split off tells which kind of numeral it is.
    unfold splitSign
    split
    · rintro ⟨nonempty, each, rfl, fits⟩
      exact .negative ⟨nonempty, each⟩ fits
    · rintro ⟨nonempty, each, rfl, fits⟩
      exact .positive ⟨nonempty, each⟩ fits
    · rintro ⟨nonempty, each, rfl, fits⟩
      exact .unsigned ⟨nonempty, each⟩ fits
  · intro numeral
    cases numeral with
    | unsigned decimal fits =>
      rw [splitSign_of_isDigit decimal.each]
      exact ⟨decimal.nonempty, decimal.each, rfl, fits⟩
    | positive decimal fits => exact ⟨decimal.nonempty, decimal.each, rfl, fits⟩
    | negative decimal fits => exact ⟨decimal.nonempty, decimal.each, rfl, fits⟩

/-! ### Reading what is written -/

/-- A number is written as a digit or a minus sign, then digits. -/
theorem decimalChars_cons (number : Int) : ∃ first rest, decimalChars number = first :: rest ∧
    (isDigit first = true ∨ first = '-') ∧ ∀ character ∈ rest, isDigit character = true := by
  cases number with
  | ofNat number =>
    obtain ⟨first, rest, written⟩ := List.exists_cons_of_ne_nil (digits_ne_nil number)
    have digit : ∀ character ∈ first :: rest, isDigit character = true :=
      fun character member => isDigit_of_mem_digits (written ▸ member)
    exact ⟨first, rest, written, .inl (digit first List.mem_cons_self),
      fun character member => digit character (List.mem_cons_of_mem _ member)⟩
  | negSucc number =>
    exact ⟨'-', digits (number + 1), rfl, .inr rfl, fun character => isDigit_of_mem_digits⟩

theorem mem_decimalChars {number : Int} {character : Char}
    (member : character ∈ decimalChars number) : isDigit character = true ∨ character = '-' := by
  obtain ⟨first, rest, written, starts, digit⟩ := decimalChars_cons number
  rw [written] at member
  rcases List.mem_cons.mp member with rfl | later
  · exact starts
  · exact .inl (digit character later)

theorem areDigits_digits (number : Nat) : AreDigits (digits number) :=
  ⟨digits_ne_nil number, fun _ => isDigit_of_mem_digits⟩

/-- What is written in decimal is a numeral. -/
theorem numeral_decimalChars {number : Int} (fits : Fits number) :
    Numeral (decimalChars number) number := by
  cases number with
  | ofNat number =>
    have numeral := Numeral.unsigned (areDigits_digits number)
    rw [ofDigits_digits] at numeral
    exact numeral fits
  | negSucc number =>
    have numeral := Numeral.negative (areDigits_digits (number + 1))
    rw [ofDigits_digits] at numeral
    exact numeral fits

end Number

end DisplayFilter
