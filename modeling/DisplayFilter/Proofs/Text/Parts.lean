/-
**Parts of a text.**

A text that is put together from parts with separators between them is taken apart into the same
parts, and nothing is taken off the ends of a text that holds none of what would be taken off.

Told the other way round, the parts of a text are those it can be put together from, and what its
ends leave is what they stand around.

* `Text.split_intercalate`: parts without separators are found again.
* `Text.trimBy_eq_self`, `Text.dropLeading_eq_self`, `Text.dropTrailing_eq_self`: texts that stay.
* `Text.Trimmed`, `Text.WithoutLeading`, `Text.WithoutTrailing`, `Text.Parted`: a text and what is
  left of it, told without the functions that find it.
* `Text.trimBy_eq_iff`, `Text.dropLeading_eq_iff`, `Text.dropTrailing_eq_iff`, `Text.parted_split`:
  the functions find exactly that.
-/

import DisplayFilter.Text.Blank
import Mathlib.Data.List.TakeWhile
import Mathlib.Tactic.Common

namespace DisplayFilter.Text

variable {α : Type}

/-! ### Parts put together -/

/-- What is put together holds the separator and what the parts hold. -/
theorem mem_intercalate {element separator : α} {parts : List (List α)}
    (member : element ∈ [separator].intercalate parts) :
    element = separator ∨ ∃ part ∈ parts, element ∈ part := by
  induction parts with
  | nil => cases member
  | cons part parts ih =>
    cases parts with
    | nil =>
      rw [List.intercalate_singleton] at member
      exact .inr ⟨part, List.mem_cons_self, member⟩
    | cons next others =>
      rw [List.intercalate_cons_cons, List.append_assoc, List.mem_append, List.mem_append,
        List.mem_singleton] at member
      rcases member with here | between | later
      · exact .inr ⟨part, List.mem_cons_self, here⟩
      · exact .inl between
      · exact (ih later).imp_right fun ⟨part, among, holds⟩ =>
          ⟨part, List.mem_cons_of_mem _ among, holds⟩

theorem map_intercalate {β : Type} (f : α → β) (separator : List α) (parts : List (List α)) :
    (separator.intercalate parts).map f =
      (separator.map f).intercalate (parts.map (List.map f)) := by
  induction parts with
  | nil => rfl
  | cons part parts ih =>
    cases parts with
    | nil => simp
    | cons next others => simpa using ih

/-! ### The ends of a text -/

/-- A text without the elements of a class around it. -/
structure Trimmed (belongs : α → Bool) (text kept : List α) : Prop where
  around : ∃ before behind, text = before ++ (kept ++ behind) ∧
    (∀ element ∈ before, belongs element = true) ∧ ∀ element ∈ behind, belongs element = true
  first : ∀ element ∈ kept.head?, belongs element = false
  last : ∀ element ∈ kept.getLast?, belongs element = false

/-- What is left behind the elements of a class does not start with one. -/
theorem head?_dropWhile {belongs : α → Bool} {list : List α} :
    ∀ element ∈ (list.dropWhile belongs).head?, belongs element = false := by
  intro element member
  have stops := List.head?_dropWhile_not belongs list
  rw [Option.mem_def.mp member] at stops
  simpa using stops

/-- A list stays if it does not start with an element of the class. -/
theorem dropWhile_of_head? {belongs : α → Bool} {list : List α}
    (first : ∀ element ∈ list.head?, belongs element = false) : list.dropWhile belongs = list := by
  cases list with
  | nil => rfl
  | cons head rest => exact List.dropWhile_cons_of_neg (by simp [first head rfl])

/-- Elements of the class in front of a list that starts with none are left out. -/
theorem dropWhile_append_of_head? {belongs : α → Bool} {before list : List α}
    (front : ∀ element ∈ before, belongs element = true)
    (first : ∀ element ∈ list.head?, belongs element = false) :
    (before ++ list).dropWhile belongs = list := by
  rw [List.dropWhile_append_of_pos front, dropWhile_of_head? first]

theorem trimmed_trimBy (belongs : α → Bool) (text : List α) :
    Trimmed belongs text (trimBy belongs text) := by
  have opened := List.takeWhile_append_dropWhile (p := belongs) (l := text)
  have closed : trimBy belongs text ++
      ((text.dropWhile belongs).reverse.takeWhile belongs).reverse = text.dropWhile belongs := by
    unfold trimBy
    rw [← List.reverse_append, List.takeWhile_append_dropWhile, List.reverse_reverse]
  refine ⟨⟨_, _, by rw [closed, opened], fun element member => ?_, fun element member => ?_⟩,
    fun element member => ?_, fun element member => ?_⟩
  · exact List.mem_takeWhile_imp member
  · exact List.mem_takeWhile_imp (List.mem_reverse.mp member)
  · have first : element ∈ (text.dropWhile belongs).head? := by
      rw [← closed, List.head?_append, Option.mem_def.mp member]
      rfl
    exact head?_dropWhile element first
  · unfold trimBy at member
    rw [List.getLast?_reverse] at member
    exact head?_dropWhile element member

/-- **A text is trimmed exactly to what its ends leave.** -/
theorem trimBy_eq_iff {belongs : α → Bool} {text kept : List α} :
    trimBy belongs text = kept ↔ Trimmed belongs text kept := by
  constructor
  · rintro rfl
    exact trimmed_trimBy belongs text
  · rintro ⟨⟨before, behind, rfl, front, back⟩, first, last⟩
    have turned : ∀ element ∈ kept.reverse.head?, belongs element = false := by
      rwa [List.head?_reverse]
    have reversed : ∀ element ∈ behind.reverse, belongs element = true := fun element member =>
      back element (List.mem_reverse.mp member)
    unfold trimBy
    cases kept with
    | nil =>
      rw [List.dropWhile_append_of_pos front, List.nil_append,
        List.dropWhile_eq_nil_iff.mpr back]
      rfl
    | cons head rest =>
      have opened : ∀ element ∈ (head :: rest ++ behind).head?, belongs element = false := first
      rw [dropWhile_append_of_head? front opened, List.reverse_append,
        dropWhile_append_of_head? reversed turned, List.reverse_reverse]

theorem trimBy_eq_self {belongs : α → Bool} {text : List α}
    (free : ∀ element ∈ text, belongs element = false) : trimBy belongs text = text := by
  refine trimBy_eq_iff.mpr ⟨⟨[], [], by simp, by simp, by simp⟩, fun element member => ?_,
    fun element member => ?_⟩
  · exact free element (List.mem_of_head? member)
  · exact free element (List.mem_of_getLast? member)

/-- A text without one given element in front of it, if it is there. -/
def WithoutLeading (element : α) (text kept : List α) : Prop :=
  text = element :: kept ∨ text.head? ≠ some element ∧ kept = text

/-- A text without one given element behind it, if it is there. -/
def WithoutTrailing (element : α) (text kept : List α) : Prop :=
  text = kept ++ [element] ∨ text.getLast? ≠ some element ∧ kept = text

variable [DecidableEq α]

theorem dropLeading_eq_iff {element : α} {text kept : List α} :
    dropLeading element text = kept ↔ WithoutLeading element text kept := by
  unfold WithoutLeading
  cases text with
  | nil => simp [dropLeading, eq_comm]
  | cons first rest =>
    by_cases same : first = element
    · simp [dropLeading, same]
    · simp only [dropLeading, same, if_false, List.cons.injEq, false_and, false_or,
        List.head?_cons, Option.some.injEq, ne_eq, not_false_eq_true, true_and]
      exact eq_comm

theorem dropTrailing_eq_iff {element : α} {text kept : List α} :
    dropTrailing element text = kept ↔ WithoutTrailing element text kept := by
  have turned : dropTrailing element text = kept ↔
      dropLeading element text.reverse = kept.reverse := List.reverse_eq_iff
  rw [turned, dropLeading_eq_iff]
  unfold WithoutLeading WithoutTrailing
  rw [List.head?_reverse, List.reverse_inj, List.reverse_eq_cons_iff, List.reverse_reverse]

theorem dropLeading_eq_self {element : α} {text : List α} (free : element ∉ text) :
    dropLeading element text = text :=
  dropLeading_eq_iff.mpr (.inr ⟨fun same => free (List.mem_of_head? same), rfl⟩)

theorem dropTrailing_eq_self {element : α} {text : List α} (free : element ∉ text) :
    dropTrailing element text = text :=
  dropTrailing_eq_iff.mpr (.inr ⟨fun same => free (List.mem_of_getLast? same), rfl⟩)

/-! ### Separators -/

/-- A part without separators is one part. -/
theorem split_of_not_mem {separator : α} {part : List α} (free : separator ∉ part) :
    split separator part = [part] := by
  induction part with
  | nil => rfl
  | cons first rest ih =>
    obtain ⟨different, later⟩ := not_or.mp (mt List.mem_cons.mpr free)
    rw [split, if_neg (Ne.symm different), ih later]

/-- The first part ends at the first separator. -/
theorem split_append {separator : α} {part : List α} (free : separator ∉ part) (rest : List α) :
    split separator (part ++ separator :: rest) = part :: split separator rest := by
  induction part with
  | nil => exact if_pos rfl
  | cons first front ih =>
    obtain ⟨different, later⟩ := not_or.mp (mt List.mem_cons.mpr free)
    rw [List.cons_append, split, if_neg (Ne.symm different), ih later]

/-- **Parts without separators are found again.** -/
theorem split_intercalate {separator : α} {parts : List (List α)}
    (free : ∀ part ∈ parts, separator ∉ part) (nonempty : parts ≠ []) :
    split separator ([separator].intercalate parts) = parts := by
  induction parts with
  | nil => exact absurd rfl nonempty
  | cons part parts ih =>
    obtain ⟨here, later⟩ := List.forall_mem_cons.mp free
    cases parts with
    | nil => rw [List.intercalate_singleton, split_of_not_mem here]
    | cons next others =>
      rw [List.intercalate_cons_cons, List.append_assoc, List.singleton_append, split_append here,
        ih later (List.cons_ne_nil _ _)]

/-- The parts of a text between the occurrences of a separator. -/
structure Parted (separator : α) (text : List α) (parts : List (List α)) : Prop where
  nonempty : parts ≠ []
  free : ∀ part ∈ parts, separator ∉ part
  joined : [separator].intercalate parts = text

theorem parted_split (separator : α) (text : List α) :
    Parted separator text (split separator text) := by
  induction text with
  | nil => exact ⟨List.cons_ne_nil _ _, List.forall_mem_singleton.mpr List.not_mem_nil, rfl⟩
  | cons first rest ih =>
    obtain ⟨part, parts, found⟩ := List.exists_cons_of_ne_nil ih.nonempty
    have free := ih.free
    have joined := ih.joined
    rw [found] at free joined
    by_cases same : first = separator
    · rw [split, if_pos same, found]
      refine ⟨List.cons_ne_nil _ _, List.forall_mem_cons.mpr ⟨List.not_mem_nil, free⟩, ?_⟩
      rw [List.intercalate_cons_cons, joined, same]
      rfl
    · rw [split, if_neg same, found]
      obtain ⟨here, later⟩ := List.forall_mem_cons.mp free
      refine ⟨List.cons_ne_nil _ _, List.forall_mem_cons.mpr ⟨?_, later⟩, ?_⟩
      · exact fun member => (List.mem_cons.mp member).elim (Ne.symm same) here
      · rw [← joined]
        cases parts <;> rfl

theorem split_eq_splitOn (separator : α) (text : List α) :
    split separator text = text.splitOn separator := by
  have parted := parted_split separator text
  rw [← List.splitOn_intercalate separator parted.free parted.nonempty, parted.joined]

theorem split_ne_nil (separator : α) (list : List α) : split separator list ≠ [] :=
  (parted_split separator list).nonempty

end DisplayFilter.Text
