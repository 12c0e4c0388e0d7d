/-
**Edits of a text.**

An edit inserts, deletes or substitutes one element anywhere in a text. How far two texts are apart is
the least number of edits that turn one into the other, so it is the same both ways. It obeys a
recursion on the first elements: no chain of edits is shorter than the recursion says, because one
edit changes what the recursion says about any other text by at most one.

The rows that are kept while a distance is computed hold what the recursion says about the prefixes of
the text along the row; as the recursion starts at the other end, the prefixes are read backwards.

* `Edit`, `Edits`: one edit and so many, one after another.
* `leastEdits`: the least number of edits between two texts.
* `levenshtein`: the recursion; `isLeast_levenshtein`: it finds the least number.
* `editDistance_eq_leastEdits`: so do the rows.
-/

import DisplayFilter.EditDistance
import Mathlib.Order.Lattice.Nat
import Mathlib.Tactic.Common

namespace DisplayFilter.Text

variable {α : Type}

/-! ### Edits -/

/-- One text is another with one element inserted, deleted or substituted. -/
inductive Edit : List α → List α → Prop where
  | insertion (front back : List α) (new : α) : Edit (front ++ back) (front ++ new :: back)
  | deletion (front back : List α) (old : α) : Edit (front ++ old :: back) (front ++ back)
  | substitution (front back : List α) (old new : α) :
    Edit (front ++ old :: back) (front ++ new :: back)

/-- So many edits, one after another, turn one text into another. -/
inductive Edits : Nat → List α → List α → Prop where
  | none (text : List α) : Edits 0 text text
  | more {count : Nat} {first next last : List α} :
    Edit first next → Edits count next last → Edits (count + 1) first last

/-- The least number of edits that turn one text into another. -/
noncomputable def leastEdits (first second : List α) : Nat :=
  sInf {count | Edits count first second}

variable {first second third : List α} {count more : Nat}

theorem Edit.symm (edit : Edit first second) : Edit second first := by
  cases edit with
  | insertion front back new => exact .deletion front back new
  | deletion front back old => exact .insertion front back old
  | substitution front back old new => exact .substitution front back new old

theorem Edit.cons (element : α) (edit : Edit first second) :
    Edit (element :: first) (element :: second) := by
  cases edit with
  | insertion front back new => exact .insertion (element :: front) back new
  | deletion front back old => exact .deletion (element :: front) back old
  | substitution front back old new => exact .substitution (element :: front) back old new

theorem Edit.reverse (edit : Edit first second) : Edit first.reverse second.reverse := by
  cases edit with
  | insertion front back new =>
    simpa using Edit.insertion back.reverse front.reverse new
  | deletion front back old =>
    simpa using Edit.deletion back.reverse front.reverse old
  | substitution front back old new =>
    simpa using Edit.substitution back.reverse front.reverse old new

theorem Edits.one (edit : Edit first second) : Edits 1 first second :=
  .more edit (.none second)

theorem Edits.trans (here : Edits count first second) (later : Edits more second third) :
    Edits (count + more) first third := by
  induction here with
  | none => rwa [Nat.zero_add]
  | more edit _ ih =>
    rw [Nat.add_right_comm]
    exact .more edit (ih later)

/-- What keeps single edits keeps chains of them. -/
theorem Edits.map {β : Type} (f : List α → List β)
    (keeps : ∀ first second, Edit first second → Edit (f first) (f second))
    (edits : Edits count first second) : Edits count (f first) (f second) := by
  induction edits with
  | none text => exact .none (f text)
  | more edit _ ih => exact .more (keeps _ _ edit) ih

theorem Edits.symm (edits : Edits count first second) : Edits count second first := by
  induction edits with
  | none text => exact .none text
  | more edit _ ih => exact ih.trans (.one edit.symm)

theorem Edits.cons (element : α) (edits : Edits count first second) :
    Edits count (element :: first) (element :: second) :=
  edits.map (List.cons element) fun _ _ => Edit.cons element

theorem Edits.reverse (edits : Edits count first second) :
    Edits count first.reverse second.reverse :=
  edits.map List.reverse fun _ _ => Edit.reverse

theorem edits_comm : Edits count first second ↔ Edits count second first :=
  ⟨Edits.symm, Edits.symm⟩

theorem edits_reverse : Edits count first.reverse second.reverse ↔ Edits count first second := by
  constructor
  · intro edits
    simpa using edits.reverse
  · exact Edits.reverse

/-- Edits can be counted from either text. -/
theorem leastEdits_comm (first second : List α) : leastEdits first second = leastEdits second first := by
  unfold leastEdits
  congr 1
  ext count
  exact edits_comm

/-- Texts read backwards are as far apart. -/
theorem leastEdits_reverse (first second : List α) :
    leastEdits first.reverse second.reverse = leastEdits first second := by
  simp only [leastEdits, edits_reverse]

/-! ### The recursion -/

variable [DecidableEq α]

/-- How far two texts are apart, by their first elements: one of them is deleted or inserted, or both
are matched, at a cost if they differ. -/
def levenshtein : List α → List α → Nat
  | [], second => second.length
  | first, [] => first.length
  | x :: first, y :: second =>
    min (min (levenshtein (x :: first) second + 1) (levenshtein first (y :: second) + 1))
      (levenshtein first second + if x = y then 0 else 1)

@[simp]
theorem levenshtein_nil_left (second : List α) : levenshtein [] second = second.length := by
  rw [levenshtein]

@[simp]
theorem levenshtein_nil_right (first : List α) : levenshtein first [] = first.length := by
  cases first <;> simp [levenshtein]

theorem levenshtein_cons_cons (x y : α) (first second : List α) :
    levenshtein (x :: first) (y :: second) =
      min (min (levenshtein (x :: first) second + 1) (levenshtein first (y :: second) + 1))
        (levenshtein first second + if x = y then 0 else 1) := by
  rw [levenshtein]

/-- The recursion counts a chain of edits. -/
theorem edits_levenshtein (first second : List α) :
    Edits (levenshtein first second) first second := by
  have deleting {x : α} {first second : List α} {count : Nat} (edits : Edits count first second) :
      Edits (count + 1) (x :: first) second := .more (.deletion [] first x) edits
  have inserting {y : α} {first second : List α} {count : Nat} (edits : Edits count first second) :
      Edits (count + 1) first (y :: second) := (deleting edits.symm).symm
  induction first generalizing second with
  | nil =>
    induction second with
    | nil => simpa using Edits.none []
    | cons y second ih => simpa using inserting ih
  | cons x first outer =>
    induction second with
    | nil => simpa using deleting (outer [])
    | cons y second inner =>
      rw [levenshtein_cons_cons]
      have matching : Edits (levenshtein first second + if x = y then 0 else 1) (x :: first)
          (y :: second) := by
        by_cases same : x = y
        · simpa [same] using (outer second).cons y
        · rw [if_neg same]
          exact ((outer second).cons x).trans (.one (.substitution [] second x y))
      rcases min_choice (min (levenshtein (x :: first) second + 1)
        (levenshtein first (y :: second) + 1)) (levenshtein first second + if x = y then 0 else 1)
        with least | least
      · rw [least]
        rcases min_choice (levenshtein (x :: first) second + 1)
          (levenshtein first (y :: second) + 1) with least | least
        · rw [least]
          exact inserting inner
        · rw [least]
          exact deleting (outer (y :: second))
      · rw [least]
        exact matching

/-! One edit changes the recursion by at most one. -/

theorem levenshtein_cons_left_le (x : α) (first second : List α) :
    levenshtein (x :: first) second ≤ levenshtein first second + 1 := by
  cases second with
  | nil => simp
  | cons y second =>
    rw [levenshtein_cons_cons]
    exact (min_le_left _ _).trans (min_le_right _ _)

theorem levenshtein_cons_right_le (y : α) (first second : List α) :
    levenshtein first (y :: second) ≤ levenshtein first second + 1 := by
  cases first with
  | nil => simp
  | cons x first =>
    rw [levenshtein_cons_cons]
    exact (min_le_left _ _).trans (min_le_left _ _)

theorem levenshtein_le_cons_left (x : α) (first second : List α) :
    levenshtein first second ≤ levenshtein (x :: first) second + 1 := by
  induction second with
  | nil =>
    simp only [levenshtein_nil_right, List.length_cons]
    omega
  | cons y second ih =>
    have raised := levenshtein_cons_right_le y first second
    rw [levenshtein_cons_cons]
    omega

theorem levenshtein_substitution_le (x y : α) (first second : List α) :
    levenshtein (x :: first) second ≤ levenshtein (y :: first) second + 1 := by
  induction second with
  | nil => simp
  | cons z second ih =>
    have deleted := levenshtein_cons_left_le x first (z :: second)
    have inserted := levenshtein_cons_right_le z (x :: first) second
    have matched : levenshtein (x :: first) (z :: second) ≤ levenshtein first second + 1 := by
      rw [levenshtein_cons_cons]
      split <;> omega
    rw [levenshtein_cons_cons y]
    omega

/-- What holds of two texts and all others holds with one more element in front of the two. -/
theorem levenshtein_cons_le {first next : List α}
    (near : ∀ second, levenshtein first second ≤ levenshtein next second + 1) (x : α)
    (second : List α) : levenshtein (x :: first) second ≤ levenshtein (x :: next) second + 1 := by
  induction second with
  | nil => simpa using near []
  | cons y second ih =>
    have here := near (y :: second)
    have behind := near second
    rw [levenshtein_cons_cons, levenshtein_cons_cons]
    omega

theorem Edit.levenshtein_le (edit : Edit first second) (other : List α) :
    levenshtein first other ≤ levenshtein second other + 1 := by
  cases edit with
  | insertion front back new =>
    induction front generalizing other with
    | nil => exact levenshtein_le_cons_left new back other
    | cons x front ih => exact levenshtein_cons_le ih x other
  | deletion front back old =>
    induction front generalizing other with
    | nil => exact levenshtein_cons_left_le old back other
    | cons x front ih => exact levenshtein_cons_le ih x other
  | substitution front back old new =>
    induction front generalizing other with
    | nil => exact levenshtein_substitution_le old new back other
    | cons x front ih => exact levenshtein_cons_le ih x other

/-- No chain of edits is shorter than the recursion says. -/
theorem Edits.levenshtein_le (edits : Edits count first second) :
    levenshtein first second ≤ count := by
  induction edits with
  | none text =>
    induction text with
    | nil => simp
    | cons x text ih =>
      rw [levenshtein_cons_cons, if_pos rfl]
      omega
  | more edit _ ih => exact (edit.levenshtein_le _).trans (Nat.succ_le_succ ih)

/-- **The recursion finds the least number of edits.** -/
theorem isLeast_levenshtein (first second : List α) :
    IsLeast {count | Edits count first second} (levenshtein first second) :=
  ⟨edits_levenshtein first second, fun _ edits => edits.levenshtein_le⟩

theorem leastEdits_eq_levenshtein (first second : List α) :
    leastEdits first second = levenshtein first second :=
  (isLeast_levenshtein first second).csInf_eq

theorem levenshtein_comm (first second : List α) :
    levenshtein first second = levenshtein second first := by
  rw [← leastEdits_eq_levenshtein, leastEdits_comm, leastEdits_eq_levenshtein]

theorem levenshtein_reverse (first second : List α) :
    levenshtein first.reverse second.reverse = levenshtein first second := by
  rw [← leastEdits_eq_levenshtein, leastEdits_reverse, leastEdits_eq_levenshtein]

/-! ### Rows -/

/-- The distances of a text read so far and of its continuations along the row, both read backwards,
from what has been read of the other text. -/
def distancesAlong (down read : List Char) : List Char → List Nat
  | [] => [levenshtein read down]
  | along :: text => levenshtein read down :: distancesAlong down (along :: read) text

theorem headD_distancesAlong (down read text : List Char) :
    (distancesAlong down read text).headD 0 = levenshtein read down := by
  cases text <;> rfl

theorem getLastD_distancesAlong (down read text : List Char) :
    (distancesAlong down read text).getLastD 0 = levenshtein (text.reverse ++ read) down := by
  induction text generalizing read with
  | nil => rfl
  | cons along text ih =>
    have next := ih (along :: read)
    rw [List.reverse_cons, List.append_assoc, List.singleton_append, ← next]
    cases text <;> rfl

theorem firstRow_eq_distancesAlong (text : List Char) : firstRow text = distancesAlong [] [] text := by
  have counted (read : List Char) :
      distancesAlong [] read text = List.range' read.length (text.length + 1) := by
    induction text generalizing read with
    | nil => simp [distancesAlong]
    | cons along text ih => simp [distancesAlong, ih, List.range'_succ]
  rw [counted, firstRow, List.range_eq_range']
  rfl

/-- The entries right of a correct entry are correct if the row above is. -/
theorem rowTail_distancesAlong (character : Char) (down read text : List Char) :
    levenshtein read (character :: down) ::
        rowTail character (levenshtein read (character :: down)) text (distancesAlong down read text) =
      distancesAlong (character :: down) read text := by
  induction text generalizing read with
  | nil => rfl
  | cons along text ih =>
    have above : ∃ row, distancesAlong down (along :: read) text =
        levenshtein (along :: read) down :: row := by
      cases text <;> exact ⟨_, rfl⟩
    obtain ⟨row, found⟩ := above
    rw [distancesAlong, distancesAlong, found, rowTail, ← levenshtein_cons_cons, ← found, ih]

/-- **A row is followed by the right one.** -/
theorem nextRow_distancesAlong (character : Char) (down text : List Char) :
    nextRow text (distancesAlong down [] text) character =
      distancesAlong (character :: down) [] text := by
  have first : levenshtein [] down + 1 = levenshtein [] (character :: down) := by simp
  rw [nextRow, headD_distancesAlong, first]
  exact rowTail_distancesAlong character down [] text

theorem foldl_nextRow (text read down : List Char) :
    down.foldl (nextRow text) (distancesAlong read [] text) =
      distancesAlong (down.reverse ++ read) [] text := by
  induction down generalizing read with
  | nil => rfl
  | cons character down ih =>
    rw [List.foldl_cons, nextRow_distancesAlong, ih, List.reverse_cons, List.append_assoc,
      List.singleton_append]

theorem rowDistance_eq_levenshtein (along down : List Char) :
    rowDistance along down = levenshtein along down := by
  rw [rowDistance, firstRow_eq_distancesAlong, foldl_nextRow, getLastD_distancesAlong,
    List.append_nil, List.append_nil, levenshtein_reverse]

theorem editDistance_eq_levenshtein (first second : List Char) :
    editDistance first second = levenshtein first second := by
  unfold editDistance
  split
  · rw [rowDistance_eq_levenshtein, levenshtein_comm]
  · exact rowDistance_eq_levenshtein first second

/-- **The computed distance is the least number of edits.** -/
theorem editDistance_eq_leastEdits (first second : List Char) :
    editDistance first second = leastEdits first second := by
  rw [editDistance_eq_levenshtein, leastEdits_eq_levenshtein]

end DisplayFilter.Text
