/-
**The distance of two texts.**

The distance of two texts is the least number of edits between them, and so it is a metric: only equal
texts are at distance zero, it is the same both ways, and no detour over a third text is shorter.

Two rows are enough to compute it, each written over in turn. The row that is written over still holds
what an older row left there; an entry is read only after it has been written again, so nothing of the
older row shows. What a row is trusted for is therefore told up to a place: entries up to there belong
to the prefixes of the two texts, and nothing is said about the others.

* `levenshtein_concat`: the recursion, at the last elements instead of the first ones.
* `levenshtein_eq_zero_iff`, `levenshtein_triangle`: the laws of a metric.
* `Rows`, `twoRowDistance`: the rows that are written over, and the distance they give.
* `TellsUpTo`: what a row is trusted for; `TellsUpTo.write` for one entry, `Rows.next_tells` for a row,
  `Rows.behind_tells` for all rows.
* `editDistance_isMetric`: all of this for the distance that suggestions are ranked by.
-/

import DisplayFilter.Proofs.Text.Edits

namespace DisplayFilter.Text

/-! ### The laws of a metric -/

section Metric

variable {α : Type} [DecidableEq α]

/-- The recursion can start at the ends of the texts. -/
theorem levenshtein_concat (x y : α) (first second : List α) :
    levenshtein (first ++ [x]) (second ++ [y]) =
      min (min (levenshtein (first ++ [x]) second + 1) (levenshtein first (second ++ [y]) + 1))
        (levenshtein first second + if x = y then 0 else 1) := by
  have backwards := levenshtein_cons_cons x y first.reverse second.reverse
  simpa only [← List.reverse_concat, levenshtein_reverse] using backwards

/-- Only equal texts are at distance zero. -/
theorem levenshtein_eq_zero_iff {first second : List α} :
    levenshtein first second = 0 ↔ first = second := by
  constructor
  · intro zero
    have edits := edits_levenshtein first second
    rw [zero] at edits
    cases edits
    rfl
  · rintro rfl
    exact Nat.le_zero.mp (Edits.none first).levenshtein_le

/-- A detour over a third text is no shorter. -/
theorem levenshtein_triangle (first second third : List α) :
    levenshtein first third ≤ levenshtein first second + levenshtein second third :=
  ((edits_levenshtein first second).trans (edits_levenshtein second third)).levenshtein_le

end Metric

/-! ### Two rows -/

/-- The row that is finished, and the one that the next row is written over. -/
structure Rows (text : List Char) where
  finished : Vector Nat (text.length + 1)
  spare : Vector Nat (text.length + 1)

namespace Rows

variable {text : List Char}

/-- The rows before any character of the other text. -/
def start (text : List Char) : Rows text where
  finished := Vector.ofFn fun place => place
  spare := Vector.replicate (text.length + 1) 0

/-- A row with one more entry, from the entry before it and the two in the row above. -/
def write (above : Vector Nat (text.length + 1)) (character : Char)
    (row : Vector Nat (text.length + 1)) (place : Fin text.length) : Vector Nat (text.length + 1) :=
  let cost := if text[place] = character then 0 else 1
  row.set (place + 1) (min (min (above[place.succ] + 1) (row[place.castSucc] + 1))
    (above[place.castSucc] + cost))

/-- The rows after one more character: its row is written over the spare one, from left to right, and
the row above becomes the spare one. -/
def next (rows : Rows text) (character : Char) (count : Nat) : Rows text where
  finished := Fin.foldl text.length (write rows.finished character) (rows.spare.set 0 count)
  spare := rows.finished

/-- The rows after all characters of the other text. -/
def behind (along down : List Char) : Rows along :=
  Fin.foldl down.length (fun rows place => rows.next down[place] (place + 1)) (start along)

end Rows

/-- The last entry of the last row. -/
def lastEntry (along down : List Char) : Nat :=
  (Rows.behind along down).finished[along.length]

/-- The distance of two texts with two rows, which go along the shorter text. -/
def twoRowDistance (first second : List Char) : Nat :=
  if second.length < first.length then lastEntry second first else lastEntry first second

/-! ### What a row is trusted for -/

/-- What a loop keeps, by the number of its rounds, holds behind the last one. -/
theorem foldl_keeps {α : Type} {rounds : Nat} {motive : Nat → α → Prop} {step : α → Fin rounds → α}
    {state : α} (start : motive 0 state)
    (kept : ∀ (round : Fin rounds) (state : α), motive round state →
      motive (round + 1) (step state round)) :
    motive rounds (Fin.foldl rounds step state) := by
  induction rounds with
  | zero => exact start
  | succ rounds ih =>
    rw [Fin.foldl_succ_last]
    exact kept (Fin.last rounds) _ (ih fun round => kept round.castSucc)

/-- The entries up to a place tell how far the prefixes of the text along the row are from what was
read of the other text. -/
def TellsUpTo {text : List Char} (reach : Nat) (read : List Char)
    (row : Vector Nat (text.length + 1)) : Prop :=
  ∀ place : Fin (text.length + 1), place ≤ reach → row[place] = levenshtein (text.take place) read

variable {text read : List Char} {above row : Vector Nat (text.length + 1)}

/-- **One more entry is right**, whatever stands behind it. -/
theorem TellsUpTo.write {character : Char} {place : Fin text.length}
    (upper : TellsUpTo text.length read above)
    (before : TellsUpTo place (read ++ [character]) row) :
    TellsUpTo (place + 1) (read ++ [character]) (Rows.write above character row place) := by
  intro entry within
  -- The new entry obeys the recursion; the entries before it are as they were.
  by_cases written : entry = place.succ
  · subst written
    have extended : text.take place.succ = text.take place ++ [text[place]] :=
      List.take_succ_eq_append_getElem place.isLt
    have straight : above[place.succ] = levenshtein (text.take place ++ [text[place]]) read :=
      extended ▸ upper place.succ place.isLt
    have left : row[place.castSucc] = levenshtein (text.take place) (read ++ [character]) :=
      before place.castSucc (Nat.le_refl _)
    have diagonal : above[place.castSucc] = levenshtein (text.take place) read :=
      upper place.castSucc place.isLt.le
    rw [extended, levenshtein_concat, ← straight, ← left, ← diagonal]
    simp [Rows.write]
  · have apart : (place : Nat) + 1 ≠ entry := fun same => written (Fin.ext same.symm)
    rw [← before entry (by omega)]
    simp [Rows.write, Vector.getElem_set_ne, apart]

namespace Rows

theorem start_tells (text : List Char) : TellsUpTo text.length [] (start text).finished := by
  intro entry _
  have inside : (entry : Nat) ≤ text.length := Nat.le_of_lt_succ entry.isLt
  simp [start, inside]

/-- **A row is right if the row above is**, whatever the row that it is written over held. -/
theorem next_tells {rows : Rows text} (character : Char)
    (upper : TellsUpTo text.length read rows.finished) :
    TellsUpTo text.length (read ++ [character])
      (rows.next character (read.length + 1)).finished := by
  apply foldl_keeps (motive := fun count row => TellsUpTo count (read ++ [character]) row)
  · intro entry first
    obtain rfl : entry = 0 := Fin.ext (Nat.le_zero.mp first)
    simp
  · intro place row before
    exact upper.write before

/-- **The last row is right.** -/
theorem behind_tells (along down : List Char) :
    TellsUpTo along.length down (behind along down).finished := by
  -- Only the finished row is told about: the spare one still holds an older row.
  have told : TellsUpTo along.length (down.take down.length) (behind along down).finished := by
    apply foldl_keeps (motive := fun count (rows : Rows along) =>
      TellsUpTo along.length (down.take count) rows.finished)
    · exact start_tells along
    · intro place rows upper
      have counted : (down.take place).length = place := by simp
      have below := next_tells down[place] upper
      rw [counted] at below
      rw [List.take_succ_eq_append_getElem place.isLt]
      exact below
  rwa [List.take_length] at told

end Rows

theorem lastEntry_eq_levenshtein (along down : List Char) :
    lastEntry along down = levenshtein along down := by
  have last := Rows.behind_tells along down (Fin.last along.length) (Nat.le_refl _)
  simpa [lastEntry] using last

theorem twoRowDistance_eq_levenshtein (first second : List Char) :
    twoRowDistance first second = levenshtein first second := by
  unfold twoRowDistance
  split
  · rw [lastEntry_eq_levenshtein, levenshtein_comm]
  · exact lastEntry_eq_levenshtein first second

/-! ### The distance -/

/-- **The distance of two texts is the least number of edits between them, and a metric.** Two rows
that are written over in turn give it. It is what the recursion says, so no chain of edits is shorter.
It is the same both ways, although the rows go along the shorter text; it is zero between equal texts
only, and a detour is no shorter. -/
theorem editDistance_isMetric (first second : String) :
    twoRowDistance first.toList second.toList = editDistance first.toList second.toList ∧
      editDistance first.toList second.toList = levenshtein first.toList second.toList ∧
      IsLeast {count | Edits count first.toList second.toList}
        (editDistance first.toList second.toList) ∧
      editDistance first.toList second.toList = editDistance second.toList first.toList ∧
      (editDistance first.toList second.toList = 0 ↔ first = second) ∧
      ∀ third : String, editDistance first.toList third.toList ≤
        editDistance first.toList second.toList + editDistance second.toList third.toList := by
  refine ⟨?_, editDistance_eq_levenshtein _ _, ?_⟩
  · rw [twoRowDistance_eq_levenshtein, editDistance_eq_levenshtein]
  · simp only [editDistance_eq_levenshtein]
    refine ⟨isLeast_levenshtein _ _, levenshtein_comm _ _, ?_,
      fun third => levenshtein_triangle _ _ _⟩
    rw [levenshtein_eq_zero_iff, String.toList_inj]

example : editDistance "kitten".toList "sitting".toList = 3 := by decide

end DisplayFilter.Text
