/-
**The nearest candidates are suggested.**

The suggestions for a name are told without the functions that find them: the candidates that are
near enough, each as often as it was offered, are ranked by their distance and, where that is the
same, by their octets; the first few of the ranking are suggested. Candidates of the same rank are the
same text, so there is only one ranking, and the order in which the candidates were offered does not
show.

* `IsNear`: a candidate near enough to a name.
* `Ranking`: the near candidates in order; `Ranking.unique`: there is at most one such list.
* `ranking_mergeSort`: sorting finds it.
* `suggest_nearest`: the first few of the one ranking are suggested.
-/

import DisplayFilter.Suggestion
import DisplayFilter.Proofs.Json.Compact
import DisplayFilter.Proofs.Text.Edits
import DisplayFilter.Proofs.Text.Parts
import Mathlib.Algebra.GroupWithZero.Nat

namespace DisplayFilter

/-! ### Octets -/

namespace RawText

theorem chars_ofString (text : String) : (ofString text).chars = text.toList := by
  have shown := congrArg String.toList (shown_ofString text)
  rwa [RawText.shown, String.toList_ofList] at shown

theorem toByteArray_octets_ofString (text : String) :
    (ofString text).octets.toByteArray = text.toByteArray := by
  rw [← String.utf8Encode_toList, List.utf8Encode, octets, ofString, ofChars, List.flatMap_map]
  rfl

theorem length_octets_ofString (text : String) :
    (ofString text).octets.length = text.utf8ByteSize := by
  rw [← List.size_toByteArray, toByteArray_octets_ofString, String.size_toByteArray]

/-- A text is told by its octets. -/
theorem octets_ofString_inj {first second : String} :
    (ofString first).octets = (ofString second).octets ↔ first = second := by
  constructor
  · intro same
    rw [← String.toByteArray_inj, ← toByteArray_octets_ofString, same, toByteArray_octets_ofString]
  · exact congrArg fun text => (ofString text).octets

theorem ofString_inj {first second : String} : ofString first = ofString second ↔ first = second :=
  ⟨fun same => octets_ofString_inj.mp (congrArg octets same), congrArg ofString⟩

theorem isEmpty_ofString (text : String) : (ofString text).isEmpty ↔ text = "" := by
  simp [isEmpty, ofString, ofChars]

end RawText

namespace Suggestion

/-! ### Near candidates -/

/-- The parts of a name between the dots. -/
def parts (name : String) : List (List Char) :=
  name.toList.splitOn '.'

/-- How far a candidate is from a name: the least numbers of edits of its parts, added up. -/
noncomputable def apart (target candidate : String) : Nat :=
  (List.zipWith Text.leastEdits (parts target) (parts candidate)).sum

/-- A candidate that is near enough to a name to be suggested for it. -/
structure IsNear (target candidate : String) : Prop where
  nonempty : candidate ≠ ""
  different : candidate ≠ target
  sameParts : (parts candidate).length = (parts target).length
  within : apart target candidate ≤
    if target.utf8ByteSize ≤ 3 then 1 else if target.utf8ByteSize ≤ 6 then 2 else 3

/-- A candidate as a suggestion for a name. -/
noncomputable def offer (target candidate : String) : Suggestion :=
  ⟨candidate, apart target candidate⟩

theorem distance?_ofString (target candidate : String) :
    distance? target candidate =
      if (parts candidate).length = (parts target).length then some (apart target candidate)
      else none := by
  have split (name : String) : Text.split '.' (RawText.ofString name).chars = parts name := by
    rw [RawText.chars_ofString, parts, Text.split_eq_splitOn]
  have summed : (((parts target).zip (parts candidate)).map fun pair =>
      editDistance pair.1 pair.2).foldl (· + ·) 0 = apart target candidate := by
    rw [← List.sum_eq_foldl_nat, List.map_zip_eq_zipWith]
    simp only [Text.editDistance_eq_leastEdits]
    rfl
  simp only [distance?, split, summed]

open scoped Classical in
/-- Exactly the near candidates are offered. -/
theorem ofCandidate?_ofString (target candidate : String) :
    ofCandidate? target candidate =
      if IsNear target candidate then some (offer target candidate) else none := by
  have reach : threshold target =
      if target.utf8ByteSize ≤ 3 then 1 else if target.utf8ByteSize ≤ 6 then 2 else 3 := by
    rw [threshold, RawText.length_octets_ofString]
  have near : IsNear target candidate ↔ ¬ (candidate = "" ∨ candidate = target) ∧
      (parts candidate).length = (parts target).length ∧
      apart target candidate ≤ threshold target := by
    rw [reach, not_or]
    constructor
    · rintro ⟨nonempty, different, sameParts, within⟩
      exact ⟨⟨nonempty, different⟩, sameParts, within⟩
    · rintro ⟨⟨nonempty, different⟩, sameParts, within⟩
      exact ⟨nonempty, different, sameParts, within⟩
  simp only [ofCandidate?, distance?_ofString, RawText.isEmpty_ofString, RawText.ofString_inj, near]
  by_cases excluded : candidate = "" ∨ candidate = target
  · simp [excluded]
  · by_cases sameParts : (parts candidate).length = (parts target).length
    · simp [excluded, sameParts, offer]
    · simp [excluded, sameParts]

/-! ### Rankings -/

/-- Nearer suggestions come first, and among equally near ones those with the lesser octets. -/
def Precedes (first second : Suggestion) : Prop :=
  first.distance < second.distance ∨
    first.distance = second.distance ∧ first.value.octets ≤ second.value.octets

open scoped Classical in
/-- The near ones among the candidates, each as often as it is there, in order. -/
structure Ranking (target : String) (candidates : List String) (ranking : List Suggestion) :
    Prop where
  members : ranking.Perm
    ((candidates.filter fun candidate => IsNear target candidate).map (offer target))
  ascending : ranking.Pairwise Precedes

theorem precedes_iff {first second : Suggestion} : precedes first second ↔ Precedes first second := by
  simp [precedes, RawText.precedes, Precedes]

theorem Precedes.trans {first second third : Suggestion} (here : Precedes first second)
    (later : Precedes second third) : Precedes first third := by
  rcases here with here | ⟨same, here⟩
  · rcases later with later | ⟨also, later⟩
    · exact .inl (here.trans later)
    · exact .inl (also ▸ here)
  · rcases later with later | ⟨also, later⟩
    · exact .inl (same ▸ later)
    · exact .inr ⟨same.trans also, List.le_trans here later⟩

theorem Precedes.total (first second : Suggestion) :
    Precedes first second ∨ Precedes second first := by
  rcases lt_trichotomy first.distance second.distance with nearer | same | farther
  · exact .inl (.inl nearer)
  · rcases List.le_total first.value.octets second.value.octets with before | behind
    · exact .inl (.inr ⟨same, before⟩)
    · exact .inr (.inr ⟨same.symm, behind⟩)
  · exact .inr (.inl farther)

/-- Candidates of the same rank are the same. -/
theorem Precedes.antisymm {target first second : String}
    (before : Precedes (offer target first) (offer target second))
    (behind : Precedes (offer target second) (offer target first)) : first = second := by
  rcases before with nearer | ⟨same, before⟩
  · rcases behind with farther | ⟨same, -⟩
    · exact absurd nearer farther.asymm
    · exact absurd nearer same.not_gt
  · rcases behind with farther | ⟨-, behind⟩
    · exact absurd same farther.ne'
    · exact RawText.octets_ofString_inj.mp (List.le_antisymm before behind)

variable {target : String} {candidates others : List String} {ranking other : List Suggestion}

/-- **There is at most one ranking.** -/
theorem Ranking.unique (ranked : Ranking target candidates ranking)
    (also : Ranking target candidates other) : ranking = other := by
  refine List.Perm.eq_of_pairwise (fun first second here there before behind => ?_) ranked.ascending
    also.ascending (ranked.members.trans also.members.symm)
  obtain ⟨one, -, rfl⟩ := List.mem_map.mp (ranked.members.subset here)
  obtain ⟨two, -, rfl⟩ := List.mem_map.mp (also.members.subset there)
  rw [before.antisymm behind]

/-- The order in which candidates are offered does not change the ranking. -/
theorem Ranking.of_perm (ranked : Ranking target others ranking)
    (same : others.Perm candidates) : Ranking target candidates ranking :=
  ⟨ranked.members.trans ((same.filter _).map _), ranked.ascending⟩

theorem ranking_mergeSort (target : String) (candidates : List String) :
    Ranking target candidates
      (((candidates.map RawText.ofString).filterMap (ofCandidate? target)).mergeSort precedes) := by
  classical
  have offered : (candidates.map RawText.ofString).filterMap (ofCandidate? target) =
      (candidates.filter fun candidate => IsNear target candidate).map (offer target) := by
    induction candidates with
    | nil => rfl
    | cons candidate candidates ih =>
      by_cases near : IsNear target candidate
      · simp [ofCandidate?_ofString, near, ih]
      · simp [ofCandidate?_ofString, near, ih]
  constructor
  · rw [offered]
    exact List.mergeSort_perm _ _
  · have sorted (list : List Suggestion) :
        (list.mergeSort precedes).Pairwise fun first second => precedes first second := by
      apply List.pairwise_mergeSort
      · intro first second third here later
        rw [precedes_iff] at here later ⊢
        exact here.trans later
      · intro first second
        rw [Bool.or_eq_true, precedes_iff, precedes_iff]
        exact Precedes.total first second
    exact (sorted _).imp precedes_iff.mp

/-! ### Suggestions -/

theorem suggest_eq_take (ranked : Ranking target candidates ranking) :
    suggest target (candidates.map RawText.ofString) =
      if target = "" then [] else ranking.take limit := by
  rw [suggest, (ranking_mergeSort target candidates).unique ranked]
  simp only [RawText.isEmpty_ofString]

/-- **Exactly the nearest candidates are suggested.** Nothing is suggested for the empty name. For any
other one the near candidates, each as often as it was offered, have one ranking, by distance and then
by octets, and its first few are suggested, in whatever order the candidates are offered. -/
theorem suggest_nearest (target : String) (candidates : List String) :
    ∃ ranking, (∀ other, Ranking target candidates other ↔ other = ranking) ∧
      suggest target (candidates.map RawText.ofString) =
        (if target = "" then [] else ranking.take limit) ∧
      ∀ others : List String, others.Perm candidates →
        suggest target (others.map RawText.ofString) =
          suggest target (candidates.map RawText.ofString) := by
  have ranked := ranking_mergeSort target candidates
  refine ⟨_, fun other => ⟨fun also => also.unique ranked, ?_⟩, suggest_eq_take ranked,
    fun others same => ?_⟩
  · rintro rfl
    exact ranked
  · rw [suggest_eq_take (ranking_mergeSort target others),
      suggest_eq_take ((ranking_mergeSort target others).of_perm same)]

example : suggest "ip.sr" (["ip.dst", "tcp.src", "ip.src", ""].map RawText.ofString) =
    [⟨"ip.src", 1⟩, ⟨"ip.dst", 2⟩] := by
  cbv

end Suggestion

end DisplayFilter
