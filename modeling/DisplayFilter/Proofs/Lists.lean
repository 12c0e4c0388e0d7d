/-
**Lists.**

What several theories of this library need to know about lists.

* `getElem?_concat`, `filter_drop_eq`, `getElem?_unique`: members by their place.
* `filter_eq_of_forall₂`, `map_eq_of_forall₂`, `exists_of_forall₂`, `exists_forall₂_iff`: lists that
  agree member by member.
* `bind_eq_ok`, `mapM_eq_ok_iff`: steps that may fail, one after another and for each member.
* `eraseDups_concat`, `eraseDups_map`, `nodup_eraseDups`: lists without their repetitions.
-/

import Mathlib.Data.List.Forall2
import Mathlib.Data.List.Induction
import Mathlib.Data.Nat.Init
import Mathlib.Order.Basic

namespace DisplayFilter

/-! ### Members by their place -/

theorem getElem?_concat {α : Type} (list : List α) (last : α) (index : Nat) :
    (list ++ [last])[index]? = if index = list.length then some last else list[index]? := by
  split
  · rename_i same
    rw [same, List.getElem?_concat_length]
  · rename_i differs
    by_cases early : index < list.length
    · rw [List.getElem?_append_left early]
    · rw [List.getElem?_eq_none (by simp; omega), List.getElem?_eq_none (by omega)]

/-- What follows one place has the same wanted members as what follows a later one, if none is wanted
in between. -/
theorem filter_drop_eq {α : Type} {list : List α} {wanted : α → Bool} {first second : Nat}
    (early : first ≤ second) (unwanted : ∀ place, first ≤ place → place < second →
      ∀ member, list[place]? = some member → wanted member = false) :
    (list.drop first).filter wanted = (list.drop second).filter wanted := by
  induction second, early using Nat.le_induction with
  | base => rfl
  | succ second early ih =>
    rw [ih fun place late before => unwanted place late (Nat.lt_succ_of_lt before)]
    by_cases within : second < list.length
    · have skipped := unwanted second early second.lt_succ_self _ (List.getElem?_eq_getElem within)
      rw [List.drop_eq_getElem_cons within,
        List.filter_cons_of_neg (Bool.eq_false_iff.mp skipped)]
    · rw [List.drop_eq_nil_of_le (Nat.not_lt.mp within),
        List.drop_eq_nil_of_le (Nat.le_succ_of_le (Nat.not_lt.mp within))]

/-- Wanted members that are told apart by something stand in different places. -/
theorem getElem?_unique {α β : Type} {list : List α} {wanted : α → Bool} {f : α → β}
    (distinct : ((list.filter wanted).map f).Nodup) {first second : Nat} {x y : α}
    (here : list[first]? = some x) (wants : wanted x = true)
    (there : list[second]? = some y) (also : wanted y = true) (same : f x = f y) :
    first = second := by
  have apart := List.pairwise_filter.mp (List.pairwise_map.mp distinct)
  rw [List.pairwise_iff_getElem] at apart
  obtain ⟨inside, rfl⟩ := List.getElem?_eq_some_iff.mp here
  obtain ⟨within, rfl⟩ := List.getElem?_eq_some_iff.mp there
  rcases Nat.lt_trichotomy first second with earlier | equal | later
  · exact absurd same (apart first second inside within earlier wants also)
  · exact equal
  · exact absurd same.symm (apart second first within inside later also wants)

/-! ### Lists that agree member by member -/

/-- Lists that differ only where neither member is wanted have the same wanted members. -/
theorem filter_eq_of_forall₂ {α : Type} {wanted : α → Bool} {first second : List α}
    (alike : List.Forall₂ (fun x y => x = y ∨ wanted x = false ∧ wanted y = false) first second) :
    first.filter wanted = second.filter wanted := by
  induction alike with
  | nil => rfl
  | cons here _ ih =>
    rcases here with rfl | ⟨left, right⟩
    · rw [List.filter_cons, List.filter_cons, ih]
    · rw [List.filter_cons_of_neg (Bool.eq_false_iff.mp left),
        List.filter_cons_of_neg (Bool.eq_false_iff.mp right), ih]

/-- Lists whose members agree one by one give the same images. -/
theorem map_eq_of_forall₂ {α β γ : Type} {related : α → β → Prop} {f : α → γ} {g : β → γ}
    {first : List α} {second : List β} (alike : List.Forall₂ related first second)
    (agree : ∀ x y, related x y → f x = g y) : first.map f = second.map g := by
  rw [← List.forall₂_eq_eq_eq, List.forall₂_map_left_iff, List.forall₂_map_right_iff]
  exact alike.imp agree

theorem exists_of_forall₂ {α β : Type} {R : α → β → Prop} {list : List α} {others : List β}
    (related : List.Forall₂ R list others) {other : β} (member : other ∈ others) :
    ∃ x ∈ list, R x other := by
  induction related with
  | nil => cases member
  | cons here _ ih =>
    rcases List.mem_cons.mp member with rfl | later
    · exact ⟨_, List.mem_cons_self, here⟩
    · obtain ⟨x, among, holds⟩ := ih later
      exact ⟨x, List.mem_cons_of_mem _ among, holds⟩

/-- Each member is related to something exactly if the list is related to some list. -/
theorem exists_forall₂_iff {α β : Type} {R : α → β → Prop} {list : List α} :
    (∃ others, List.Forall₂ R list others) ↔ ∀ x ∈ list, ∃ other, R x other := by
  induction list with
  | nil => simp
  | cons x list ih =>
    simp only [List.forall₂_cons_left_iff, List.forall_mem_cons, ← ih]
    constructor
    · rintro ⟨_, other, others, here, later, rfl⟩
      exact ⟨⟨other, here⟩, others, later⟩
    · rintro ⟨⟨other, here⟩, others, later⟩
      exact ⟨_, other, others, here, later, rfl⟩

/-! ### Steps that may fail -/

/-- Two steps succeed if the first one does and the second one with what it gives. -/
theorem bind_eq_ok {ε α β : Type} {first : Except ε α} {second : α → Except ε β} {result : β} :
    first >>= second = .ok result ↔ ∃ value, first = .ok value ∧ second value = .ok result := by
  cases first <;> simp [bind, Except.bind]

/-- A list is turned into the results exactly if each member is turned into its own. -/
theorem mapM_eq_ok_iff {ε α β : Type} {f : α → Except ε β} {list : List α} {results : List β} :
    list.mapM f = .ok results ↔ List.Forall₂ (fun x result => f x = .ok result) list results := by
  induction list generalizing results with
  | nil =>
    rw [List.mapM_nil, List.forall₂_nil_left_iff]
    exact (iff_of_eq (Except.ok.injEq _ _)).trans eq_comm
  | cons x list ih =>
    rw [List.mapM_cons, bind_eq_ok, List.forall₂_cons_left_iff]
    refine exists_congr fun result => ?_
    rw [bind_eq_ok, exists_and_left]
    refine and_congr_right fun _ => exists_congr fun others => ?_
    rw [ih]
    exact and_congr_right fun _ => (iff_of_eq (Except.ok.injEq _ _)).trans eq_comm

/-! ### Repetitions -/

/-- Leaving out repetitions, one more member is left out if it was there before. -/
theorem eraseDups_concat {α : Type} [DecidableEq α] (list : List α) (last : α) :
    (list ++ [last]).eraseDups =
      if last ∈ list then list.eraseDups else list.eraseDups ++ [last] := by
  rw [List.eraseDups_append]
  by_cases known : last ∈ list
  · simp [known, List.removeAll]
  · simp [known, List.removeAll, List.eraseDups_cons]

theorem nodup_eraseDups {α : Type} [BEq α] [LawfulBEq α] (list : List α) :
    list.eraseDups.Nodup := by
  match list with
  | [] => exact List.nodup_nil
  | first :: rest =>
    rw [List.eraseDups_cons, List.nodup_cons]
    refine ⟨by simp, ?_⟩
    exact nodup_eraseDups (rest.filter fun other => !other == first)
termination_by list.length
decreasing_by exact Nat.lt_succ_of_le (List.length_filter_le _ _)

/-- Leaving out repetitions commutes with a function that keeps the members apart. -/
theorem eraseDups_map {α β : Type} [DecidableEq α] [DecidableEq β] (f : α → β) (list : List α)
    (apart : ∀ x ∈ list, ∀ y ∈ list, f x = f y → x = y) :
    (list.map f).eraseDups = list.eraseDups.map f := by
  induction list using List.reverseRecOn with
  | nil => rfl
  | append_singleton list last ih =>
    have first := ih fun x here y there => apart x (List.mem_append_left _ here) y
      (List.mem_append_left _ there)
    have same : f last ∈ list.map f ↔ last ∈ list := by
      rw [List.mem_map]
      constructor
      · rintro ⟨other, member, equal⟩
        rwa [← apart other (List.mem_append_left _ member) last (by simp) equal]
      · intro member
        exact ⟨last, member, rfl⟩
    rw [List.map_append, List.map_singleton, eraseDups_concat, eraseDups_concat, first]
    simp only [same]
    split <;> simp

end DisplayFilter
