/-
**Paths into a tree.**

Where a node stands in a tree is told by the way from the root to it: which child to take, again and
again. The same node may stand in several places, but each place has a path of its own. Listed child by
child, the paths of a tree are in the order of words in a dictionary.

* `Node.places`: where a node may have children; `Node.children_eq_filter_places`: it has those that are
  there.
* `Node.induction_children`: what holds of a node if it holds of its children holds of all nodes.
* `Node.at?`: the node at the end of a path.
* `Node.paths`: the paths of a tree; `Node.mem_paths`, `Node.pairwise_paths`: they are all of them, in
  order.
* `Node.filterMap_paths`: what is found along the paths, from what is found along those of the
  children.
-/

import DisplayFilter.Node.Traversal
import Mathlib.Data.List.FinRange
import Mathlib.Tactic.Common

namespace DisplayFilter.Node

/-! ### Children -/

/-- The places directly below a node where there may be a node: on the left and on the right of an
operator, in the arguments, in front of a byte range, and at the bounds of the members of a set. -/
def places : Node → List Node
  | .test _ _ left right | .arithmetic _ left right => [left, right]
  | .call _ arguments => arguments
  | .slice entity _ => [entity]
  | .set elements => elements.flatMap fun
    | .single low => [low]
    | .between low high => [low, high]
  | _ => []

theorem flatMap_present_eq_filter (nodes : List Node) : nodes.flatMap present = nodes.filter isPresent := by
  induction nodes with
  | nil => rfl
  | cons node nodes ih =>
    rw [List.flatMap_cons, List.filter_cons, ih, present]
    split <;> rfl

/-- The children of a node are the nodes at those places that are not empty. -/
theorem children_eq_filter_places (node : Node) : node.children = node.places.filter isPresent := by
  rw [← flatMap_present_eq_filter]
  cases node with
  | set elements =>
    rw [children, places, List.flatMap_assoc]
    refine List.flatMap_congr fun element _ => ?_
    cases element <;> simp [elementNodes]
  | _ => simp [children, places]

theorem sizeOf_lt_of_mem_places {node child : Node} (member : child ∈ node.places) :
    sizeOf child < sizeOf node := by
  cases node with
  | missing | field _ | reference _ | value _ | pattern _ => cases member
  | test operator quantifier left right | arithmetic operator left right =>
    simp only [places, List.mem_cons, List.not_mem_nil, or_false] at member
    simp only [test.sizeOf_spec, arithmetic.sizeOf_spec]
    rcases member with rfl | rfl <;> omega
  | slice entity range? =>
    obtain rfl := List.mem_singleton.mp member
    rw [slice.sizeOf_spec]
    omega
  | call definition? arguments =>
    have smaller : sizeOf child < sizeOf arguments := List.sizeOf_lt_of_mem member
    rw [call.sizeOf_spec]
    omega
  | set elements =>
    obtain ⟨element, among, bound⟩ := List.mem_flatMap.mp member
    have smaller := List.sizeOf_lt_of_mem among
    rw [set.sizeOf_spec]
    cases element with
    | single low =>
      obtain rfl := List.mem_singleton.mp bound
      rw [Element.single.sizeOf_spec] at smaller
      omega
    | between low high =>
      simp only [List.mem_cons, List.not_mem_nil, or_false] at bound
      rw [Element.between.sizeOf_spec] at smaller
      rcases bound with rfl | rfl <;> omega

/-- A child is there, and smaller than its parent. -/
theorem mem_children {node child : Node} (member : child ∈ node.children) :
    child.isPresent = true ∧ sizeOf child < sizeOf node := by
  rw [children_eq_filter_places, List.mem_filter] at member
  exact ⟨member.2, sizeOf_lt_of_mem_places member.1⟩

/-- What holds of a node if it holds of its children holds of every node. -/
theorem induction_children {holds : Node → Prop}
    (step : ∀ node, (∀ child ∈ node.children, holds child) → holds node) (node : Node) :
    holds node :=
  step node fun child _ => induction_children step child
termination_by sizeOf node
decreasing_by exact (mem_children ‹_›).2

/-! ### Places -/

/-- The node at the end of a path, which says at each node which child to take. -/
def at? (node : Node) : List Nat → Option Node
  | [] => some node
  | index :: path => node.children[index]?.bind fun child => child.at? path

/-- The paths into a tree: the empty one, and those into each child in turn. -/
def paths (node : Node) : List (List Nat) :=
  [] :: (List.finRange node.children.length).flatMap fun index =>
    node.children[index].paths.map (index.val :: ·)
termination_by sizeOf node
decreasing_by exact (mem_children (List.getElem_mem _)).2

theorem cons_mem_paths {node : Node} {index : Nat} {path : List Nat} :
    (index :: path) ∈ node.paths ↔
      ∃ child, node.children[index]? = some child ∧ path ∈ child.paths := by
  rw [paths]
  simp only [List.mem_cons, List.mem_flatMap, List.mem_finRange, List.mem_map, true_and]
  constructor
  · rintro (absent | ⟨place, other, member, same⟩)
    · cases absent
    · obtain ⟨rfl, rfl⟩ := List.cons.inj same
      exact ⟨_, List.getElem?_eq_getElem place.isLt, member⟩
  · rintro ⟨child, chosen, member⟩
    obtain ⟨within, rfl⟩ := List.getElem?_eq_some_iff.mp chosen
    exact .inr ⟨⟨index, within⟩, path, member, rfl⟩

/-- A path leads somewhere exactly if it is one of the paths into the tree. -/
theorem mem_paths {node : Node} {path : List Nat} : path ∈ node.paths ↔ (node.at? path).isSome := by
  induction path generalizing node with
  | nil =>
    rw [paths]
    simp [at?]
  | cons index path ih =>
    rw [cons_mem_paths, at?, Option.isSome_bind, Option.any_eq_true]
    simp only [ih]

/-- **The paths into a tree are in the order of words**, so no two of them are the same. -/
theorem pairwise_paths (node : Node) : node.paths.Pairwise (· < ·) := by
  induction node using induction_children with
  | step node ih =>
    rw [paths, List.pairwise_cons, List.pairwise_flatMap]
    refine ⟨?_, fun index _ => ?_, ?_⟩
    · intro path member
      obtain ⟨index, -, among⟩ := List.mem_flatMap.mp member
      obtain ⟨rest, -, rfl⟩ := List.mem_map.mp among
      exact List.nil_lt_cons _ _
    · rw [List.pairwise_map]
      refine (ih _ (List.getElem_mem _)).imp fun before => ?_
      exact List.cons_lt_cons_iff.mpr (.inr ⟨rfl, before⟩)
    · refine (List.pairwise_lt_finRange _).imp fun before => ?_
      intro path member other among
      obtain ⟨_, -, rfl⟩ := List.mem_map.mp member
      obtain ⟨_, -, rfl⟩ := List.mem_map.mp among
      exact List.cons_lt_cons_iff.mpr (.inl before)

/-- What is found along the paths into a tree is what is found at the root and then, child by child,
along the paths from there. -/
theorem filterMap_paths {α : Type} {found : List Nat → Option α} (below : Node → List α) (node : Node)
    (child : ∀ index (within : index < node.children.length),
      node.children[index].paths.filterMap (fun path => found (index :: path)) =
        below node.children[index]) :
    node.paths.filterMap found = (found []).toList ++ node.children.flatMap below := by
  have listed : (List.finRange node.children.length).map (fun index => node.children[index]) =
      node.children := List.map_getElem_finRange _
  rw [paths, List.filterMap_cons, List.filterMap_flatMap]
  simp only [List.filterMap_map]
  have children : (List.finRange node.children.length).flatMap (fun index =>
      node.children[index].paths.filterMap (found ∘ (index.val :: ·))) =
      node.children.flatMap below := by
    conv_rhs => rw [← listed, List.flatMap_map]
    exact List.flatMap_congr fun index _ => child index.val index.isLt
  rw [children]
  cases found [] <;> rfl

end DisplayFilter.Node
