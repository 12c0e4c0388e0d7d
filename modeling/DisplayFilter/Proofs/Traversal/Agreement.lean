/-
**The walks through a tree agree.**

There is one order in which the nodes of a tree are met: a node, then its children one after another,
each with what is below it. The list of nodes has it, a consumer is handed a prefix of it, and a
visitor that walks the tree sees what it does not cut off, in the same order. Told by the paths into the
tree, which are in the order of words, every walk is the list of paths with some left out: a consumer
misses the last ones, and a visitor those that lead through a node below which it refused to go.

* `preorder_eq_cons`, `visit_eq_andThen`, `walkChild_eq_seen`: each walk, from its root and the walks
  from the children.
* `feed`, `visit_eq_feed`: a consumer is handed the list of nodes until it has enough.
* `sighting?`, `walkChild_eq_sightings`: what a visitor sees is what it sees at each path.
* `walks_agree`: all of them, for one tree.
-/

import DisplayFilter.Proofs.Traversal.Paths

namespace DisplayFilter.Node

/-! ### From the root to the children -/

section Children

variable {α : Type} {f : Node → List α}

theorem flatMap_present (nothing : f .missing = []) (node : Node) : node.present.flatMap f = f node := by
  cases node with
  | missing => exact nothing.symm
  | _ => exact List.flatMap_singleton _ _

theorem flatMap_flatMap_present (nothing : f .missing = []) (nodes : List Node) :
    (nodes.flatMap present).flatMap f = nodes.flatMap f := by
  rw [List.flatMap_assoc]
  exact List.flatMap_congr fun node _ => flatMap_present nothing node

theorem preorderAll_eq_flatMap (nodes : List Node) : preorderAll nodes = nodes.flatMap preorder := by
  induction nodes with
  | nil => rfl
  | cons node nodes ih => rw [preorderAll, ih, List.flatMap_cons]

theorem preorderElements_eq_flatMap (elements : List Element) :
    preorderElements elements = (elements.flatMap elementNodes).flatMap preorder := by
  induction elements with
  | nil => rfl
  | cons element elements ih =>
    cases element <;>
      simp [preorderElements, ih, elementNodes, flatMap_present (f := preorder) rfl]

/-- A tree is listed by its root and then the trees below it. -/
theorem preorder_eq_cons {node : Node} (there : node.isPresent = true) :
    node.preorder = node :: node.children.flatMap preorder := by
  cases node with
  | missing => cases there
  | field _ | reference _ | value _ | pattern _ => rfl
  | test operator quantifier left right | arithmetic operator left right =>
    rw [preorder, children, List.flatMap_append, flatMap_present rfl, flatMap_present rfl]
  | call definition? arguments =>
    rw [preorder, children, flatMap_flatMap_present rfl, preorderAll_eq_flatMap]
  | slice entity range? => rw [preorder, children, flatMap_present rfl]
  | set elements => rw [preorder, children, preorderElements_eq_flatMap]

end Children

/-! ### Consumers -/

section Visit

variable {σ : Type} (consume : σ → Node → σ × Bool)

theorem andThen_assoc (state : σ × Bool) (goOn finish : σ → σ × Bool) :
    andThen (andThen state goOn) finish = andThen state fun state => andThen (goOn state) finish := by
  obtain ⟨state, more⟩ := state
  cases more <;> rfl

theorem andThen_more (state : σ × Bool) : andThen state (fun state => (state, true)) = state := by
  obtain ⟨state, more⟩ := state
  cases more <;> rfl

theorem visitAll_append (state : σ) (nodes others : List Node) :
    visitAll consume state (nodes ++ others) =
      andThen (visitAll consume state nodes) fun state => visitAll consume state others := by
  induction nodes generalizing state with
  | nil => rfl
  | cons node nodes ih =>
    rw [List.cons_append, visitAll, visitAll, andThen_assoc]
    simp only [ih]

theorem visitAll_present (state : σ) (node : Node) :
    visitAll consume state node.present = visit consume state node := by
  cases node with
  | missing => rfl
  | _ => exact andThen_more _

theorem visitAll_flatMap_present (state : σ) (nodes : List Node) :
    visitAll consume state (nodes.flatMap present) = visitAll consume state nodes := by
  induction nodes generalizing state with
  | nil => rfl
  | cons node nodes ih =>
    rw [List.flatMap_cons, visitAll_append, visitAll_present, visitAll]
    simp only [ih]

theorem visitElements_eq_visitAll (state : σ) (elements : List Element) :
    visitElements consume state elements =
      visitAll consume state (elements.flatMap elementNodes) := by
  induction elements generalizing state with
  | nil => rfl
  | cons element elements ih =>
    cases element <;>
      simp only [visitElements, List.flatMap_cons, elementNodes, visitAll_append, visitAll_present,
        andThen_assoc, ih]

/-- A consumer is handed the root, and then the trees below it. -/
theorem visit_eq_andThen {node : Node} (there : node.isPresent = true) (state : σ) :
    visit consume state node =
      andThen (consume state node) fun state => visitAll consume state node.children := by
  cases node with
  | missing => cases there
  | field _ | reference _ | value _ | pattern _ => exact (andThen_more _).symm
  | test operator quantifier left right | arithmetic operator left right =>
    simp only [visit, children, visitAll_append, visitAll_present]
  | call definition? arguments => simp only [visit, children, visitAll_flatMap_present]
  | slice entity range? => simp only [visit, children, visitAll_present]
  | set elements => simp only [visit, children, visitElements_eq_visitAll]

/-- Hands nodes to a consumer, one after another, until it has enough. -/
def feed (state : σ) : List Node → σ × Bool
  | [] => (state, true)
  | node :: nodes => andThen (consume state node) fun state => feed state nodes

theorem feed_append (state : σ) (nodes others : List Node) :
    feed consume state (nodes ++ others) =
      andThen (feed consume state nodes) fun state => feed consume state others := by
  induction nodes generalizing state with
  | nil => rfl
  | cons node nodes ih =>
    rw [List.cons_append, feed, feed, andThen_assoc]
    simp only [ih]

theorem visitAll_eq_feed {nodes : List Node}
    (each : ∀ node ∈ nodes, ∀ state, visit consume state node = feed consume state node.preorder)
    (state : σ) :
    visitAll consume state nodes = feed consume state (nodes.flatMap preorder) := by
  induction nodes generalizing state with
  | nil => rfl
  | cons node nodes ih =>
    obtain ⟨here, later⟩ := List.forall_mem_cons.mp each
    rw [visitAll, here, List.flatMap_cons, feed_append]
    simp only [ih later]

/-- **A consumer is handed the nodes of a tree in their order until it has enough.** A refusal ends the
walk however deep in the tree it happens. -/
theorem visit_eq_feed (node : Node) (state : σ) :
    visit consume state node = feed consume state node.preorder := by
  induction node using induction_children generalizing state with
  | step node ih =>
    by_cases there : node.isPresent
    · rw [visit_eq_andThen consume there, preorder_eq_cons there, feed]
      simp only [visitAll_eq_feed consume ih]
    · cases node with
      | missing => rfl
      | _ => exact absurd rfl there

/-- A consumer that collects nodes takes as many as it still wants. -/
theorem feed_collect {limit : Nat} {received : List Node} (wants : received.length < limit)
    (nodes : List Node) :
    (feed (collect limit) received nodes).1 = received ++ nodes.take (limit - received.length) := by
  induction nodes generalizing received with
  | nil => simp [feed]
  | cons node nodes ih =>
    obtain ⟨more, counted⟩ : ∃ more, limit - received.length = more + 1 :=
      Nat.exists_eq_add_one.mpr (Nat.sub_pos_of_lt wants)
    have taken : collect limit received node =
        (received ++ [node], decide ((received ++ [node]).length < limit)) := rfl
    have left : limit - (received ++ [node]).length = more := by
      rw [List.length_append, List.length_singleton]
      omega
    rw [feed, taken, counted, List.take_succ_cons]
    by_cases still : (received ++ [node]).length < limit
    · rw [decide_eq_true still]
      show (feed (collect limit) (received ++ [node]) nodes).1 = _
      rw [ih still, left, List.append_assoc]
      rfl
    · have last : more = 0 := by omega
      rw [decide_eq_false still, last]
      rfl

/-- **A consumer that stops after so many nodes has received the first ones.** -/
theorem preorderUpTo_eq_take (limit : Nat) (node : Node) :
    node.preorderUpTo limit = node.preorder.take limit := by
  unfold preorderUpTo
  by_cases none : limit = 0
  · simp [none]
  · rw [if_neg none, visit_eq_feed, feed_collect (Nat.pos_of_ne_zero none)]
    simp

end Visit

/-! ### Visitors -/

section Walk

variable {σ : Type} (descend : σ → Node → Option σ)

theorem walkAll_eq_flatMap (state : σ) (nodes : List Node) :
    walkAll descend state nodes = nodes.flatMap (walkChild descend state) := by
  induction nodes with
  | nil => rfl
  | cons node nodes ih => rw [walkAll, ih, List.flatMap_cons]

theorem walkElements_eq_flatMap (state : σ) (elements : List Element) :
    walkElements descend state elements =
      (elements.flatMap elementNodes).flatMap (walkChild descend state) := by
  induction elements with
  | nil => rfl
  | cons element elements ih =>
    cases element <;>
      simp [walkElements, ih, elementNodes, flatMap_present (f := walkChild descend state) rfl]

/-- A visitor sees the root, and then what it wants to see of the trees below it. -/
theorem walkChild_eq_seen {node : Node} (there : node.isPresent = true) (state : σ) :
    walkChild descend state node =
      seen descend state node fun state => node.children.flatMap (walkChild descend state) := by
  have nothing (state : σ) : walkChild descend state .missing = [] := rfl
  cases node with
  | missing => cases there
  | field _ | reference _ | value _ | pattern _ => rfl
  | test operator quantifier left right | arithmetic operator left right =>
    simp only [walkChild, children, List.flatMap_append, flatMap_present (nothing _)]
  | call definition? arguments =>
    simp only [walkChild, children, flatMap_flatMap_present (nothing _), walkAll_eq_flatMap]
  | slice entity range? => simp only [walkChild, children, flatMap_present (nothing _)]
  | set elements => simp only [walkChild, children, walkElements_eq_flatMap]

theorem walk_eq_walkChild {node : Node} (there : node.isPresent = true) (state : σ) :
    walk descend state node = walkChild descend state node := by
  cases node with
  | missing => cases there
  | _ => rfl

/-- What a visitor sees at the end of a path, if it goes there: the node, with the state it has come
to on the way. -/
def sighting? (state : σ) (node : Node) : List Nat → Option (σ × Node)
  | [] => some (state, node)
  | index :: path =>
    node.children[index]?.bind fun child =>
      (descend state node).bind fun state => sighting? state child path

/-- **What a visitor sees is what it sees at the paths, one after another.** -/
theorem walkChild_eq_sightings (node : Node) (there : node.isPresent = true) (state : σ) :
    walkChild descend state node = node.paths.filterMap (sighting? descend state node) := by
  induction node using induction_children generalizing state with
  | step node ih =>
    rw [walkChild_eq_seen descend there, seen]
    cases goesOn : descend state node with
    | none =>
      -- every path but the empty one leads through the root
      rw [filterMap_paths (fun _ => []) node fun index within => ?_]
      · simp [sighting?]
      · simp [sighting?, goesOn]
    | some next =>
      rw [filterMap_paths (walkChild descend next) node fun index within => ?_]
      · rfl
      · have child := List.getElem_mem within
        rw [ih _ child (mem_children child).1]
        refine List.filterMap_congr fun path _ => ?_
        rw [sighting?, List.getElem?_eq_getElem within, goesOn]
        rfl

/-- A visitor that counts sees every node, with the length of the way to it. -/
theorem sighting?_depth (depth : Nat) (node : Node) (path : List Nat) :
    sighting? (fun depth _ => some (depth + 1)) depth node path =
      (node.at? path).map fun found => (depth + path.length, found) := by
  induction path generalizing depth node with
  | nil => rfl
  | cons index path ih =>
    rw [sighting?, at?]
    cases node.children[index]? with
    | none => rfl
    | some child =>
      show sighting? (fun depth _ => some (depth + 1)) (depth + 1) child path =
        (child.at? path).map fun found => (depth + (path.length + 1), found)
      rw [ih]
      congr 1
      funext found
      congr 1
      omega

/-- Whether a callback lets every node above the end of a path be entered. -/
def EntersAbove (enter : Node → Bool) (node : Node) (path : List Nat) : Prop :=
  ∀ above found, above <+: path → above ≠ path → node.at? above = some found → enter found = true

theorem entersAbove_cons {enter : Node → Bool} {node child : Node} {index : Nat} {path : List Nat}
    (chosen : node.children[index]? = some child) :
    EntersAbove enter node (index :: path) ↔ enter node = true ∧ EntersAbove enter child path := by
  constructor
  · intro enters
    refine ⟨enters [] node List.nil_prefix (List.cons_ne_nil _ _).symm rfl, ?_⟩
    intro above found before proper reached
    refine enters (index :: above) found (List.cons_prefix_cons.mpr ⟨rfl, before⟩) ?_ ?_
    · exact fun same => proper (List.cons.inj same).2
    · rw [at?, chosen]
      exact reached
  · rintro ⟨here, below⟩ above found before proper reached
    cases above with
    | nil =>
      obtain rfl := Option.some.inj reached
      exact here
    | cons first above =>
      obtain ⟨rfl, shorter⟩ := List.cons_prefix_cons.mp before
      rw [at?, chosen] at reached
      exact below above found shorter (fun same => proper (congrArg _ same)) reached

open scoped Classical in
/-- A callback sees exactly the nodes above which it lets everything be entered. -/
theorem sighting?_enter (enter : Node → Bool) (node : Node) (path : List Nat) :
    (sighting? (fun (_ : Unit) node => if enter node then some () else none) () node path).map
        Prod.snd =
      if EntersAbove enter node path then node.at? path else none := by
  induction path generalizing node with
  | nil =>
    have enters : EntersAbove enter node [] := fun above found before proper =>
      absurd (List.prefix_nil.mp before) proper
    rw [if_pos enters]
    rfl
  | cons index path ih =>
    rw [sighting?, at?]
    cases chosen : node.children[index]? with
    | none => simp
    | some child =>
      rw [entersAbove_cons chosen]
      by_cases here : enter node
      · simpa [here] using ih child
      · simp [here]

end Walk

/-! ### All of them -/

theorem preorder_eq_filterMap_paths (node : Node) (there : node.isPresent = true) :
    node.preorder = node.paths.filterMap node.at? := by
  induction node using induction_children with
  | step node ih =>
    rw [preorder_eq_cons there, filterMap_paths preorder node fun index within => ?_]
    · rfl
    · have child := List.getElem_mem within
      rw [ih _ child (mem_children child).1]
      refine List.filterMap_congr fun path _ => ?_
      rw [at?, List.getElem?_eq_getElem within]
      rfl

theorem depths_eq_filterMap_paths {node : Node} (there : node.isPresent = true) :
    node.depths = node.paths.filterMap fun path =>
      (node.at? path).map fun found => (path.length, found) := by
  rw [depths, walk_eq_walkChild _ there, walkChild_eq_sightings _ node there]
  refine List.filterMap_congr fun path _ => ?_
  rw [sighting?_depth]
  simp

open scoped Classical in
theorem inspect_eq_filterMap_paths (enter : Node → Bool) {node : Node}
    (there : node.isPresent = true) :
    node.inspect enter =
      (node.paths.filter fun path => EntersAbove enter node path).filterMap node.at? := by
  rw [inspect, walk_eq_walkChild _ there, walkChild_eq_sightings _ node there, List.map_filterMap,
    List.filterMap_filter]
  refine List.filterMap_congr fun path _ => ?_
  simpa using sighting?_enter enter node path

open scoped Classical in
/-- The walks through a tree agree on the order of its nodes. -/
structure WalksAgree (root : Node) : Prop where
  /-- The nodes are listed root first, and then tree by tree below it. -/
  rootFirst : root.preorder = root :: (root.places.filter isPresent).flatMap preorder
  /-- The paths into the tree are in order, so none of them is there twice. -/
  ordered : root.paths.Pairwise (· < ·)
  /-- Every path that leads to a node is among them. -/
  complete : ∀ path, path ∈ root.paths ↔ (root.at? path).isSome
  /-- The nodes are those at the ends of the paths. -/
  listed : root.preorder = root.paths.filterMap root.at?
  /-- A consumer that stops after so many nodes has received the first ones. -/
  handed : ∀ limit, root.preorderUpTo limit = root.preorder.take limit
  /-- A callback sees the nodes above which it lets everything be entered. -/
  inspected : ∀ enter, root.inspect enter =
    (root.paths.filter fun path => EntersAbove enter root path).filterMap root.at?
  /-- A visitor that counts sees every node with the length of the path to it. -/
  counted : root.depths = root.paths.filterMap fun path =>
    (root.at? path).map fun found => (path.length, found)

/-- **The walks through a tree agree.** The order is that of the paths into the tree, which are in the
order of words. -/
theorem walks_agree {root : Node} (there : root.isPresent = true) : WalksAgree root where
  rootFirst := by rw [← children_eq_filter_places, preorder_eq_cons there]
  ordered := pairwise_paths root
  complete _ := mem_paths
  listed := preorder_eq_filterMap_paths root there
  handed limit := preorderUpTo_eq_take limit root
  inspected enter := inspect_eq_filterMap_paths enter there
  counted := depths_eq_filterMap_paths there

/-- A membership test below a `not`: a member of the set lacks its value, another has both bounds. -/
def deniedMembership : Node :=
  .test .not .baseline
    (.test .member .baseline (.slice (.field ⟨none, none, false, false⟩) none)
      (.set [.single .missing, .between (.value (.bool false)) (.value (.bool true))])) .missing

/-- They agree on a tree with empty places, in a test and in a set. -/
theorem walks_agree_membership : deniedMembership.isPresent = true ∧ WalksAgree deniedMembership :=
  ⟨rfl, walks_agree rfl⟩

end DisplayFilter.Node
