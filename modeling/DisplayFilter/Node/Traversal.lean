/-
**Walking a filter tree.**

A tree is walked from the root down, each node before its children and the children in the order of
evaluation. Places without a node are passed over.

* `Node.children`: the nodes directly below a node.
* `Node.preorder`: the nodes of a tree.
* `Node.visit`: hands the nodes to a consumer until it has enough.
* `Node.walk`: hands the nodes to a visitor that decides, node by node, whether and how to go on
  below it; `Node.inspect` and `Node.depths` are two such walks.
-/

import DisplayFilter.Node

namespace DisplayFilter.Node

/-- A node as a list: none where there is no node. -/
def present (node : Node) : List Node :=
  if node.isPresent then [node] else []

/-- The nodes of a member of a set. -/
def elementNodes : Element → List Node
  | .single low => low.present
  | .between low high => low.present ++ high.present

/-- The nodes directly below a node, in the order of evaluation. -/
def children : Node → List Node
  | .test _ _ left right => left.present ++ right.present
  | .arithmetic _ left right => left.present ++ right.present
  | .call _ arguments => arguments.flatMap present
  | .slice entity _ => entity.present
  | .set elements => elements.flatMap elementNodes
  | _ => []

mutual

/-- The nodes of a tree, each before those below it. -/
def preorder : Node → List Node
  | .missing => []
  | .test operator quantifier left right =>
    .test operator quantifier left right :: (left.preorder ++ right.preorder)
  | .arithmetic operator left right =>
    .arithmetic operator left right :: (left.preorder ++ right.preorder)
  | .call definition? arguments => .call definition? arguments :: preorderAll arguments
  | .slice entity range? => .slice entity range? :: entity.preorder
  | .set elements => .set elements :: preorderElements elements
  | node => [node]

/-- The nodes of several trees. -/
def preorderAll : List Node → List Node
  | [] => []
  | node :: nodes => node.preorder ++ preorderAll nodes

/-- The nodes of the members of a set. -/
def preorderElements : List Element → List Node
  | [] => []
  | .single low :: elements => low.preorder ++ preorderElements elements
  | .between low high :: elements =>
    low.preorder ++ (high.preorder ++ preorderElements elements)

end

/-! ### Visiting until a consumer has enough -/

section Visit

variable {σ : Type} (consume : σ → Node → σ × Bool)

/-- Goes on with another part of a tree unless the consumer has had enough. -/
def andThen (state : σ × Bool) (goOn : σ → σ × Bool) : σ × Bool :=
  if state.2 then goOn state.1 else state

mutual

/-- Hands the nodes of a tree to a consumer, each before those below it. The consumer answers
whether it wants more; after a refusal no further node is handed out. -/
def visit (state : σ) : Node → σ × Bool
  | .missing => (state, true)
  | .test operator quantifier left right =>
    andThen (consume state (.test operator quantifier left right)) fun state =>
      andThen (visit state left) fun state => visit state right
  | .arithmetic operator left right =>
    andThen (consume state (.arithmetic operator left right)) fun state =>
      andThen (visit state left) fun state => visit state right
  | .call definition? arguments =>
    andThen (consume state (.call definition? arguments)) fun state => visitAll state arguments
  | .slice entity range? =>
    andThen (consume state (.slice entity range?)) fun state => visit state entity
  | .set elements =>
    andThen (consume state (.set elements)) fun state => visitElements state elements
  | node => consume state node

/-- Hands the nodes of several trees to a consumer. -/
def visitAll (state : σ) : List Node → σ × Bool
  | [] => (state, true)
  | node :: nodes => andThen (visit state node) fun state => visitAll state nodes

/-- Hands the nodes of the members of a set to a consumer. -/
def visitElements (state : σ) : List Element → σ × Bool
  | [] => (state, true)
  | .single low :: elements =>
    andThen (visit state low) fun state => visitElements state elements
  | .between low high :: elements =>
    andThen (visit state low) fun state =>
      andThen (visit state high) fun state => visitElements state elements

end

end Visit

/-- A consumer that collects nodes and refuses more once it has received so many. -/
def collect (limit : Nat) (received : List Node) (node : Node) : List Node × Bool :=
  let received := received ++ [node]
  (received, received.length < limit)

/-- The nodes that a consumer which stops after so many has received. -/
def preorderUpTo (limit : Nat) (node : Node) : List Node :=
  if limit = 0 then [] else (visit (collect limit) [] node).1

/-! ### Walking with a visitor -/

section Walk

variable {σ : Type} (descend : σ → Node → Option σ)

/-- What a visitor sees at a node and, unless it refuses to go below, in the children. -/
def seen (state : σ) (node : Node) (below : σ → List (σ × Node)) : List (σ × Node) :=
  (state, node) ::
    match descend state node with
    | none => []
    | some state => below state

mutual

/-- Walks a child, if there is one. -/
def walkChild (state : σ) : Node → List (σ × Node)
  | .missing => []
  | .test operator quantifier left right =>
    seen descend state (.test operator quantifier left right) fun state =>
      walkChild state left ++ walkChild state right
  | .arithmetic operator left right =>
    seen descend state (.arithmetic operator left right) fun state =>
      walkChild state left ++ walkChild state right
  | .call definition? arguments =>
    seen descend state (.call definition? arguments) fun state => walkAll state arguments
  | .slice entity range? =>
    seen descend state (.slice entity range?) fun state => walkChild state entity
  | .set elements =>
    seen descend state (.set elements) fun state => walkElements state elements
  | node => seen descend state node fun _ => []

/-- Walks several children. -/
def walkAll (state : σ) : List Node → List (σ × Node)
  | [] => []
  | node :: nodes => walkChild state node ++ walkAll state nodes

/-- Walks the members of a set. -/
def walkElements (state : σ) : List Element → List (σ × Node)
  | [] => []
  | .single low :: elements => walkChild state low ++ walkElements state elements
  | .between low high :: elements =>
    walkChild state low ++ (walkChild state high ++ walkElements state elements)

end

/-- Walks a tree with a visitor. The visitor sees each node together with the state it was given
there, and answers with the state for the children or with a refusal to go below the node. The nodes
seen, with their states, are returned in order. A root that is missing is still seen. -/
def walk (state : σ) : Node → List (σ × Node)
  | .missing => [(state, .missing)]
  | node => walkChild descend state node

end Walk

/-- The nodes seen by a callback that answers whether to go below a node. -/
def inspect (enter : Node → Bool) (node : Node) : List Node :=
  (walk (fun (_ : Unit) node => if enter node then some () else none) () node).map (·.2)

/-- The nodes of a tree with how far each is below the root. -/
def depths (node : Node) : List (Nat × Node) :=
  walk (fun depth _ => some (depth + 1)) 0 node

end DisplayFilter.Node
