/-
**Document trees.**

A document is a tree of scalars, sequences and mappings. The nodes with an anchor are numbered, and
an alias refers to its node by the number, because it may stand inside that very node.

* `Tree`: the trees.
* `Tree.resolved`: a node, seen through an alias.
* `Tree.hasDistinctKeys`: whether no two keys of a mapping are written alike.
-/

import DisplayFilter.Yaml.Meaning

namespace DisplayFilter.Yaml

/-- A node of a document. -/
inductive Tree where
  | scalar (tag : Tag) (text : String)
  | sequence (tag : Tag) (items : List Tree)
  | mapping (tag : Tag) (entries : List (Tree × Tree))
  /-- The alias of an anchor: the name, which alias of the document it is, and the number of the
  node. -/
  | alias (name : String) (occurrence target : Nat)

/-- The nodes with an anchor, by their numbers. -/
abbrev Anchors := Array Tree

namespace Tree

/-- A node that is left out. -/
def missing : Tree := .scalar .null ""

/-- A node, seen through an alias; what has an anchor is not itself an alias. -/
def resolved (anchors : Anchors) : Tree → Tree
  | .alias _ _ target => anchors[target]?.getD missing
  | tree => tree

/-- The kind of a node; an alias has none of its own. -/
def ownTag? : Tree → Option Tag
  | .scalar tag _ => some tag
  | .sequence tag _ => some tag
  | .mapping tag _ => some tag
  | .alias .. => none

/-- The entries of a mapping. -/
def entries? : Tree → Option (List (Tree × Tree))
  | .mapping _ entries => some entries
  | _ => none

/-- Whether a key asks to merge other mappings into its own. -/
def isMerge : Tree → Bool
  | .scalar .merge text => text = "<<"
  | _ => false

/-- Whether two keys are written alike: the same text, the same alias, or collections of one kind,
which have no text of their own. -/
def isWrittenLike : Tree → Tree → Bool
  | .scalar _ text, .scalar _ other => text = other
  | .sequence .., .sequence .. => true
  | .mapping .., .mapping .. => true
  | .alias name _ _, .alias other _ _ => name = other
  | _, _ => false

/-- Whether no two keys are written alike. -/
def hasDistinctKeys : List (Tree × Tree) → Bool
  | [] => true
  | (key, _) :: entries =>
    !entries.any (fun entry => key.isWrittenLike entry.1) && hasDistinctKeys entries

end Tree

end DisplayFilter.Yaml
