/-
**Documents of TOML.**

A document is read expression by expression. Each one has to be well written, then its keys must not
be defined in another way, and then its values have to stand for constants; the first of these that
fails is what is wrong with the document.

* `Error`: what can be wrong with a document.
* `read`: the entries of a document.
-/

import DisplayFilter.Toml.Definition
import DisplayFilter.Toml.Expression

namespace DisplayFilter.Toml

/-- What can be wrong with a document. -/
inductive Error where
  | writing (error : SyntaxError)
  | definition (error : DefinitionError)
  | value (error : ValueError)
deriving DecidableEq, Repr

/-- The wording of an error. -/
def Error.message : Error → String
  | .writing error => "toml: " ++ error.message
  | .definition error => "toml: " ++ error.message
  | .value error => "toml: " ++ error.message

/-- What is known of a document while it is read. -/
structure Document where
  definitions : Definitions
  root : Constant

namespace Document

/-- The document without expressions. -/
def empty : Document := ⟨.none, .record []⟩

/-- One more table at the end of an array. -/
def appendTable : Constant → Constant
  | .list items => .list (items ++ [.record []])
  | _ => .list [.record []]

/-- The document with one more expression. -/
def add (document : Document) : Expression → Except Error Document
  | .table key => do
    let definitions ← (document.definitions.openTable key).mapError .definition
    return ⟨definitions, update id key document.root⟩
  | .arrayTable key => do
    let definitions ← (document.definitions.openArrayTable key).mapError .definition
    return ⟨definitions, update appendTable key document.root⟩
  | .assignment key value => do
    let definitions ← (document.definitions.assign key).mapError .definition
    (checkValue value).mapError .definition
    let constant ← value.constant.mapError .value
    return ⟨definitions, update (fun _ => constant) (definitions.current ++ key) document.root⟩

/-- The document with the expressions of a text; each but the first is on a line of its own. -/
def addAll : (fuel : Nat) → (first : Bool) → Document → Source → Except Error Document
  | 0, _, document, _ => .ok document
  | _, _, document, [] => .ok document
  | fuel + 1, first, document, text => do
    let text ← if first then pure text else (lineEnd text).mapError .writing
    let (expression?, rest) ← (expression text).mapError .writing
    let document ← match expression? with
      | some expression => document.add expression
      | none => pure document
    addAll fuel false document rest

end Document

/-- The entries of a document. -/
def read (text : RawText) : Except Error Entries := do
  let document ← Document.addAll (text.glyphs.length + 2) true .empty text.glyphs
  return Entries.ofConstant document.root

end DisplayFilter.Toml
