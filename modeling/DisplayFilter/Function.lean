/-
**Functions of filter expressions.**

A function has a name and bounds on its number of arguments. An upper bound of zero means that there
is none.
-/

namespace DisplayFilter

/-- The name of a function and the bounds on its number of arguments. -/
structure FunctionDef where
  name : String
  minArgs : Int
  maxArgs : Int
deriving DecidableEq, Repr

namespace FunctionDef

/-- Whether so many arguments satisfy the definition. -/
def accepts (definition : FunctionDef) (count : Int) : Bool :=
  definition.minArgs ≤ count && (definition.maxArgs = 0 || count ≤ definition.maxArgs)

/-- The functions every filter may call, in alphabetical order. -/
def builtin : List FunctionDef :=
  [⟨"abs", 1, 1⟩, ⟨"count", 1, 1⟩, ⟨"len", 1, 1⟩, ⟨"lower", 1, 1⟩, ⟨"max", 1, 0⟩, ⟨"min", 1, 0⟩,
    ⟨"string", 1, 1⟩, ⟨"upper", 1, 1⟩, ⟨"vals", 1, 1⟩]

/-- The names of the built-in functions. -/
def names : List String :=
  builtin.map (·.name)

/-- The built-in function with the given name. -/
def lookup? (name : String) : Option FunctionDef :=
  builtin.find? fun definition => definition.name == name

end FunctionDef

end DisplayFilter
