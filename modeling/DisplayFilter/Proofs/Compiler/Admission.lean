/-
**Which valid trees compile.**

Validation looks at the operator and the quantifier of a test in its own way: it refuses arithmetic
operators and quantifiers on operators without quantified forms, but an operator or a quantifier
that is not declared at all passes it. Code generation has no opcode for such a test. All other
valid trees compile.

* `compileTree_of_valid`: a valid tree compiles exactly if its tests are declared.
* `undeclared_refused`: valid trees that do not compile.
-/

import DisplayFilter.Proofs.Compiler.WellFormed

namespace DisplayFilter

/-- **A valid tree compiles exactly if its tests are declared.** Whatever is asked for, a tree that
validation accepts is compiled if and only if every test in it has a declared operator and a
declared quantifier. -/
theorem compileTree_of_valid (config : CompileConfig) (root : Node) (valid : validate root = []) :
    (∃ compiled, compileTree config root = .ok compiled) ↔
      ∀ node ∈ root.preorder, node.isDeclared = true := by
  have admitted : validationFault? root = none := by
    unfold validationFault?
    rw [valid]
  rw [compiles_iff, isPredicate_of_valid valid]
  exact and_iff_right (.inr admitted)

/-- A comparison of a field with itself is valid and compiles. -/
theorem comparison_compiles :
    validate (.test .anyEq .all (.field ⟨some ⟨0, .empty, .empty, .empty⟩, none, false, false⟩)
      (.field ⟨some ⟨0, .empty, .empty, .empty⟩, none, false, false⟩)) = [] ∧
    ∃ compiled, compileTree ⟨.identity, true, false, false⟩
      (.test .anyEq .all (.field ⟨some ⟨0, .empty, .empty, .empty⟩, none, false, false⟩)
        (.field ⟨some ⟨0, .empty, .empty, .empty⟩, none, false, false⟩)) = .ok compiled :=
  ⟨rfl, (compileTree_of_valid _ _ rfl).mpr (by decide)⟩

/-- A test with an operator, or a quantifier, that is not declared is valid and does not compile. -/
theorem undeclared_refused :
    (validate (.test (.undeclared 99) .baseline
        (.field ⟨some ⟨0, .empty, .empty, .empty⟩, none, false, false⟩)
        (.field ⟨some ⟨0, .empty, .empty, .empty⟩, none, false, false⟩)) = [] ∧
      compileTree ⟨.identity, false, false, false⟩ (.test (.undeclared 99) .baseline
        (.field ⟨some ⟨0, .empty, .empty, .empty⟩, none, false, false⟩)
        (.field ⟨some ⟨0, .empty, .empty, .empty⟩, none, false, false⟩)) =
      .error (Violation.notATest (.undeclared 99)).toFault) ∧
    validate (.test .anyEq (.undeclared 7)
        (.field ⟨some ⟨0, .empty, .empty, .empty⟩, none, false, false⟩)
        (.field ⟨some ⟨0, .empty, .empty, .empty⟩, none, false, false⟩)) = [] ∧
      compileTree ⟨.identity, false, false, false⟩ (.test .anyEq (.undeclared 7)
        (.field ⟨some ⟨0, .empty, .empty, .empty⟩, none, false, false⟩)
        (.field ⟨some ⟨0, .empty, .empty, .empty⟩, none, false, false⟩)) =
      .error (Violation.noQuantifiedForm .anyEq (.undeclared 7)).toFault :=
  ⟨⟨rfl, rfl⟩, rfl, rfl⟩

end DisplayFilter
