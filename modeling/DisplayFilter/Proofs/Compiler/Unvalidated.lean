/-
**Which trees compile without validation.**

A tree may be compiled without being validated first. What gets through then is known exactly: of
the findings that validation would have reported, code generation passes over three kinds, and any
other finding, anywhere in the tree, stops it with a violation.

This is told of trees whose tests have operators and quantifiers with codes of their own and whose
negations have no right side. Code generation does not look at the right side of a negation at all.

* `compileTree_unvalidated`: a tree compiles without validation exactly if every finding about it is
  of the three kinds.
-/

import DisplayFilter.Proofs.Compiler.WellFormed
import DisplayFilter.Proofs.Validation.Tolerance

namespace DisplayFilter

variable {config : CompileConfig} {root : Node}

/-- A tree that does not compile without validation is refused with a single violation. -/
theorem compileTree_error_unvalidated (skips : config.skipValidation = true)
    (refused : ¬ ∃ compiled, compileTree config root = .ok compiled) :
    ∃ violation : Violation, compileTree config root = .error violation.toFault := by
  cases ended : compileTree config root with
  | ok compiled => exact absurd ⟨compiled, ended⟩ refused
  | error fault =>
    by_cases present : root.isPresent = true
    · rw [compileTree_admitted present (.inl skips)] at ended
      cases made : generated config.registry config.returnValues root with
      | error violation =>
        rw [made] at ended
        exact ⟨violation, ended.symm⟩
      | ok original =>
        rw [made] at ended
        cases ended
    · match root with
      | .missing =>
        cases ended
        exact ⟨.nothingToCompile, rfl⟩

/-- **What is compiled without validation.** A tree whose tests have known codes and whose negations
have no right side compiles without validation if and only if every finding that validation reports
is an empty set, a quantifier on a logical operator, or a number of arguments of a function other
than `len` and `vals`. Any other finding stops the compilation with a violation. -/
theorem compileTree_unvalidated (config : CompileConfig) (root : Node)
    (skips : config.skipValidation = true)
    (known : ∀ node ∈ root.preorder, node.hasKnownCodes = true)
    (single : ∀ node ∈ root.preorder, node.negatesOne = true) :
    ((∃ compiled, compileTree config root = .ok compiled) ↔
      ∀ finding ∈ validate root, finding.IsTolerated) ∧
    ((∃ finding ∈ validate root, ¬ finding.IsTolerated) →
      ∃ violation : Violation, compileTree config root = .error violation.toFault) := by
  have compiles : (∃ compiled, compileTree config root = .ok compiled) ↔
      ∀ finding ∈ validate root, finding.IsTolerated := by
    rw [compiles_iff, ← isPredicate_iff_tolerated known single]
    exact and_iff_right (.inl skips)
  refine ⟨compiles, fun ⟨finding, reported, strict⟩ => ?_⟩
  refine compileTree_error_unvalidated skips fun compiled => strict ?_
  exact compiles.mp compiled finding reported

/-- A quantified conjunction of a membership test with an empty set and of a call without arguments
has three findings and compiles; a field without its definition has another one and does not. -/
theorem threeFindings_unvalidated :
    ((validate (.test .and .all
        (.test .member .any (.field ⟨some ⟨0, .empty, .empty, .empty⟩, none, false, false⟩) (.set []))
        (.call (some ⟨"abs", 1, 1⟩) []))).length = 3 ∧
      ∃ compiled, compileTree ⟨.identity, true, false, true⟩ (.test .and .all
        (.test .member .any (.field ⟨some ⟨0, .empty, .empty, .empty⟩, none, false, false⟩) (.set []))
        (.call (some ⟨"abs", 1, 1⟩) [])) = .ok compiled) ∧
    ∃ violation : Violation, compileTree ⟨.identity, true, false, true⟩
      (.test .not .baseline (.field ⟨none, none, false, false⟩) .missing) =
        .error violation.toFault := by
  have joined := compileTree_unvalidated ⟨.identity, true, false, true⟩ (.test .and .all
    (.test .member .any (.field ⟨some ⟨0, .empty, .empty, .empty⟩, none, false, false⟩) (.set []))
    (.call (some ⟨"abs", 1, 1⟩) [])) rfl (by decide) (by decide)
  have bare := compileTree_unvalidated ⟨.identity, true, false, true⟩
    (.test .not .baseline (.field ⟨none, none, false, false⟩) .missing) rfl (by decide) (by decide)
  refine ⟨⟨rfl, joined.1.mpr fun finding reported => ?_⟩, bare.2 ⟨.fieldWithoutInfo, ?_, nofun⟩⟩
  · exact isTolerated_of_lenient reported (by revert finding; decide)
  · exact List.mem_singleton.mpr rfl

end DisplayFilter
