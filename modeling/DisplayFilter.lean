import DisplayFilter.Main
import DisplayFilter.Proofs.Compiler.Admission
import DisplayFilter.Proofs.Compiler.Discipline
import DisplayFilter.Proofs.Compiler.Meaning
import DisplayFilter.Proofs.Compiler.Pending
import DisplayFilter.Proofs.Compiler.Unvalidated
import DisplayFilter.Proofs.Registers.Allocation
import DisplayFilter.Proofs.Registers.Loading
import DisplayFilter.Proofs.Reads.Recording
import DisplayFilter.Proofs.Compiler.Reads
import DisplayFilter.Proofs.Decoding.Trees
import DisplayFilter.Proofs.Decoding.Findings
import DisplayFilter.Proofs.Decoding.Registration
import DisplayFilter.Proofs.Field.Chains
import DisplayFilter.Proofs.Interchange.SameName
import DisplayFilter.Proofs.Interchange.Growth
import DisplayFilter.Proofs.Program.Handoff
import DisplayFilter.Proofs.Optimizer.Effect
import DisplayFilter.Proofs.Optimizer.Fixpoint
import DisplayFilter.Proofs.ByteRange.Written
import DisplayFilter.Proofs.Suggestion.Nearest
import DisplayFilter.Proofs.Traversal.Agreement
import DisplayFilter.Proofs.Text.Distance
