import DocumentNormalizer.Main
import DocumentNormalizer.Proofs.Collected
import DocumentNormalizer.Proofs.Events
import DocumentNormalizer.Proofs.Depth
import DocumentNormalizer.Proofs.Reach
import DocumentNormalizer.Proofs.Completion
import DocumentNormalizer.Proofs.Rewriting
import DocumentNormalizer.Proofs.Validation
import DocumentNormalizer.Proofs.Idempotence
import DocumentNormalizer.Proofs.Conservation
import DocumentNormalizer.Proofs.Cycles
import DocumentNormalizer.Proofs.Validity
import DocumentNormalizer.Proofs.Safety
import DocumentNormalizer.Proofs.Spots
import DocumentNormalizer.Proofs.Locality
import DocumentNormalizer.Proofs.Verdict
import DocumentNormalizer.Proofs.Typing
import DocumentNormalizer.Proofs.ResponseKeys
import DocumentNormalizer.Proofs.Reliance
import DocumentNormalizer.Proofs.Reordering
import DocumentNormalizer.Proofs.Acceptance
import DocumentNormalizer.Proofs.Inlining
import DocumentNormalizer.Proofs.Lexing
import DocumentNormalizer.Proofs.Unplaced
import DocumentNormalizer.Proofs.Parsing
import DocumentNormalizer.Proofs.Reprinting
import DocumentNormalizer.Proofs.Writing
import DocumentNormalizer.Proofs.Building
import DocumentNormalizer.Proofs.Commands
import DocumentNormalizer.Proofs.Survey
import DocumentNormalizer.Proofs.Patterns
import DocumentNormalizer.Proofs.Finding
import DocumentNormalizer.Proofs.Preservation
import DocumentNormalizer.Proofs.Recollection
import DocumentNormalizer.Proofs.CycleSearch
import DocumentNormalizer.Proofs.Termination
import DocumentNormalizer.Proofs.Astray
import DocumentNormalizer.Proofs.Appending
import DocumentNormalizer.Proofs.Coverage
import DocumentNormalizer.Proofs.Rounds
import DocumentNormalizer.Proofs.Detours
import DocumentNormalizer.Proofs.Rejection
import DocumentNormalizer.Proofs.Commuting
import DocumentNormalizer.Proofs.Composition
import DocumentNormalizer.Proofs.Renaming
import DocumentNormalizer.Proofs.Gathering
import DocumentNormalizer.Proofs.Spellings
import DocumentNormalizer.Proofs.Anchoring
import DocumentNormalizer.Proofs.Looking
import DocumentNormalizer.Proofs.Relocation
import DocumentNormalizer.Proofs.Fitting
import DocumentNormalizer.Proofs.Failures
import DocumentNormalizer.Proofs.Display
import DocumentNormalizer.Proofs.Inspection
