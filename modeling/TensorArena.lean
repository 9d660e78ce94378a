import TensorArena.Arena.Inspect
import TensorArena.Emit.Inspect
import TensorArena.Model.Inspect
import TensorArena.Model.Layered
import TensorArena.Model.Misstep
import TensorArena.Proofs.Arena.Discard
import TensorArena.Proofs.Arena.Refinement
import TensorArena.Proofs.Model.Restore
import TensorArena.Proofs.Arena.History
import TensorArena.Proofs.Arena.Acceptance
import TensorArena.Proofs.Arena.Content
import TensorArena.Proofs.Arena.Isolation
import TensorArena.Proofs.Workspace.Stack
import TensorArena.Proofs.Frame.Claims
import TensorArena.Proofs.Tensor.Record
import TensorArena.Proofs.Frame.Bindings
import TensorArena.Proofs.Frame.Calls
import TensorArena.Proofs.Model.Sufficiency
import TensorArena.Proofs.Arena.Bounds
import TensorArena.Proofs.Arena.Spares
import TensorArena.Proofs.Workspace.Refusal
import TensorArena.Proofs.Frame.Lifetime
import TensorArena.Proofs.Model.Leftover
import TensorArena.Proofs.Arena.Reset
import TensorArena.Proofs.Workspace.Overlap
import TensorArena.Proofs.Model.LayeredRun
import TensorArena.Proofs.Model.Twins
import TensorArena.Proofs.Tensor.RoundTrip
import TensorArena.Proofs.Emit.FileScope
import TensorArena.Proofs.Model.Pipeline
import TensorArena.Proofs.Emit.Agreement
import TensorArena.Proofs.Emit.Acceptance
import TensorArena.Proofs.Emit.Unambiguous
import TensorArena.Proofs.Model.Planning
import TensorArena.Proofs.Frame.Atomicity
import TensorArena.Proofs.Arena.Nesting
import TensorArena.Proofs.Frame.Leaks
import TensorArena.Proofs.Tensor.Size
import TensorArena.Proofs.Model.Declarable
import TensorArena.Proofs.Frame.ScratchIds
import TensorArena.Proofs.Model.Peak
import TensorArena.Proofs.Model.Names
