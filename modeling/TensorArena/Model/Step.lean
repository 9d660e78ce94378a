import TensorArena.Frame.Program

/-!
Steps: named programs with the bytes they ask the plan for.

A declaring step states what its bindings take in each pool, an evaluating step the most
that its scratch takes at once. The statement is only what the plan is told; a run does
not hold a step to it. Steps may keep a state of their own, of type `σ`, which lives on
from run to run.

The standard steps are here: a tensor or a raw buffer is declared, an input is loaded, an
output is stored, and a binding is counted up through scratch.
-/

namespace TensorArena

/-- A step of a model. -/
structure Step (σ : Type) where
  name : String
  /-- The bytes that the plan counts for this step. -/
  demand : PerPool Nat
  body : σ → Program (Except Frame.Fault Unit × σ)

namespace Step

variable {σ : Type}

/-- The body of a step that keeps no state. -/
def stateless (p : Attempt Unit) : σ → Program (Except Frame.Fault Unit × σ) :=
  fun s => do return (← p.run, s)

/-! ### Declaring -/

/-- The ram bytes that a tensor may take, padding included. A size that is no byte count
asks for the largest one, so that no plan accepts it. -/
def tensorBytes (d : Tensor.Descriptor) : Nat :=
  match d.byteLength with
  | .ok length => ByteCount.satAdd length (d.dtype.align - 1)
  | .error _ => ByteCount.largest

/-- What declaring a tensor may take: its payload in ram, its record in metadata. -/
def tensorDemand (d : Tensor.Descriptor) : PerPool Nat :=
  ⟨Tensor.Record.size + Tensor.Record.align - 1, tensorBytes d⟩

/-- Bind a tensor under the step's own name. -/
def tensor (name : String) (d : Tensor.Descriptor) : Step σ where
  name
  demand := tensorDemand d
  body := stateless (.mk (.ask (.bindTensor name d)))

/-- Bind a raw buffer. -/
def buffer (name binding : String) (pool : Pool) (size align : Nat) : Step σ where
  name
  demand := .only pool (size + align - 1)
  body := stateless (.mk (.ask (.bind binding pool size align)))

/-- Bind a raw buffer in ram with no alignment; the step is named after the binding. -/
def ramBuffer (binding : String) (size : Nat) : Step σ :=
  buffer s!"declare_{binding}" binding .ram size 1

/-! ### Evaluating -/

/-- Copy a caller's input into a binding. -/
def load (input binding : String) : Step σ where
  name := s!"load_{input}"
  demand := .zero
  body := stateless (.mk (.ask (.load input binding)))

/-- Copy a binding into a caller's output. -/
def store (binding output : String) : Step σ where
  name := s!"store_{output}"
  demand := .zero
  body := stateless (.mk (.ask (.store binding output)))

/-- Each byte and one, modulo 256, where the sizes agree; the second buffer as it was
otherwise. -/
def countUp (source staged : Bytes) : Bytes × Bytes :=
  if source.length = staged.length then (source, source.map (· + 1)) else (source, staged)

/-- Add one to every byte of a binding, through `length` bytes of scratch in `pool`. -/
def increment (name binding : String) (pool : Pool) (length : Nat) : Step σ where
  name
  demand := .only pool length
  body := stateless do
    let staging ← ExceptT.mk (.ask (.claimScratch pool length 1))
    let (source, staged) ←
      ExceptT.mk (.ask (.modifyPair (.binding binding) (.scratch staging) countUp))
    if source.length ≠ staged.length then
      throw (.sizeMismatch binding staged.length source.length)
    let _ ← ExceptT.mk
      (.ask (.modifyPair (.binding binding) (.scratch staging) fun _ staged => (staged, staged)))
    return ()

end Step

end TensorArena
