import TensorArena.Frame.Basic

/-!
Steps as programs: trees of calls on a frame.

A call names an operation of a frame and its arguments. A program is finished with a
value, or makes a call and goes on with the answer. So a program can do all that a frame
offers and nothing else, and what a program may do is told from its calls.
-/

namespace TensorArena

/-- What a step may ask of its frame. -/
inductive Frame.Call where
  | bind (name : String) (pool : Pool) (size align : Nat)
  | bindTensor (name : String) (d : Tensor.Descriptor)
  | hasBinding (name : String)
  | bindingCount
  | binding (name : String)
  | modifyBinding (name : String) (change : Bytes → Bytes)
  | descriptor (name : String)
  | claimScratch (pool : Pool) (size align : Nat)
  | scratchBytes (id : ScratchId)
  | modifyScratch (id : ScratchId) (change : Bytes → Bytes)
  | scratchCount
  | releaseScratch
  | modifyPair (r q : Region) (change : Bytes → Bytes → Bytes × Bytes)
  | input (name : String)
  | modifyOutput (name : String) (change : Bytes → Bytes)
  | load (input binding : String)
  | store (binding output : String)
  | onArena (pool : Pool) (c : Arena.Call)
  | usage
  | peak
  | noteUsage
  | beginEvaluation
  | isEvaluating

/-- The answer to a call of a frame. -/
abbrev Frame.Call.Answer : Frame.Call → Type
  | .bind _ _ _ _ => Except Frame.Fault Unit
  | .bindTensor _ _ => Except Frame.Fault Unit
  | .hasBinding _ => Bool
  | .bindingCount => Nat
  | .binding _ => Except Frame.Fault Bytes
  | .modifyBinding _ _ => Except Frame.Fault Bytes
  | .descriptor _ => Except Frame.Fault Tensor.Descriptor
  | .claimScratch _ _ _ => Except Frame.Fault ScratchId
  | .scratchBytes _ => Except Frame.Fault Bytes
  | .modifyScratch _ _ => Except Frame.Fault Bytes
  | .scratchCount => Nat
  | .releaseScratch => Except Frame.Fault Unit
  | .modifyPair _ _ _ => Except Frame.Fault (Bytes × Bytes)
  | .input _ => Except Frame.Fault Bytes
  | .modifyOutput _ _ => Except Frame.Fault Bytes
  | .load _ _ => Except Frame.Fault Unit
  | .store _ _ => Except Frame.Fault Unit
  | .onArena _ c => c.Answer
  | .usage => PerPool Nat
  | .peak => PerPool Nat
  | .noteUsage => Unit
  | .beginEvaluation => Unit
  | .isEvaluating => Bool

/-- Carry out a call of a frame. -/
def Frame.perform (f : Frame) : (c : Frame.Call) → c.Answer × Frame
  | .bind name pool size align => f.bind name pool size align
  | .bindTensor name d => f.bindTensor name d
  | .hasBinding name => (f.bindings.contains name, f)
  | .bindingCount => (f.bindings.size, f)
  | .binding name => (f.binding name, f)
  | .modifyBinding name change => f.modifyBinding name change
  | .descriptor name => (f.descriptor name, f)
  | .claimScratch pool size align => f.claimScratch pool size align
  | .scratchBytes id => (f.scratchBytes id, f)
  | .modifyScratch id change => f.modifyScratch id change
  | .scratchCount => (f.scratch.length, f)
  | .releaseScratch => f.releaseScratch
  | .modifyPair r q change => f.modifyPair r q change
  | .input name => (f.input name, f)
  | .modifyOutput name change => f.modifyOutput name change
  | .load input binding => f.load input binding
  | .store binding output => f.store binding output
  | .onArena pool c => f.onArena pool c
  | .usage => (f.usage, f)
  | .peak => (f.peak, f)
  | .noteUsage => ((), f.noteUsage)
  | .beginEvaluation => ((), f.beginEvaluation)
  | .isEvaluating => (decide (f.phase = .evaluating), f)

/-- A program on a frame with a value of type `α` at its end. -/
inductive Program (α : Type) where
  | done (value : α)
  | call (c : Frame.Call) (next : c.Answer → Program α)

namespace Program

variable {α β : Type}

/-- One call. -/
def ask (c : Frame.Call) : Program c.Answer := .call c .done

/-- Go on with the value of a program. -/
def andThen : Program α → (α → Program β) → Program β
  | .done value, next => next value
  | .call c rest, next => .call c fun answer => (rest answer).andThen next

instance : Monad Program where
  pure := .done
  bind := andThen

/-- Run a program on a frame. -/
def run : Program α → Frame → α × Frame
  | .done value, f => (value, f)
  | .call c next, f =>
    let answered := f.perform c
    (next answered.1).run answered.2

@[simp] theorem run_pure (value : α) (f : Frame) :
    (pure value : Program α).run f = (value, f) := rfl

@[simp] theorem run_ask (c : Frame.Call) (f : Frame) : (ask c).run f = f.perform c := rfl

/-- A program that goes on runs its parts one after the other. -/
@[simp] theorem run_bind (p : Program α) (next : α → Program β) (f : Frame) :
    (p >>= next).run f = (next (p.run f).1).run (p.run f).2 := by
  induction p generalizing f with
  | done value => rfl
  | call c rest ih =>
    exact ih (f.perform c).1 (f.perform c).2

end Program

/-- A program that may fail. -/
abbrev Attempt (α : Type) : Type := ExceptT Frame.Fault Program α

end TensorArena
