import TensorArena.Frame.Fault
import TensorArena.Table
import TensorArena.Tensor.Record
import TensorArena.Workspace

/-!
The frame: what a step of a run works on.

A frame holds the installed arenas, the caller's tensors, the buffers bound by name in
this run, and the stack of scratch claims. Bindings are made while the run declares and
keep their names for the run; scratch is a stack over both pools that is released as a
whole. Both take bytes from the same arenas, so releasing scratch also gives back what was
bound after it. The frame keeps the largest usage it has noted, which is not every level that an arena has
passed through: usage is noted when a binding or a scratch claim succeeds, when a
binding fails half way, and when the run asks for it.

Every operation answers with the frame that it leaves behind.
-/

namespace TensorArena

/-- A named buffer: its payload and, for a tensor, its descriptor record. -/
structure Binding where
  payload : Handle
  record : Option Handle
deriving DecidableEq, Repr

/-- A scratch claim and the state of its arena just before it. -/
structure ScratchEntry where
  mark : Mark
  handle : Handle
deriving DecidableEq, Repr

/-- The position of a scratch claim on the stack, counted from the bottom. It names
whatever claim stands there. -/
structure ScratchId where
  index : Nat
deriving DecidableEq, Repr

/-- A buffer that a step can name. -/
inductive Region where
  | binding (name : String)
  | scratch (id : ScratchId)
deriving DecidableEq, Repr

/-- Buffers are bound while declaring; evaluation may only use scratch. -/
inductive Phase where
  | declaring
  | evaluating
deriving DecidableEq, Repr

/-- What a step works on. -/
structure Frame where
  workspace : Workspace
  inputs : Table Bytes
  outputs : Table Bytes
  bindings : Table Binding
  /-- Scratch claims, newest first. -/
  scratch : List ScratchEntry
  phase : Phase
  /-- The largest usage noted. -/
  peak : PerPool Nat

/-- Release scratch claims, newest first. Each is released and its arena then brought
back to the state before the claim, even where the release was refused. The first fault
is kept and does not stop the others. -/
def Workspace.releaseScratch (w : Workspace) : List ScratchEntry → Option Arena.Fault × Workspace
  | [] => (none, w)
  | entry :: older =>
    match w.release entry.handle with
    | (released, w) =>
      match w.perform entry.handle.pool (.unwindTo entry.mark) with
      | (unwound, w) =>
        match w.releaseScratch older with
        | (later, w) =>
          match released, unwound with
          | .error fault, _ => (some fault, w)
          | .ok (), .error fault => (some fault, w)
          | .ok (), .ok () => (later, w)

namespace Frame

/-- A frame at the start of a run. -/
def start (w : Workspace) (inputs outputs : Table Bytes) : Frame :=
  { workspace := w, inputs, outputs, bindings := Table.empty, scratch := [], phase := .declaring
    peak := w.usage }

variable (f : Frame)

/-- The high-water mark of each pool. -/
def usage : PerPool Nat := f.workspace.usage

/-- Raise the noted peak to the present usage. -/
def noteUsage : Frame := { f with peak := f.peak.larger f.usage }

/-- From here on nothing can be bound. -/
def beginEvaluation : Frame := { f with phase := .evaluating }

/-! ### Bindings -/

/-- The name can be bound: the frame is declaring and the name is free. -/
def checkBindable (name : String) : Except Fault Unit :=
  if f.phase ≠ .declaring then .error (.lateBinding name)
  else if f.bindings.contains name then .error (.duplicateBinding name)
  else .ok ()

/-- Bind `size` bytes in `pool` under `name`. -/
def bind (name : String) (pool : Pool) (size align : Nat) : Except Fault Unit × Frame :=
  match f.checkBindable name with
  | .error fault => (.error fault, f)
  | .ok () =>
    match f.workspace.allocate pool size align with
    | (.error fault, w) => (.error (.arena fault), { f with workspace := w })
    | (.ok payload, w) =>
      let f := { f with workspace := w, bindings := f.bindings.insert name ⟨payload, none⟩ }
      (.ok (), f.noteUsage)

/-- The payload size of a tensor that can be bound: its rank fits a record and its size is
a byte count. -/
def payloadLength (d : Tensor.Descriptor) : Except Tensor.Fault Nat :=
  if Tensor.maxRank < d.shape.length then .error (.rankTooLarge d.shape.length) else d.byteLength

/-- Write the record of a tensor whose payload is claimed. -/
def writeRecord (d : Tensor.Descriptor) (record : Handle) : Except Fault Unit × Frame :=
  match f.workspace.bytes record with
  | .error fault => (.error (.arena fault), f)
  | .ok bytes =>
    match d.encodeInto bytes with
    | (.error fault, _) => (.error (.descriptor fault), f)
    | (.ok (), bytes) => (.ok (), { f with workspace := (f.workspace.modify record fun _ => bytes).2 })

/-- Bind a tensor under `name`: its payload in the ram pool, then its descriptor record in
the metadata pool. The record holds the payload's offset. Where the record finds no space
usage is noted and the payload is given back; padding below the payload stays claimed. -/
def bindTensor (name : String) (d : Tensor.Descriptor) : Except Fault Unit × Frame :=
  match f.checkBindable name with
  | .error fault => (.error fault, f)
  | .ok () =>
    match payloadLength d with
    | .error fault => (.error (.descriptor fault), f)
    | .ok length =>
      match f.workspace.allocate .ram length d.dtype.align with
      | (.error fault, w) => (.error (.arena fault), { f with workspace := w })
      | (.ok payload, w) =>
        match w.allocate .metadata Tensor.Record.size Tensor.Record.align with
        | (.error fault, w) =>
          let f := noteUsage { f with workspace := w }
          match f.workspace.release payload with
          | (.error again, w) => (.error (.arena again), { f with workspace := w })
          | (.ok (), w) => (.error (.arena fault), { f with workspace := w })
        | (.ok record, w) =>
          match writeRecord { f with workspace := w } { d with offset := payload.offset } record with
          | (.error fault, f) => (.error fault, f)
          | (.ok (), f) =>
            let f := { f with bindings := f.bindings.insert name ⟨payload, some record⟩ }
            (.ok (), f.noteUsage)

/-- What is bound under a name. -/
def lookup (name : String) : Except Fault Binding :=
  match f.bindings.get? name with
  | none => .error (.unknownBinding name)
  | some b => .ok b

/-- The payload of a binding. -/
def binding (name : String) : Except Fault Bytes :=
  match f.lookup name with
  | .error fault => .error fault
  | .ok b => (f.workspace.bytes b.payload).mapError .arena

/-- Change the bytes of a live handle. Answers the bytes before the change. -/
def modifyHandle (h : Handle) (change : Bytes → Bytes) : Except Fault Bytes × Frame :=
  match f.workspace.modify h change with
  | (before, w) => (before.mapError .arena, { f with workspace := w })

/-- Change the payload of a binding. Answers the bytes before the change. -/
def modifyBinding (name : String) (change : Bytes → Bytes) : Except Fault Bytes × Frame :=
  match f.lookup name with
  | .error fault => (.error fault, f)
  | .ok b => f.modifyHandle b.payload change

/-- The descriptor in the record of a bound tensor. -/
def descriptor (name : String) : Except Fault Tensor.Descriptor :=
  match f.lookup name with
  | .error fault => .error fault
  | .ok ⟨_, none⟩ => .error (.missingDescriptor name)
  | .ok ⟨_, some record⟩ =>
    match f.workspace.bytes record with
    | .error fault => .error (.arena fault)
    | .ok bytes => (Tensor.Descriptor.decode bytes).mapError .descriptor

/-! ### Scratch -/

/-- Claim scratch on top of the stack. -/
def claimScratch (pool : Pool) (size align : Nat) : Except Fault ScratchId × Frame :=
  let mark := (f.workspace.arena pool).mark
  match f.workspace.allocate pool size align with
  | (.error fault, w) => (.error (.arena fault), { f with workspace := w })
  | (.ok handle, w) =>
    let id : ScratchId := ⟨f.scratch.length⟩
    (.ok id, noteUsage { f with workspace := w, scratch := ⟨mark, handle⟩ :: f.scratch })

/-- The scratch claim at a position of the stack. -/
def lookupScratch (id : ScratchId) : Except Fault Handle :=
  match f.scratch.reverse[id.index]? with
  | none => .error (.unknownScratch id.index)
  | some entry => .ok entry.handle

/-- The bytes of a scratch claim. -/
def scratchBytes (id : ScratchId) : Except Fault Bytes :=
  match f.lookupScratch id with
  | .error fault => .error fault
  | .ok h => (f.workspace.bytes h).mapError .arena

/-- Change the bytes of a scratch claim. Answers the bytes before the change. -/
def modifyScratch (id : ScratchId) (change : Bytes → Bytes) : Except Fault Bytes × Frame :=
  match f.lookupScratch id with
  | .error fault => (.error fault, f)
  | .ok h => f.modifyHandle h change

/-- Release the whole scratch stack. It is empty afterwards whatever the outcome. -/
def releaseScratch : Except Fault Unit × Frame :=
  match f.workspace.releaseScratch f.scratch with
  | (first, w) =>
    let f := { f with workspace := w, scratch := [] }
    match first with
    | none => (.ok (), f)
    | some fault => (.error (.arena fault), f)

/-! ### Pairs of regions -/

/-- The claim behind a region. -/
def resolve : Region → Except Fault Handle
  | .binding name =>
    match f.lookup name with
    | .error fault => .error fault
    | .ok b => .ok b.payload
  | .scratch id => f.lookupScratch id

/-- Change the bytes of two regions. Answers the bytes before the change, in argument
order. -/
def modifyPair (r q : Region) (change : Bytes → Bytes → Bytes × Bytes) :
    Except Fault (Bytes × Bytes) × Frame :=
  match f.resolve r with
  | .error fault => (.error fault, f)
  | .ok h =>
    match f.resolve q with
    | .error fault => (.error fault, f)
    | .ok k =>
      match f.workspace.modifyPair h k change with
      | (before, w) => (before.mapError .arena, { f with workspace := w })

/-! ### The caller's tensors -/

/-- The bytes of an input tensor. -/
def input (name : String) : Except Fault Bytes :=
  match f.inputs.get? name with
  | none => .error (.missingInput name)
  | some bytes => .ok bytes

/-- Change the bytes of an output tensor, whose size stays. Answers the bytes before the
change. -/
def modifyOutput (name : String) (change : Bytes → Bytes) : Except Fault Bytes × Frame :=
  match f.outputs.get? name with
  | none => (.error (.missingOutput name), f)
  | some before =>
    (.ok before, { f with outputs := f.outputs.insert name (Bytes.overlay (change before) before) })

/-- Copy an input tensor into a binding of its size. -/
def load (input binding : String) : Except Fault Unit × Frame :=
  match f.input input with
  | .error fault => (.error fault, f)
  | .ok source =>
    match f.binding binding with
    | .error fault => (.error fault, f)
    | .ok target =>
      if target.length ≠ source.length then
        (.error (.sizeMismatch binding target.length source.length), f)
      else
        (.ok (), (f.modifyBinding binding fun _ => source).2)

/-- Copy a binding into an output tensor of its size. -/
def store (binding output : String) : Except Fault Unit × Frame :=
  match f.binding binding with
  | .error fault => (.error fault, f)
  | .ok source =>
    match f.outputs.get? output with
    | none => (.error (.missingOutput output), f)
    | some target =>
      if target.length ≠ source.length then
        (.error (.sizeMismatch output target.length source.length), f)
      else
        (.ok (), (f.modifyOutput output fun _ => source).2)

/-! ### The arenas themselves -/

/-- Carry out a call on the arena of `pool`. -/
def onArena (pool : Pool) (c : Arena.Call) : c.Answer × Frame :=
  match f.workspace.perform pool c with
  | (answer, w) => (answer, { f with workspace := w })

end Frame

end TensorArena
