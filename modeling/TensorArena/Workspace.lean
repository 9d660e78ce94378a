import TensorArena.Arena.Call

/-!
The workspace: the metadata arena and the ram arena that are installed together.

Work reaches the two arenas by pool. The arenas are only ever replaced as a pair, each
arena serves the pool it is installed for, and every change goes through
`Workspace.perform`, so that this stays so.
-/

namespace TensorArena

/-- The installed pair of arenas. -/
structure Workspace where
  arenas : PerPool Arena
  serves : ∀ p, (arenas.get p).pool = p

namespace Workspace

/-- Install a pair of arenas. Each has to serve its pool; metadata is checked first. -/
def install (metadata ram : Arena) : Except Arena.Fault Workspace :=
  if hm : metadata.pool = .metadata then
    if hr : ram.pool = .ram then
      .ok ⟨⟨metadata, ram⟩, fun | .metadata => hm | .ram => hr⟩
    else .error (.wrongPool .ram ram.pool)
  else .error (.wrongPool .metadata metadata.pool)

variable (w : Workspace)

/-- Replace both arenas, or neither where one of the new ones serves the wrong pool. -/
def replace (metadata ram : Arena) : Except Arena.Fault Unit × Workspace :=
  match install metadata ram with
  | .error fault => (.error fault, w)
  | .ok new => (.ok (), new)

/-- The arena installed for `p`. -/
def arena (p : Pool) : Arena := w.arenas.get p

/-- Carry out a call on the arena installed for `p`. -/
def perform (p : Pool) (c : Arena.Call) : c.Answer × Workspace :=
  let done := (w.arena p).perform c
  (done.1, {
    arenas := w.arenas.set p done.2
    serves := fun q => by
      by_cases h : q = p
      · subst h
        simp [done, arena, w.serves]
      · rw [PerPool.get_set_of_ne _ _ h]
        exact w.serves q })

/-- A call reaches the arena of its pool and leaves the other arena as it was. -/
theorem arena_perform (p q : Pool) (c : Arena.Call) :
    (w.perform p c).2.arena q = if q = p then ((w.arena p).perform c).2 else w.arena q := by
  by_cases h : q = p
  · subst h
    simp [perform, arena]
  · simp [perform, arena, h, PerPool.get_set_of_ne]

/-- The installed arena serves its pool. -/
@[simp] theorem pool_arena (p : Pool) : (w.arena p).pool = p := w.serves p

/-- Claim bytes in `p`. -/
def allocate (p : Pool) (size align : Nat) : Except Arena.Fault Handle × Workspace :=
  w.perform p (.allocate size align)

/-- Give a claim back to the arena of its pool. -/
def release (h : Handle) : Except Arena.Fault Unit × Workspace :=
  w.perform h.pool (.release h)

/-- The bytes of a live handle. -/
def bytes (h : Handle) : Except Arena.Fault Bytes :=
  (w.arena h.pool).bytes h

/-- Change the bytes of a live handle. Answers the bytes before the change. -/
def modify (h : Handle) (change : Bytes → Bytes) : Except Arena.Fault Bytes × Workspace :=
  w.perform h.pool (.modify h change)

/-- Change the bytes of two handles, which may lie in different pools. Answers the bytes
before the change, in argument order; of two refusals the first handle's wins. -/
def modifyPair (h k : Handle) (change : Bytes → Bytes → Bytes × Bytes) :
    Except Arena.Fault (Bytes × Bytes) × Workspace :=
  if h.pool = k.pool then
    w.perform h.pool (.modifyPair h k change)
  else
    match w.bytes h with
    | .error fault => (.error fault, w)
    | .ok p =>
      match w.bytes k with
      | .error fault => (.error fault, w)
      | .ok q =>
        let after := change p q
        let w := (w.modify h fun _ => after.1).2
        (.ok (p, q), (w.modify k fun _ => after.2).2)

/-- The present state of both arenas. -/
def mark : PerPool Mark := w.arenas.map Arena.mark

/-- Bring both arenas back to marks. Both marks are checked, metadata first, before either
arena moves. -/
def unwindTo (m : PerPool Mark) : Except Arena.Fault Unit × Workspace :=
  match (w.arena .metadata).checkMark m.metadata with
  | .error fault => (.error fault, w)
  | .ok () =>
    match (w.arena .ram).checkMark m.ram with
    | .error fault => (.error fault, w)
    | .ok () =>
      match w.perform .metadata (.unwindTo m.metadata) with
      | (.error fault, w) => (.error fault, w)
      | (.ok (), w) => w.perform .ram (.unwindTo m.ram)

/-- Give everything back in both pools. -/
def resetAll : Workspace :=
  ((w.perform .metadata .reset).2.perform .ram .reset).2

/-- The high-water mark of each pool. -/
def usage : PerPool Nat := w.arenas.map Arena.highWater

/-- The largest high-water mark that each arena has ever had. -/
def peak : PerPool Nat := w.arenas.map Arena.peak

/-- The capacity of each arena. -/
def capacities : Capacities := w.arenas.map Arena.capacity

end Workspace

end TensorArena
