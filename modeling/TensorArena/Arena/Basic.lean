import TensorArena.Arena.Buffer
import TensorArena.Arena.Fault
import TensorArena.Arena.Handle

/-!
An arena: one buffer from which byte ranges are claimed and given back in stack order.

The high-water mark is the first byte above every claim. Claiming moves it up, past
padding for the alignment; releasing the most recent claim or unwinding to a mark moves
it down. The arena keeps no stack. It tells live claims from dead ones by four things:

* the epoch, which counts resets;
* the clock, which numbers claims and also ticks at every release and unwind, so that no
  later mark falls among the numbers discarded then;
* the top, the most recent live claim, which every handle and mark copies;
* one range of issue numbers discarded in this epoch.

Every operation answers with the state that it leaves behind. A refused operation leaves
the arena as it was.
-/

namespace TensorArena

/-- A half-open range of issue numbers. -/
structure IssueRange where
  low : Nat
  high : Nat
deriving DecidableEq, Repr

namespace IssueRange

/-- No issue number. -/
def empty : IssueRange := ⟨0, 0⟩

/-- An issue number lies in the interval. -/
def holds (i : IssueRange) (seq : Nat) : Bool := i.low ≤ seq && seq < i.high

/-- A clock reading shows that a number of the interval had been issued before it was
taken and discarded after. -/
def discards (i : IssueRange) (clock : Nat) : Bool := i.low < clock && clock ≤ i.high

/-- The interval after the numbers `first`, ..., `clock - 1` are discarded too. What lies
between the old interval and `first` stays alive, so where the two do not meet the old
interval is given up. -/
def bury (i : IssueRange) (first clock : Nat) : IssueRange :=
  if first ≤ i.high then ⟨min i.low first, clock⟩ else ⟨first, clock⟩

end IssueRange

/-- One arena. Its capacity is the size of its buffer. -/
structure Arena where
  id : ArenaId
  pool : Pool
  buffer : Buffer
  /-- The first byte above every claim. -/
  highWater : Nat
  /-- The largest high-water mark so far. -/
  peak : Nat
  /-- Resets so far, in 32 bits. -/
  epoch : UInt32
  /-- The next issue number. -/
  clock : Nat
  /-- The most recent live claim. -/
  top : Top
  /-- Issue numbers discarded in this epoch. -/
  dead : IssueRange
  /-- Scopes opened so far. -/
  scopes : Nat
deriving DecidableEq, Repr

namespace Arena

/-- An empty arena of zero bytes. -/
def build (id : ArenaId) (pool : Pool) (capacity : Nat) : Except Fault Arena :=
  match Capacity.check pool capacity with
  | .error fault => .error fault
  | .ok () => .ok {
      id, pool
      buffer := Buffer.zeroed capacity
      highWater := 0
      peak := 0
      epoch := 0
      clock := 0
      top := Top.empty
      dead := IssueRange.empty
      scopes := 0 }

/-- Build arenas in order, numbering those that are built from `next` on. A refused one
takes no number. -/
def buildFrom (next : Nat) : List (Pool × Nat) → List (Except Fault Arena)
  | [] => []
  | (pool, capacity) :: rest =>
    match build ⟨next⟩ pool capacity with
    | .ok a => .ok a :: buildFrom (next + 1) rest
    | .error fault => .error fault :: buildFrom next rest

/-- Build arenas in order, numbering those that are built from one on. -/
def buildAll (requests : List (Pool × Nat)) : List (Except Fault Arena) :=
  buildFrom 1 requests

variable (a : Arena)

/-- The number of bytes in the buffer. -/
def capacity : Nat := a.buffer.size

/-- Bytes above the high-water mark. -/
def remaining : Nat := a.capacity - a.highWater

/-- How far an arena is filled. -/
inductive Occupancy where
  | empty
  | active
  | full
deriving DecidableEq, Repr

/-- Empty at high-water mark zero, full when it stands at the capacity. -/
def occupancy : Occupancy :=
  if a.highWater = 0 then .empty
  else if a.highWater = a.capacity then .full
  else .active

/-! ### Claiming bytes -/

/-- The only alignments are the powers of two. -/
def isAlignment (align : Nat) : Bool := align == 1 <<< align.log2

theorem isAlignment_iff {align : Nat} : isAlignment align = true ↔ ∃ k, align = 1 <<< k := by
  simp only [isAlignment, beq_iff_eq]
  constructor
  · intro h
    exact ⟨_, h⟩
  · rintro ⟨k, rfl⟩
    rw [Nat.one_shiftLeft, Nat.log2_two_pow, Nat.one_shiftLeft]

/-- The first multiple of `align` at or above `n`. -/
def roundUp (n align : Nat) : Nat := (n + (align - 1)) / align * align

/-- Claim `size` bytes from the first multiple of `align` at or above the high-water
mark. The alignment is checked before the space. -/
def allocate (size align : Nat) : Except Fault Handle × Arena :=
  if isAlignment align then
    let start := roundUp a.highWater align
    let stop := start + size
    if stop ≤ a.capacity then
      (.ok {
          arena := a.id
          pool := a.pool
          offset := start.toUInt32
          size := size.toUInt32
          stamp := ⟨a.epoch, a.clock⟩
          below := a.top },
        { a with
          highWater := stop
          peak := max a.peak stop
          clock := a.clock + 1
          top := ⟨some a.clock, stop.toUInt32⟩ })
    else
      (.error (.outOfSpace a.pool size align a.highWater a.capacity), a)
  else
    (.error (.invalidAlignment align), a)

/-! ### Liveness -/

/-- The refusal of a handle that is no longer live. -/
def stale (h : Handle) : Fault := .staleHandle a.pool h.stop a.highWater

/-- The arena issued the handle in this epoch and has not discarded its number. -/
def checkIssued (h : Handle) : Except Fault Unit :=
  if h.arena ≠ a.id then .error (.foreign a.pool)
  else if h.stamp.epoch ≠ a.epoch ∨ a.dead.holds h.stamp.seq then .error (a.stale h)
  else .ok ()

/-- The handle is issued and not discarded, and its range lies below the high-water
mark. -/
def checkLive (h : Handle) : Except Fault Unit :=
  match a.checkIssued h with
  | .error fault => .error fault
  | .ok () => if a.highWater < h.stop then .error (a.stale h) else .ok ()

/-- The arena after it discards the issue numbers from `first` on. The clock ticks. -/
def bury (first : Nat) : Arena :=
  { a with dead := a.dead.bury first a.clock, clock := a.clock + 1 }

/-! ### Giving bytes back -/

/-- Give back the most recent live claim. The high-water mark returns to the start of its
range; padding below it stays. -/
def release (h : Handle) : Except Fault Unit × Arena :=
  match a.checkIssued h with
  | .error fault => (.error fault, a)
  | .ok () =>
    if a.top.seq ≠ some h.stamp.seq then
      (.error (.releaseOrder a.pool a.top.stop.toNat h.stop), a)
    else
      (.ok (), { a.bury h.stamp.seq with highWater := h.start, top := h.below })

/-- Give back everything. The clock and the peak go on. -/
def reset : Arena :=
  { a with highWater := 0, epoch := a.epoch + 1, top := Top.empty, dead := IssueRange.empty }

/-- The present state, to come back to. -/
def mark : Mark :=
  { arena := a.id, offset := a.highWater.toUInt32, epoch := a.epoch, clock := a.clock, top := a.top }

/-- The arena can come back to the mark. -/
def checkMark (m : Mark) : Except Fault Unit :=
  if m.arena ≠ a.id then .error (.foreign a.pool)
  else if m.epoch ≠ a.epoch ∨ a.dead.discards m.clock then .error (.staleMark a.pool m.height)
  else if a.highWater < m.height then .error (.unwindUp a.pool m.height a.highWater)
  else .ok ()

/-- Come back to the mark: everything claimed since is given back, padding included. -/
def unwindTo (m : Mark) : Except Fault Unit × Arena :=
  match a.checkMark m with
  | .error fault => (.error fault, a)
  | .ok () => (.ok (), { a.bury m.clock with highWater := m.height, top := m.top })

/-! ### Reading and writing -/

/-- The bytes of a range of the buffer. -/
def view (h : Handle) : Bytes := a.buffer.view h.start h.length

/-- The arena after `bytes` are written over the front of a handle's range; bytes past the
end of the range are dropped. -/
def write (h : Handle) (bytes : Bytes) : Arena :=
  { a with buffer := a.buffer.write h.start (bytes.take h.length) }

/-- The bytes of a live handle. -/
def bytes (h : Handle) : Except Fault Bytes :=
  match a.checkLive h with
  | .error fault => .error fault
  | .ok () => .ok (a.view h)

/-- Change the bytes of a live handle. Answers the bytes before the change. -/
def modify (h : Handle) (change : Bytes → Bytes) : Except Fault Bytes × Arena :=
  match a.bytes h with
  | .error fault => (.error fault, a)
  | .ok before => (.ok before, a.write h (change before))

/-- The bytes of two live handles whose ranges do not cross, in argument order. -/
def bytesPair (h k : Handle) : Except Fault (Bytes × Bytes) :=
  match a.checkLive h with
  | .error fault => .error fault
  | .ok () =>
    match a.checkLive k with
    | .error fault => .error fault
    | .ok () =>
      if h.overlaps k then .error (.overlap a.pool) else .ok (a.view h, a.view k)

/-- Change the bytes of two live handles whose ranges do not cross. Answers the bytes
before the change, in argument order. -/
def modifyPair (h k : Handle) (change : Bytes → Bytes → Bytes × Bytes) :
    Except Fault (Bytes × Bytes) × Arena :=
  match a.bytesPair h k with
  | .error fault => (.error fault, a)
  | .ok (p, q) =>
    let after := change p q
    (.ok (p, q), (a.write h after.1).write k after.2)

end Arena

end TensorArena
