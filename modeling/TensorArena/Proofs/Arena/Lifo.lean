import TensorArena.Arena.Call

/-!
A stack of ranges, and an arena used as one.

A client claims, releases, resets, and opens and closes scopes. `Session` is such a client
of a real arena: it keeps the handles that it was given, gives each away when it releases
it, and lets an open scope keep what is claimed in the scope. `Stack` is the same client of
an abstract stack of ranges, which stores the stack and nothing else: no clock, no epoch, no
interval of discarded numbers. Both answer the same requests with the same kind of answer,
faults included, so that they can be compared answer by answer.
-/

namespace TensorArena.Lifo

/-! ### Requests and answers -/

/-- What a client asks. A release names a claim by its position among the claims that the
client was given a handle for. -/
inductive Request where
  | claim (size align : Nat)
  | release (number : Nat)
  | reset
  /-- Open a scope inside the ones that are open. -/
  | enter
  /-- Drop the innermost scope. -/
  | leave
  /-- Close the innermost scope and look at the outcome. -/
  | finish
deriving DecidableEq, Repr

/-- What the client learns. -/
inductive Answer where
  | placed (start stop : Nat)
  | refused (fault : Arena.Fault)
  | done
  /-- Not a request that can be made: a release or a reset while a scope has the arena, a
  release without a handle, or a close without a scope. -/
  | impossible
deriving DecidableEq, Repr

/-- The answer that carries the outcome of an operation. -/
def Answer.of : Except Arena.Fault Unit → Answer
  | .error fault => .refused fault
  | .ok () => .done

/-- Carry out requests in order. -/
def run {σ : Type} (step : σ → Request → Answer × σ) (s : σ) : List Request → List Answer × σ
  | [] => ([], s)
  | request :: rest =>
    match step s request with
    | (answer, s) =>
      match run step s rest with
      | (answers, s) => (answer :: answers, s)

/-! ### What a client holds -/

/-- What was handed out, by number; what the client has given away is gone. -/
abbrev Held (α : Type) := List (Option α)

namespace Held

variable {α : Type} (held : Held α)

/-- The thing still held under a number. -/
def find (number : Nat) : Option α := held[number]?.join

/-- Hold one more thing, under the next number. -/
def add (x : α) : Held α := held ++ [some x]

/-- Give a thing away. -/
def spend (number : Nat) : Held α := held.set number none

@[simp] theorem length_add (x : α) : (held.add x).length = held.length + 1 := by
  simp [add]

@[simp] theorem length_spend (number : Nat) : (held.spend number).length = held.length := by
  simp [spend]

theorem find_add (x : α) (number : Nat) :
    (held.add x).find number = if number = held.length then some x else held.find number := by
  unfold find add
  split
  · rename_i last
    simp [last]
  · rename_i other
    rcases Nat.lt_or_gt_of_ne other with before | past
    · rw [List.getElem?_append_left before]
    · rw [List.getElem?_eq_none (by simp; omega), List.getElem?_eq_none (by omega)]

theorem find_spend (spent number : Nat) :
    (held.spend spent).find number = if number = spent then none else held.find number := by
  unfold find spend
  rw [List.getElem?_set]
  split
  · rename_i same
    simp only [same, if_true]
    split <;> rfl
  · rename_i other
    rw [if_neg (Ne.symm other)]

end Held

/-! ### The stack of ranges -/

/-- A live claim: its number, if the client was given a handle, and its range. -/
structure Entry where
  number : Option Nat
  start : Nat
  stop : Nat
deriving DecidableEq, Repr

/-- What a handle stands for: where its range ends, and how many resets came before it. -/
structure Ticket where
  stop : Nat
  generation : Nat
deriving DecidableEq, Repr

/-- The stack, newest claim first. An open scope keeps the height and the stack of its
opening. -/
structure Stack where
  pool : Pool
  capacity : Nat
  height : Nat
  entries : List Entry
  /-- The open scopes, innermost first. -/
  opened : List (Nat × List Entry)
  held : Held Ticket
  generation : Nat
deriving Repr

/-- The least multiple of `align` that is at least `n`. -/
def leastMultiple (align n : Nat) : Nat :=
  if align ∣ n then n else (n / align + 1) * align

/-- The three things that its name says. -/
theorem leastMultiple_least {align : Nat} (positive : 0 < align) (n : Nat) :
    align ∣ leastMultiple align n ∧ n ≤ leastMultiple align n ∧
      ∀ x, align ∣ x → n ≤ x → leastMultiple align n ≤ x := by
  unfold leastMultiple
  split
  · rename_i divides
    exact ⟨divides, Nat.le_refl n, fun _ _ le => le⟩
  · rename_i other
    refine ⟨Nat.dvd_mul_left _ _, Nat.le_of_lt ?_, ?_⟩
    · rw [Nat.mul_comm]
      exact Nat.lt_mul_div_succ n positive
    · rintro x ⟨q, rfl⟩ le
      have below : n / align < q := by
        refine Nat.lt_of_le_of_ne ?_ fun same => other ?_
        · exact Nat.div_le_of_le_mul le
        · subst same
          exact ⟨n / align, Nat.le_antisymm le (Nat.mul_div_le n align)⟩
      rw [Nat.mul_comm]
      exact Nat.mul_le_mul_left align below

namespace Stack

/-- No claims, no scopes, nothing held. -/
def fresh (pool : Pool) (capacity : Nat) : Stack :=
  ⟨pool, capacity, 0, [], [], [], 0⟩

variable (r : Stack)

/-- Push a range. Outside of every scope the client is given a handle. -/
def push (start stop : Nat) : Stack :=
  match r.opened with
  | [] => { r with
      height := stop
      entries := ⟨some r.held.length, start, stop⟩ :: r.entries
      held := r.held.add ⟨stop, r.generation⟩ }
  | _ :: _ => { r with height := stop, entries := ⟨none, start, stop⟩ :: r.entries }

/-- A claim needs a power of two, and then enough room from the least multiple on. -/
def claim (size align : Nat) : Answer × Stack :=
  if align.isPowerOfTwo then
    let start := leastMultiple align r.height
    if start + size ≤ r.capacity then (.placed start (start + size), r.push start (start + size))
    else (.refused (.outOfSpace r.pool size align r.height r.capacity), r)
  else (.refused (.invalidAlignment align), r)

/-- A handle from before the last reset is stale. Any other is given back if it is the top,
and out of order otherwise. -/
def release (number : Nat) (t : Ticket) : Answer × Stack :=
  let r := { r with held := r.held.spend number }
  if t.generation < r.generation then (.refused (.staleHandle r.pool t.stop r.height), r)
  else
    match r.entries with
    | [] => (.impossible, r)
    | top :: rest =>
      if top.number = some number then (.done, { r with height := top.start, entries := rest })
      else (.refused (.releaseOrder r.pool top.stop t.stop), r)

/-- The innermost scope closes: back to the height and the stack of its opening. -/
def close : Answer × Stack :=
  match r.opened with
  | [] => (.impossible, r)
  | (height, entries) :: opened => (.done, { r with height, entries, opened })

/-- The stack's answer to a request. -/
def step : Request → Answer × Stack
  | .claim size align => r.claim size align
  | .release number =>
    match r.opened, r.held.find number with
    | [], some t => r.release number t
    | _, _ => (.impossible, r)
  | .reset =>
    match r.opened with
    | [] => (.done, { r with height := 0, entries := [], generation := r.generation + 1 })
    | _ :: _ => (.impossible, r)
  | .enter => (.done, { r with opened := (r.height, r.entries) :: r.opened })
  | .leave => r.close
  | .finish => r.close

/-! #### Generations -/

@[simp] theorem generation_push (start stop : Nat) :
    (r.push start stop).generation = r.generation := by
  unfold push
  split <;> rfl

@[simp] theorem generation_claim (size align : Nat) :
    (r.claim size align).2.generation = r.generation := by
  unfold claim
  dsimp only
  split
  · split
    · exact r.generation_push _ _
    · rfl
  · rfl

@[simp] theorem generation_release (number : Nat) (t : Ticket) :
    (r.release number t).2.generation = r.generation := by
  unfold release
  dsimp only
  split
  · rfl
  · split
    · rfl
    · split <;> rfl

@[simp] theorem generation_close : r.close.2.generation = r.generation := by
  unfold close
  split <;> rfl

/-- Only a reset begins a generation. -/
theorem generation_step (request : Request) :
    (r.step request).2.generation ≤ r.generation + [request].count .reset := by
  cases request with
  | claim size align => simp [step]
  | release number =>
    simp only [step]
    split <;> simp
  | reset =>
    simp only [step]
    split <;> simp
  | enter => simp [step]
  | leave => simp [step]
  | finish => simp [step]

/-- The generation counts resets. -/
theorem generation_run (requests : List Request) :
    (run step r requests).2.generation ≤ r.generation + requests.count .reset := by
  induction requests generalizing r with
  | nil => exact Nat.le_refl _
  | cons request rest ih =>
    have first := r.generation_step request
    have later := ih (r.step request).2
    rw [← List.singleton_append, List.count_append]
    exact Nat.le_trans later (by omega)

end Stack

/-! ### The arena in use -/

/-- An arena, the open scopes with the innermost first, and the handles that the client
holds. -/
structure Session where
  arena : Arena
  scopes : List Scope
  held : Held Handle

namespace Session

/-- A client before its first request. -/
def fresh (a : Arena) : Session := ⟨a, [], []⟩

variable (s : Session)

/-- Claim from the arena, or in the innermost scope if there is one, which then keeps the
handle. -/
def claim (size align : Nat) : Answer × Session :=
  match s.scopes with
  | [] =>
    match s.arena.allocate size align with
    | (.error fault, arena) => (.refused fault, { s with arena })
    | (.ok h, arena) => (.placed h.start h.stop, { s with arena, held := s.held.add h })
  | scope :: outer =>
    match scope.allocate size align s.arena with
    | (.error fault, scope, arena) => (.refused fault, { s with arena, scopes := scope :: outer })
    | (.ok slot, scope, arena) =>
      match scope.resolve slot with
      | .error fault => (.refused fault, { s with arena, scopes := scope :: outer })
      | .ok h => (.placed h.start h.stop, { s with arena, scopes := scope :: outer })

/-- The arena's answer to a request. -/
def step : Request → Answer × Session
  | .claim size align => s.claim size align
  | .release number =>
    match s.scopes, s.held.find number with
    | [], some h =>
      match s.arena.release h with
      | (outcome, arena) => (.of outcome, { s with arena, held := s.held.spend number })
    | _, _ => (.impossible, s)
  | .reset =>
    match s.scopes with
    | [] => (.done, { s with arena := s.arena.reset })
    | _ :: _ => (.impossible, s)
  | .enter =>
    match Scope.enter s.arena with
    | (scope, arena) => (.done, { s with arena, scopes := scope :: s.scopes })
  | .leave =>
    match s.scopes with
    | [] => (.impossible, s)
    | scope :: outer => (.done, { s with arena := scope.leave s.arena, scopes := outer })
  | .finish =>
    match s.scopes with
    | [] => (.impossible, s)
    | scope :: outer =>
      match scope.finish s.arena with
      | (outcome, arena) => (.of outcome, { s with arena, scopes := outer })

end Session

end TensorArena.Lifo
