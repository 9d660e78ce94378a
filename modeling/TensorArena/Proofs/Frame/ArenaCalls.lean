import TensorArena.Proofs.Frame.Lifetime

/-!
What a frame asks of its arenas.

A call on a frame comes down to calls on its two arenas, one after the other. Those that may
move a level are listed here: claims when something is bound or scratch is claimed, the release
of a payload whose record found no space, a release and an unwinding for each scratch claim that
is given back, and the calls that go to an arena past the frame. Carrying them out in order
gives the arenas that the call leaves, except for bytes, whatever was done to the arenas before
(`Frame.rewrites_arenaCalls`). So what no arena call does, no call on a frame does: a clock never
goes back.
-/

namespace TensorArena

namespace Arena

variable {a b : Arena} {shown : Token → Prop} {log : List Discard}

/-- Changes leave no discard ahead of the clock, if none was there before. -/
theorem Changes.dead_le (changes : Changes shown a log b) (behind : a.dead.high ≤ a.clock) :
    b.dead.high ≤ b.clock := by
  induction changes with
  | none => exact behind
  | more _ change ih =>
    cases change with
    | claim done =>
      obtain ⟨-, -, -, rfl⟩ := allocate_ok done
      exact Nat.le_succ_of_le ih
    | release _ done =>
      obtain ⟨-, -, rfl⟩ := release_ok_iff.mp done
      simp [bury]
    | unwind _ done =>
      obtain ⟨-, rfl⟩ := unwindTo_ok_iff.mp done
      simp [bury]
    | write => exact ih
    | openScope => exact ih

theorem dead_perform (behind : a.dead.high ≤ a.clock) (c : Arena.Call) :
    (a.perform c).2.dead.high ≤ (a.perform c).2.clock := by
  cases reset : c.isReset with
  | true =>
    cases c <;> simp only [Call.isReset, reduceCtorEq] at reset
    exact Nat.zero_le _
  | false =>
    have changes : Changes (fun _ => True) a (a.discards c) (a.perform c).2 :=
      perform_changes a c (fun _ _ => trivial) reset
    exact changes.dead_le behind

end Arena

namespace Workspace

variable {w v : Workspace}

/-- The arenas after calls in order. -/
def performAll (w : Workspace) : List (Pool × Arena.Call) → Workspace
  | [] => w
  | c :: rest => (w.perform c.1 c.2).2.performAll rest

/-- The levels of one arena after each of the calls. -/
def levels (p : Pool) (w : Workspace) : List (Pool × Arena.Call) → List Nat
  | [] => []
  | c :: rest => ((w.perform c.1 c.2).2.arena p).highWater :: (w.perform c.1 c.2).2.levels p rest

/-- Clocks do not go back. -/
theorem clock_performAll (w : Workspace) (calls : List (Pool × Arena.Call)) (p : Pool) :
    (w.arena p).clock ≤ ((w.performAll calls).arena p).clock := by
  induction calls generalizing w with
  | nil => exact Nat.le_refl _
  | cons c rest ih =>
    refine Nat.le_trans ?_ (ih (w.perform c.1 c.2).2)
    rw [arena_perform]
    split
    · rename_i here
      exact here ▸ (Arena.perform_keeps _ c.2).2.2
    · exact Nat.le_refl _

theorem dead_performAll (behind : ∀ p, (w.arena p).dead.high ≤ (w.arena p).clock)
    (calls : List (Pool × Arena.Call)) (p : Pool) :
    ((w.performAll calls).arena p).dead.high ≤ ((w.performAll calls).arena p).clock := by
  induction calls generalizing w with
  | nil => exact behind p
  | cons c rest ih =>
    refine ih fun q => ?_
    rw [arena_perform]
    split
    · exact Arena.dead_perform (behind c.1) c.2
    · exact behind q

theorem Rewrites.clock (rewrites : w.Rewrites v) (p : Pool) :
    (v.arena p).clock = (w.arena p).clock := by
  rw [(rewrites p).1]

theorem Rewrites.dead (rewrites : w.Rewrites v) (p : Pool) :
    (v.arena p).dead = (w.arena p).dead := by
  rw [(rewrites p).1]

/-- What giving scratch back asks of the arenas. -/
def scratchCalls (entries : List ScratchEntry) : List (Pool × Arena.Call) :=
  entries.flatMap fun e => [(e.handle.pool, .release e.handle), (e.handle.pool, .unwindTo e.mark)]

theorem performAll_scratchCalls (w : Workspace) (entries : List ScratchEntry) :
    w.performAll (scratchCalls entries) = (w.releaseScratch entries).2 := by
  induction entries generalizing w with
  | nil => rfl
  | cons e older ih =>
    rw [releaseScratch_cons, ← ih]
    rfl

end Workspace

namespace Frame

variable {f : Frame}

/-- What a call asks of the arenas that may move their levels. -/
def arenaCalls (f : Frame) : Frame.Call → List (Pool × Arena.Call)
  | .bind name pool size align =>
    match f.checkBindable name with
    | .error _ => []
    | .ok () => [(pool, .allocate size align)]
  | .bindTensor name d =>
    match f.checkBindable name, payloadLength d with
    | .ok (), .ok length => (.ram, .allocate length d.dtype.align) ::
      match f.workspace.allocate .ram length d.dtype.align with
      | (.error _, _) => []
      | (.ok payload, w) => (.metadata, .allocate Tensor.Record.size Tensor.Record.align) ::
        match w.allocate .metadata Tensor.Record.size Tensor.Record.align with
        | (.error _, _) => [(payload.pool, .release payload)]
        | (.ok _, _) => []
    | _, _ => []
  | .claimScratch pool size align => [(pool, .allocate size align)]
  | .releaseScratch => Workspace.scratchCalls f.scratch
  | .onArena pool c => [(pool, c)]
  | _ => []

/-- **A call on a frame** does to its arenas what its arena calls do, except for bytes. -/
theorem rewrites_arenaCalls (f : Frame) (c : Frame.Call) :
    (f.workspace.performAll (f.arenaCalls c)).Rewrites (f.perform c).2.workspace := by
  cases c with
  | bind name pool size align =>
    simp only [arenaCalls, perform, bind]
    cases f.checkBindable name with
    | error fault => exact .refl _
    | ok =>
      have claimed : f.workspace.performAll [(pool, .allocate size align)] =
          (f.workspace.allocate pool size align).2 := rfl
      simp only [claimed]
      rcases f.workspace.allocate pool size align with ⟨_ | _, v⟩ <;> exact .refl _
  | bindTensor name d =>
    simp only [arenaCalls, perform, bindTensor]
    cases f.checkBindable name with
    | error fault => exact .refl _
    | ok =>
      cases payloadLength d with
      | error fault => exact .refl _
      | ok length =>
        dsimp only [Workspace.performAll]
        rw [← Workspace.allocate]
        rcases f.workspace.allocate .ram length d.dtype.align with ⟨_ | payload, v⟩
        · exact .refl _
        · dsimp only [Workspace.performAll]
          rw [← Workspace.allocate]
          rcases v.allocate .metadata Tensor.Record.size Tensor.Record.align with ⟨_ | record, u⟩
          · dsimp only [Workspace.performAll, noteUsage]
            rw [← Workspace.release]
            rcases u.release payload with ⟨_ | _, x⟩ <;> exact .refl _
          · have quiet := quiet_writeRecord { f with workspace := u }
              { d with offset := payload.offset } record
            dsimp only [Workspace.performAll] at quiet ⊢
            rcases written : writeRecord { f with workspace := u }
                { d with offset := payload.offset } record with ⟨_ | _, g⟩ <;>
              rw [written] at quiet <;> exact quiet.rewrites
  | claimScratch pool size align =>
    have claimed : f.workspace.performAll (f.arenaCalls (.claimScratch pool size align)) =
        (f.workspace.allocate pool size align).2 := rfl
    simp only [claimed, perform, claimScratch]
    rcases f.workspace.allocate pool size align with ⟨_ | _, v⟩ <;> exact .refl _
  | releaseScratch =>
    rw [arenaCalls, Workspace.performAll_scratchCalls, perform, releaseScratch_snd]
    exact .refl _
  | onArena pool c => exact .refl _
  | _ => exact (quiet_perform f _ rfl rfl).rewrites

/-- Clocks do not go back. -/
theorem clock_after (f : Frame) (calls : List Frame.Call) (p : Pool) :
    (f.workspace.arena p).clock ≤ ((f.after calls).workspace.arena p).clock := by
  induction calls generalizing f with
  | nil => exact Nat.le_refl _
  | cons c rest ih =>
    refine Nat.le_trans ?_ (ih (f.perform c).2)
    rw [(f.rewrites_arenaCalls c).clock]
    exact f.workspace.clock_performAll _ p

end Frame

end TensorArena
