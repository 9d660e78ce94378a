import Mathlib.Data.List.Nodup
import TensorArena.Workspace
import TensorArena.Proofs.Arena.Content

/-!
Live claims in a pair of arenas.

One list names the live claims of both arenas, newest first; the claims of each pool stack in
its arena, on whatever stood there before (`Workspace.StacksOn`). Here each operation that a
frame uses is stated for the pair: what it answers for live claims, what it leaves on the
stacks, and what the ranges of live claims show after it.
-/

namespace TensorArena

namespace Workspace

variable {w v : Workspace} {grounds : Pool → Top} {live : List Handle} {h k : Handle} {p : Pool}

/-- The bytes in the range of a handle. -/
def view (w : Workspace) (h : Handle) : Bytes := (w.arena h.pool).view h

/-- The claims of one pool. -/
def claimsIn (p : Pool) (live : List Handle) : List Handle := live.filter fun h => h.pool = p

@[simp] theorem mem_claimsIn : h ∈ claimsIn p live ↔ h ∈ live ∧ h.pool = p := by
  simp [claimsIn]

theorem claimsIn_cons_self (h : Handle) (live : List Handle) :
    claimsIn h.pool (h :: live) = h :: claimsIn h.pool live := by
  simp [claimsIn]

theorem claimsIn_cons_of_ne (other : h.pool ≠ p) : claimsIn p (h :: live) = claimsIn p live := by
  simp [claimsIn, other]

theorem claimsIn_append (p : Pool) (newer older : List Handle) :
    claimsIn p (newer ++ older) = claimsIn p newer ++ claimsIn p older :=
  List.filter_append ..

/-- The live claims of both arenas on top of `grounds`, newest first. -/
def StacksOn (w : Workspace) (grounds : Pool → Top) (live : List Handle) : Prop :=
  ∀ p, (w.arena p).StacksOn (grounds p) (claimsIn p live)

/-- Arenas of zero bytes that were never called. -/
def zeroed (metadata ram : Nat) : Workspace :=
  ⟨⟨.zeroed ⟨1⟩ .metadata metadata, .zeroed ⟨2⟩ .ram ram⟩, fun p => by cases p <;> rfl⟩

theorem reached_zeroed {metadata ram : Nat} (positive : 0 < metadata ∧ 0 < ram)
    (fits : metadata ≤ Capacity.largest ∧ ram ≤ Capacity.largest) (p : Pool) :
    ((zeroed metadata ram).arena p).Reached ((⟨[], []⟩ : PerPool (List Token)).get p) := by
  cases p with
  | metadata => exact Arena.reached_zeroed ⟨1⟩ .metadata positive.1 fits.1
  | ram => exact Arena.reached_zeroed ⟨2⟩ .ram positive.2 fits.2

/-! ### Calls of one arena -/

theorem eq_of_arena (same : ∀ p, v.arena p = w.arena p) : v = w := by
  have arenas : v.arenas = w.arenas := PerPool.ext_get same
  cases v
  cases w
  cases arenas
  rfl

@[simp] theorem arena_perform_self (w : Workspace) (p : Pool) (c : Arena.Call) :
    (w.perform p c).2.arena p = ((w.arena p).perform c).2 := by
  rw [arena_perform, if_pos rfl]

theorem arena_perform_of_ne (w : Workspace) (c : Arena.Call) {q : Pool} (other : q ≠ p) :
    (w.perform p c).2.arena q = w.arena q := by
  rw [arena_perform, if_neg other]

/-- Ranges show the same where one arena keeps its bytes and the other does not change. -/
theorem view_of_buffer (same : ∀ q ≠ p, v.arena q = w.arena q)
    (kept : (v.arena p).buffer = (w.arena p).buffer) (k : Handle) : v.view k = w.view k := by
  by_cases here : k.pool = p
  · rw [view, view, Arena.view, Arena.view, here, kept]
  · rw [view, view, same _ here]

/-- A claim that is refused changes neither arena. -/
theorem allocate_error {size align : Nat} {fault : Arena.Fault}
    (refused : w.allocate p size align = (.error fault, v)) : v = w := by
  have answer : ((w.arena p).allocate size align).1 = .error fault :=
    congrArg (fun done => done.1) refused
  obtain rfl : (w.allocate p size align).2 = v := congrArg (fun done => done.2) refused
  refine eq_of_arena fun q => ?_
  rw [allocate, arena_perform]
  split
  · rename_i same
    subst same
    exact Arena.allocate_error (Prod.ext answer rfl)
  · rfl

theorem allocate_ok {size align : Nat} (done : w.allocate p size align = (.ok h, v)) :
    (w.arena p).allocate size align = (.ok h, v.arena p) ∧ h.pool = p ∧
      ∀ q ≠ p, v.arena q = w.arena q := by
  have answer : ((w.arena p).allocate size align).1 = .ok h :=
    congrArg (fun done => done.1) done
  obtain rfl : (w.allocate p size align).2 = v := congrArg (fun done => done.2) done
  have claimed : (w.arena p).allocate size align = (.ok h, (w.allocate p size align).2.arena p) :=
    Prod.ext answer (arena_perform_self w p (.allocate size align)).symm
  refine ⟨claimed, ?_, fun q other => arena_perform_of_ne w _ other⟩
  obtain ⟨-, -, new, -⟩ := Arena.allocate_ok claimed
  rw [new]
  exact w.pool_arena p

/-! ### Stacking -/

/-- Sound arenas are the empty stacks on their own tops. -/
theorem stacksOn_of_sound (sound : ∀ p, (w.arena p).Sound) :
    w.StacksOn (fun p => (w.arena p).top) [] := fun p => (sound p).stacksOn

/-- The arena of a live claim has it on its stack. -/
theorem StacksOn.mem (stacked : w.StacksOn grounds live) (mem : h ∈ live) :
    (w.arena h.pool).StacksOn (grounds h.pool) (claimsIn h.pool live) ∧
      h ∈ claimsIn h.pool live := ⟨stacked h.pool, mem_claimsIn.mpr ⟨mem, rfl⟩⟩

/-- No claim stands twice on the stacks. -/
theorem StacksOn.nodup (stacked : w.StacksOn grounds live) : live.Nodup := by
  refine List.nodup_iff_count_le_one.mpr fun h => ?_
  have once : (claimsIn h.pool live).Nodup := by
    refine (stacked h.pool).order.imp fun order same => ?_
    subst same
    exact Nat.lt_irrefl _ order.1
  have all : (claimsIn h.pool live).count h = live.count h := List.count_filter (by simp)
  rw [← all]
  exact List.nodup_iff_count_le_one.mp once h

/-- A live claim is read. -/
theorem StacksOn.bytes (stacked : w.StacksOn grounds live) (mem : h ∈ live) :
    w.bytes h = .ok (w.view h) := by
  obtain ⟨stacked, mem⟩ := stacked.mem mem
  exact Arena.bytes_ok_iff.mpr ⟨stacked.checkLive mem, rfl⟩

/-- Stacks whose arenas are only read or written stay. -/
theorem StacksOn.of_arena (stacked : w.StacksOn grounds live)
    (same : ∀ q ≠ p, v.arena q = w.arena q)
    (moved : (v.arena p).StacksOn (grounds p) (claimsIn p live)) : v.StacksOn grounds live := by
  intro q
  by_cases here : q = p
  · exact here ▸ moved
  · exact same q here ▸ stacked q

/-- Claiming pushes, and moves no byte. -/
theorem StacksOn.allocate {size align : Nat} (stacked : w.StacksOn grounds live)
    (done : w.allocate p size align = (.ok h, v)) :
    v.StacksOn grounds (h :: live) ∧ h.start = Arena.roundUp (w.arena p).highWater align ∧
      h.length = size ∧ (v.arena p).highWater = h.stop ∧ ∀ k, v.view k = w.view k := by
  obtain ⟨claimed, rfl, same⟩ := allocate_ok done
  obtain ⟨pushed, start, length, height⟩ := (stacked h.pool).allocate claimed
  refine ⟨fun q => ?_, start, length, height, fun k => ?_⟩
  · by_cases here : q = h.pool
    · subst here
      rw [claimsIn_cons_self]
      exact pushed
    · rw [claimsIn_cons_of_ne (Ne.symm here), same q here]
      exact stacked q
  · obtain ⟨-, -, -, after⟩ := Arena.allocate_ok claimed
    exact view_of_buffer same (by rw [after]) k

/-- The newest claim is given back, which pops it and moves no byte. -/
theorem StacksOn.release (stacked : w.StacksOn grounds (h :: live)) :
    ∃ v, w.release h = (.ok (), v) ∧ v.StacksOn grounds live ∧
      (v.arena h.pool).highWater = h.start ∧ (∀ q ≠ h.pool, v.arena q = w.arena q) ∧
      Arena.Continues (w.arena h.pool) [⟨h.stamp.seq, (w.arena h.pool).clock⟩] (v.arena h.pool) ∧
      ∀ k, v.view k = w.view k := by
  have top := stacked h.pool
  rw [claimsIn_cons_self] at top
  obtain ⟨b, done, popped, height, continues⟩ := top.release
  have answer : (w.release h).1 = .ok () := congrArg (fun done => done.1) done
  have after : (w.release h).2.arena h.pool = b := by
    rw [Workspace.release, arena_perform_self]
    exact congrArg Prod.snd done
  have same : ∀ q ≠ h.pool, (w.release h).2.arena q = w.arena q :=
    fun q other => arena_perform_of_ne w _ other
  refine ⟨(w.release h).2, Prod.ext answer rfl, fun q => ?_, after ▸ height, same,
    after ▸ continues, fun k => ?_⟩
  · by_cases here : q = h.pool
    · subst here
      exact after ▸ popped
    · rw [same q here, ← claimsIn_cons_of_ne (Ne.symm here)]
      exact stacked q
  · obtain ⟨-, -, opened⟩ := Arena.release_ok_iff.mp done
    exact view_of_buffer same (by rw [after, opened]; rfl) k

/-- An arena is brought back to a mark that stands for all of its live claims. -/
theorem StacksOn.unwind {m : Mark} (stacked : w.StacksOn grounds live)
    (recalls : (w.arena p).RecallsOn (grounds p) m (claimsIn p live)) :
    ∃ v, w.perform p (.unwindTo m) = (.ok (), v) ∧ v.StacksOn grounds live ∧
      (v.arena p).highWater = m.height ∧ (∀ q ≠ p, v.arena q = w.arena q) ∧
      Arena.Continues (w.arena p) [⟨m.clock, (w.arena p).clock⟩] (v.arena p) ∧
      ∀ k, v.view k = w.view k := by
  have all : (w.arena p).StacksOn (grounds p) ([] ++ claimsIn p live) := stacked p
  obtain ⟨b, done, left, -, height, continues⟩ := all.unwindTo recalls
  have answer : (w.perform p (.unwindTo m)).1 = .ok () := congrArg (fun done => done.1) done
  have after : (w.perform p (.unwindTo m)).2.arena p = b := by
    rw [arena_perform_self]
    exact congrArg Prod.snd done
  have same : ∀ q ≠ p, (w.perform p (.unwindTo m)).2.arena q = w.arena q :=
    fun q other => arena_perform_of_ne w _ other
  refine ⟨(w.perform p (.unwindTo m)).2, Prod.ext answer rfl,
    stacked.of_arena same (after ▸ left), after ▸ height, same, after ▸ continues, fun k => ?_⟩
  obtain ⟨-, opened⟩ := Arena.unwindTo_ok_iff.mp done
  exact view_of_buffer same (by rw [after, opened]; rfl) k

/-! ### Writing -/

/-- Nothing but bytes differs between the pairs of arenas. -/
def Rewrites (w v : Workspace) : Prop :=
  ∀ p, v.arena p = { w.arena p with buffer := (v.arena p).buffer } ∧
    (v.arena p).capacity = (w.arena p).capacity

theorem Rewrites.refl (w : Workspace) : w.Rewrites w := fun _ => ⟨rfl, rfl⟩

theorem Rewrites.trans {u : Workspace} (first : w.Rewrites v) (second : v.Rewrites u) :
    w.Rewrites u := by
  intro p
  obtain ⟨same, size⟩ := first p
  obtain ⟨again, fits⟩ := second p
  refine ⟨?_, fits.trans size⟩
  rw [again, same]

theorem Rewrites.highWater (rewrites : w.Rewrites v) (p : Pool) :
    (v.arena p).highWater = (w.arena p).highWater := by
  rw [(rewrites p).1]

theorem Rewrites.stacksOn (rewrites : w.Rewrites v) (stacked : w.StacksOn grounds live) :
    v.StacksOn grounds live := by
  intro p
  obtain ⟨same, size⟩ := rewrites p
  have sound := (stacked p).sound
  have after : (v.arena p).Sound := by
    refine ⟨size ▸ sound.words, ?_, ?_⟩
    · rw [size, rewrites.highWater]
      exact sound.highWater
    · rw [same]
      exact sound.dead
  rw [same] at after ⊢
  exact { stacked p with sound := after }

theorem Rewrites.recallsOn {m : Mark} {base : List Handle} (rewrites : w.Rewrites v)
    (recalls : (w.arena p).RecallsOn (grounds p) m base) :
    (v.arena p).RecallsOn (grounds p) m base := by
  rw [(rewrites p).1]
  exact { recalls with }

/-- Changing the bytes of a handle changes nothing else, whether the handle is live or not. -/
theorem modify_rewrites (w : Workspace) (h : Handle) (change : Bytes → Bytes) :
    w.Rewrites (w.modify h change).2 := by
  intro p
  rw [Workspace.modify, arena_perform]
  split
  · rename_i here
    subst here
    simp only [Arena.perform, Arena.modify]
    split
    · exact ⟨rfl, rfl⟩
    · exact ⟨rfl, Buffer.size_write _ _ _⟩
  · exact ⟨rfl, rfl⟩

/-- Changing the bytes of two handles changes nothing else. -/
theorem modifyPair_rewrites (w : Workspace) (h k : Handle)
    (change : Bytes → Bytes → Bytes × Bytes) : w.Rewrites (w.modifyPair h k change).2 := by
  unfold Workspace.modifyPair
  split
  · intro p
    rw [arena_perform]
    split
    · rename_i here
      subst here
      simp only [Arena.perform, Arena.modifyPair]
      split
      · exact ⟨rfl, rfl⟩
      · exact ⟨rfl, (Buffer.size_write _ _ _).trans (Buffer.size_write _ _ _)⟩
    · exact ⟨rfl, rfl⟩
  · split
    · exact .refl w
    · split
      · exact .refl w
      · exact (modify_rewrites w h _).trans (modify_rewrites _ k _)

/-- Writing a live claim writes in its arena. -/
theorem StacksOn.arena_modify (stacked : w.StacksOn grounds live) (mem : h ∈ live)
    (change : Bytes → Bytes) (p : Pool) : (w.modify h change).2.arena p =
      if p = h.pool then (w.arena p).write h (change (w.view h)) else w.arena p := by
  have read : (w.arena h.pool).bytes h = .ok (w.view h) := stacked.bytes mem
  rw [Workspace.modify, arena_perform]
  split
  · rename_i same
    subst same
    simp only [Arena.perform, Arena.modify, read]
  · rfl

/-- A live claim's range is written, and no other live claim shows it. -/
theorem StacksOn.modify (stacked : w.StacksOn grounds live) (mem : h ∈ live)
    (change : Bytes → Bytes) :
    ∃ v, w.modify h change = (.ok (w.view h), v) ∧ w.Rewrites v ∧
      v.view h = Bytes.overlay (change (w.view h)) (w.view h) ∧
      ∀ k ∈ live, k ≠ h → v.view k = w.view k := by
  obtain ⟨stack, onStack⟩ := stacked.mem mem
  have read : (w.arena h.pool).bytes h = .ok (w.view h) := stacked.bytes mem
  have answer : (w.modify h change).1 = .ok (w.view h) := by
    simp only [Workspace.modify, perform, Arena.perform, Arena.modify, read]
  have after := stacked.arena_modify mem change
  refine ⟨(w.modify h change).2, Prod.ext answer rfl, fun p => ?_, ?_, fun k live other => ?_⟩
  · rw [after]
    split
    · exact ⟨rfl, Buffer.size_write _ _ _⟩
    · exact ⟨rfl, rfl⟩
  · rw [view, after, if_pos rfl]
    exact Arena.view_write_self _
      (Nat.le_trans (stack.owned h onStack).2.2.2 stack.sound.highWater)
  · rw [view, view, after]
    split
    · rename_i here
      have apart := stack.apart onStack (mem_claimsIn.mpr ⟨live, here⟩) (Ne.symm other)
      exact Arena.view_write_of_apart _ apart
    · rfl

/-- A live claim shows as many bytes as it has. -/
theorem StacksOn.length_view (stacked : w.StacksOn grounds live) (mem : h ∈ live) :
    (w.view h).length = h.length := by
  obtain ⟨stack, onStack⟩ := stacked.mem mem
  exact Buffer.length_view (Nat.le_trans (stack.owned h onStack).2.2.2 stack.sound.highWater)

/-- Different live claims of a pool do not overlap. -/
theorem StacksOn.overlaps_of_ne (stacked : w.StacksOn grounds live) (first : h ∈ live)
    (second : k ∈ live) (other : h ≠ k) (same : h.pool = k.pool) : h.overlaps k = false := by
  obtain ⟨stack, onStack⟩ := stacked.mem first
  exact (stack.apart onStack (mem_claimsIn.mpr ⟨second, same.symm⟩) other).overlaps_eq_false

/-- Writing two live claims that do not overlap comes down to writing one after the other. -/
theorem StacksOn.modifyPair_eq (stacked : w.StacksOn grounds live) (first : h ∈ live)
    (second : k ∈ live) (free : h.pool = k.pool → h.overlaps k = false)
    (change : Bytes → Bytes → Bytes × Bytes) :
    w.modifyPair h k change = (.ok (w.view h, w.view k),
      ((w.modify h fun _ => (change (w.view h) (w.view k)).1).2.modify k fun _ =>
        (change (w.view h) (w.view k)).2).2) := by
  unfold Workspace.modifyPair
  split
  · rename_i same
    obtain ⟨stack, onFirst⟩ := stacked.mem first
    have onSecond : k ∈ claimsIn h.pool live := mem_claimsIn.mpr ⟨second, same.symm⟩
    have views : (w.arena h.pool).view k = w.view k := by rw [view, same]
    have read : (w.arena h.pool).bytesPair h k = .ok (w.view h, w.view k) :=
      Arena.bytesPair_ok_iff.mpr ⟨stack.checkLive onFirst, stack.checkLive onSecond, free same, rfl,
        views⟩
    obtain ⟨v, once, rewrites, -⟩ := stacked.modify first fun _ => (change (w.view h) (w.view k)).1
    have middle := stacked.arena_modify first fun _ => (change (w.view h) (w.view k)).1
    rw [once] at middle ⊢
    refine Prod.ext ?_ (eq_of_arena fun p => ?_)
    · simp only [perform, Arena.perform, Arena.modifyPair, read]
    · rw [(rewrites.stacksOn stacked).arena_modify second, middle, arena_perform, same]
      split
      · rename_i here
        subst here
        simp only [Arena.perform, Arena.modifyPair, same ▸ read]
      · rfl
  · simp only [stacked.bytes first, stacked.bytes second]

/-- Two live claims are written, each its own range, and no other live claim shows it. -/
theorem StacksOn.modifyPair (stacked : w.StacksOn grounds live) (first : h ∈ live)
    (second : k ∈ live) (free : h.pool = k.pool → h.overlaps k = false)
    (change : Bytes → Bytes → Bytes × Bytes) :
    ∃ v, w.modifyPair h k change = (.ok (w.view h, w.view k), v) ∧ w.Rewrites v ∧
      v.view k = Bytes.overlay (change (w.view h) (w.view k)).2 (w.view k) ∧
      v.view h = Bytes.overlay (change (w.view h) (w.view k)).1 (w.view h) ∧
      ∀ l ∈ live, l ≠ h → l ≠ k → v.view l = w.view l := by
  have composed := stacked.modifyPair_eq first second free change
  obtain ⟨u, once, rewrites, written, others⟩ :=
    stacked.modify first fun _ => (change (w.view h) (w.view k)).1
  have stays := rewrites.stacksOn stacked
  obtain ⟨v, twice, again, rewritten, rest⟩ :=
    stays.modify second fun _ => (change (w.view h) (w.view k)).2
  rw [once, twice] at composed
  refine ⟨v, composed, rewrites.trans again, ?_⟩
  by_cases same : h = k
  · -- One claim that does not overlap itself is empty, and shows nothing.
    subst same
    have empty := Handle.overlaps_self_eq_false_iff.mp (free rfl)
    have nothing : ∀ x : Workspace, x.StacksOn grounds live → x.view h = [] := fun x stacked =>
      List.length_eq_zero_iff.mp ((stacked.length_view first).trans empty)
    rw [nothing v (again.stacksOn stays), nothing w stacked]
    refine ⟨by simp [Bytes.overlay], by simp [Bytes.overlay], fun l live other _ => ?_⟩
    rw [rest l live other, others l live other]
  · refine ⟨?_, ?_, fun l live other different => ?_⟩
    · rw [rewritten, others k second (Ne.symm same)]
    · rw [rest h first same, written]
    · rw [rest l live different, others l live other]

/-- A claim that overlaps itself is not written twice at once. -/
theorem StacksOn.modifyPair_overlap (stacked : w.StacksOn grounds live) (mem : h ∈ live)
    (overlapping : h.overlaps h = true) (change : Bytes → Bytes → Bytes × Bytes) :
    w.modifyPair h h change = (.error (.overlap h.pool), w) := by
  obtain ⟨stack, onStack⟩ := stacked.mem mem
  have refused : (w.arena h.pool).modifyPair h h change =
      (.error (.overlap h.pool), w.arena h.pool) := by
    simp only [Arena.modifyPair, Arena.bytesPair, stack.checkLive onStack, overlapping, if_true,
      pool_arena]
  rw [Workspace.modifyPair, if_pos rfl]
  refine Prod.ext (congrArg (fun done => done.1) refused) (eq_of_arena fun p => ?_)
  rw [arena_perform]
  split
  · rename_i here
    subst here
    exact congrArg (fun done => done.2) refused
  · rfl

/-! ### Room -/

/-- Going from `w` to `v` took at most the bytes `taken` of each arena. -/
structure Takes (w : Workspace) (taken : PerPool Nat) (v : Workspace) : Prop where
  capacity : ∀ p, (v.arena p).capacity = (w.arena p).capacity
  level : ∀ p, (v.arena p).highWater ≤ (w.arena p).highWater + taken.get p

/-- There is room in each arena for the bytes `wanted`. -/
def HasRoom (w : Workspace) (wanted : PerPool Nat) : Prop :=
  ∀ p, (w.arena p).highWater + wanted.get p ≤ (w.arena p).capacity

variable {taken wanted : PerPool Nat}

theorem HasRoom.mono (room : w.HasRoom wanted) (le : ∀ p, taken.get p ≤ wanted.get p) :
    w.HasRoom taken :=
  fun p => Nat.le_trans (Nat.add_le_add_left (le p) _) (room p)

theorem HasRoom.of_only {bytes : Nat} (room : w.HasRoom (.only p bytes)) :
    (w.arena p).highWater + bytes ≤ (w.arena p).capacity := by
  have here := room p
  rwa [PerPool.get_only, if_pos rfl] at here

/-- What is not taken is left. -/
theorem HasRoom.left (room : w.HasRoom wanted) (takes : w.Takes taken v)
    (le : ∀ p, taken.get p ≤ wanted.get p) : v.HasRoom (wanted.zipWith (· - ·) taken) := by
  intro p
  have before := room p
  have after := takes.level p
  have part := le p
  rw [takes.capacity, PerPool.get_zipWith]
  omega

theorem Takes.refl (w : Workspace) (taken : PerPool Nat) : w.Takes taken w :=
  ⟨fun _ => rfl, fun _ => Nat.le_add_right _ _⟩

theorem Takes.trans {u : Workspace} {more total : PerPool Nat} (first : w.Takes taken v)
    (second : v.Takes more u) (sum : ∀ p, taken.get p + more.get p ≤ total.get p) :
    w.Takes total u := by
  constructor
  · intro p
    exact (second.capacity p).trans (first.capacity p)
  intro p
  have once := first.level p
  have again := second.level p
  have both := sum p
  omega

/-- What is taken, and then taken of what was left, is part of the whole. -/
theorem Takes.all {u : Workspace} (first : w.Takes taken v)
    (second : v.Takes (wanted.zipWith (· - ·) taken) u)
    (le : ∀ p, taken.get p ≤ wanted.get p) : w.Takes wanted u := by
  refine first.trans second fun p => ?_
  rw [PerPool.get_zipWith]
  exact Nat.le_of_eq (Nat.add_sub_cancel' (le p))

theorem Rewrites.takes (rewrites : w.Rewrites v) (taken : PerPool Nat) : w.Takes taken v :=
  ⟨fun p => (rewrites p).2, fun p => rewrites.highWater p ▸ Nat.le_add_right _ _⟩

/-- A claim takes its bytes and less padding than its alignment. -/
theorem allocate_takes {size align : Nat} (done : w.allocate p size align = (.ok h, v)) :
    w.Takes (.only p (size + align - 1)) v := by
  obtain ⟨claimed, -, same⟩ := allocate_ok done
  obtain ⟨aligned, -, -, after⟩ := Arena.allocate_ok claimed
  have positive := Arena.pos_of_isAlignment aligned
  have padded := Arena.roundUp_le (w.arena p).highWater align
  constructor
  · intro q
    by_cases here : q = p
    · rw [here, after]
      rfl
    · rw [same q here]
  · intro q
    rw [PerPool.get_only]
    by_cases here : q = p
    · rw [if_pos here, here, after]
      dsimp only
      omega
    · rw [if_neg here, same q here]
      exact Nat.le_add_right _ _

/-- Where there is room, a claim is refused for its alignment only. -/
theorem allocate_error_of_room {size align : Nat} {fault : Arena.Fault}
    (room : (w.arena p).highWater + (size + align - 1) ≤ (w.arena p).capacity)
    (refused : w.allocate p size align = (.error fault, v)) :
    Arena.isAlignment align = false ∧ fault = .invalidAlignment align := by
  have answer : ((w.arena p).allocate size align).1 = .error fault :=
    congrArg (fun done => done.1) refused
  exact Arena.allocate_error_of_room room (Prod.ext answer rfl)

theorem capacity_perform (w : Workspace) (p q : Pool) (c : Arena.Call) :
    ((w.perform p c).2.arena q).capacity = (w.arena q).capacity := by
  rw [arena_perform]
  split
  · rename_i here
    exact here ▸ (Arena.perform_keeps (w.arena p) c).2.1
  · rfl

end Workspace

end TensorArena
