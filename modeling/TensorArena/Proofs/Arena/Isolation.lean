import TensorArena.Proofs.Arena.Content
import TensorArena.Proofs.Arena.Discard
import TensorArena.Proofs.Arena.Refinement

/-!
Clients that write.

The clients of `Lifo.Session` also write: through the handles that they hold, or, while a scope
has the arena, through its slots. Each action comes down to calls of the arena
(`Session.calls`), and what these do is the history of the client (`Session.history`), so that
what is live and what it should hold need not look at the arena at all.

A client never comes back to anything but the mark of its innermost scope. `Layers` says that
these marks stand and that what the client can name on each level is live there; with it, one
action preserves that the arena keeps the client's history (`Tame.act`).
-/

namespace TensorArena.Lifo

open Arena (Deed live liveAt Standing content claims)

/-! ### Writing -/

/-- How a client names a claim: by the number that it holds the handle under, or by a slot of
the innermost scope. -/
inductive Place where
  | held (number : Nat)
  | slot (slot : Slot)
deriving DecidableEq, Repr

/-- What a client does: ask for something, or write through one or two of its claims. -/
inductive Action where
  | ask (request : Request)
  | write (place : Place) (change : Bytes → Bytes)
  | writePair (p q : Place) (change : Bytes → Bytes → Bytes × Bytes)

namespace Session

variable (s : Session)

/-- The handle that a place names. A client cannot use its own handles while a scope has the
arena. -/
def find (place : Place) : Option Handle :=
  match s.scopes, place with
  | [], .held number => s.held.find number
  | scope :: _, .slot slot => (scope.resolve slot).toOption
  | _, _ => none

/-- Write through one claim, if the arena lets the client. -/
def write (place : Place) (change : Bytes → Bytes) : Session :=
  match s.scopes, place with
  | [], .held number =>
    match s.held.find number with
    | none => s
    | some h => { s with arena := (s.arena.modify h change).2 }
  | scope :: _, .slot slot => { s with arena := (scope.modify slot change s.arena).2 }
  | _, _ => s

/-- Write through two claims at once, if the arena lets the client. -/
def writePair (p q : Place) (change : Bytes → Bytes → Bytes × Bytes) : Session :=
  match s.scopes, p, q with
  | [], .held m, .held n =>
    match s.held.find m, s.held.find n with
    | some h, some k => { s with arena := (s.arena.modifyPair h k change).2 }
    | _, _ => s
  | scope :: _, .slot p, .slot q => { s with arena := (scope.modifyPair p q change s.arena).2 }
  | _, _, _ => s

/-- The client after an action. -/
def act : Action → Session
  | .ask request => (s.step request).2
  | .write place change => s.write place change
  | .writePair p q change => s.writePair p q change

/-- The client after actions in order. -/
def acts (s : Session) : List Action → Session
  | [] => s
  | action :: rest => (s.act action).acts rest

/-- The calls of the arena that an action comes down to. -/
def calls : Action → List Arena.Call
  | .ask (.claim size align) => [.allocate size align]
  | .ask (.release number) =>
    match s.scopes, s.held.find number with
    | [], some h => [.release h]
    | _, _ => []
  | .ask .reset =>
    match s.scopes with
    | [] => [.reset]
    | _ :: _ => []
  | .ask .enter => [.openScope]
  | .ask .leave =>
    match s.scopes with
    | [] => []
    | scope :: _ => [.unwindTo scope.mark]
  | .ask .finish =>
    match s.scopes with
    | [] => []
    | scope :: _ => [.unwindTo scope.mark, .unwindTo scope.mark]
  | .write place change => (s.find place).toList.map fun h => .modify h change
  | .writePair p q change =>
    match s.find p, s.find q with
    | some h, some k => [.modifyPair h k change]
    | _, _ => []

/-- What an action does to the arena, newest first. -/
def deeds (action : Action) : List Deed := s.arena.tale (s.calls action)

/-- What actions in order do to the arena, newest first. -/
def history (s : Session) : List Action → List Deed
  | [] => []
  | action :: rest => (s.act action).history rest ++ s.deeds action

/-! #### What the places name -/

variable {s : Session} {place p q : Place} {h k : Handle}

theorem find_outside (alone : s.scopes = []) (found : s.find place = some h) :
    ∃ number, s.held.find number = some h := by
  rcases s with ⟨a, scopes, held⟩
  cases alone
  cases place with
  | held number => exact ⟨number, found⟩
  | slot slot => cases found

theorem find_inside {scope : Scope} {outer : List Scope} (inUse : s.scopes = scope :: outer)
    (found : s.find place = some h) : h ∈ scope.handles := by
  rcases s with ⟨a, scopes, held⟩
  cases inUse
  cases place with
  | held number => cases found
  | slot slot =>
    simp only [find, Scope.resolve] at found
    split at found
    · cases found
    · split at found
      · cases found
      · rename_i at_index
        cases found
        exact List.mem_of_getElem? at_index

/-- Writing comes down to the handle that the place names. -/
theorem write_eq (s : Session) (place : Place) (change : Bytes → Bytes) :
    s.write place change = match s.find place with
      | none => s
      | some h => { s with arena := (s.arena.modify h change).2 } := by
  rcases s with ⟨a, _ | ⟨scope, outer⟩, held⟩
  · cases place <;> rfl
  · cases place with
    | held number => rfl
    | slot slot =>
      cases named : scope.resolve slot <;>
        simp [write, find, Scope.modify, named, Except.toOption]

/-- Writing a pair comes down to the two handles. -/
theorem writePair_eq (s : Session) (p q : Place) (change : Bytes → Bytes → Bytes × Bytes) :
    s.writePair p q change = match s.find p, s.find q with
      | some h, some k => { s with arena := (s.arena.modifyPair h k change).2 }
      | _, _ => s := by
  rcases s with ⟨a, _ | ⟨scope, outer⟩, held⟩
  · cases p with
    | slot p => cases q <;> rfl
    | held m =>
      cases q with
      | held n => rfl
      | slot q => cases found : held.find m <;> simp [writePair, find, found]
  · cases p with
    | held m => cases q <;> rfl
    | slot p =>
      cases first : scope.resolve p with
      | error fault =>
        cases q <;> simp [writePair, find, Scope.modifyPair, first, Except.toOption]
      | ok h =>
        cases q with
        | held n => simp [writePair, find, first, Except.toOption]
        | slot q =>
          cases second : scope.resolve q <;>
            simp [writePair, find, Scope.modifyPair, first, second, Except.toOption]

/-- An action changes the arena by its calls and by nothing else. -/
theorem arena_act (s : Session) (action : Action) :
    (s.act action).arena = s.arena.after (s.calls action) := by
  rcases s with ⟨a, scopes, held⟩
  cases action with
  | ask request =>
    cases request with
    | claim size align =>
      cases done : a.allocate size align with
      | mk answer b =>
        cases answer with
        | error fault =>
          obtain rfl := Arena.allocate_error done
          rw [act, step, claim_refused done]
          simp only [calls, Arena.after, Arena.perform, done]
        | ok h =>
          cases scopes with
          | nil =>
            rw [act, step, claim_outside done rfl]
            simp only [calls, Arena.after, Arena.perform, done]
          | cons scope outer =>
            rw [act, step, claim_inside done rfl]
            simp only [calls, Arena.after, Arena.perform, done]
    | release number =>
      cases scopes with
      | nil => cases found : held.find number <;> simp [act, step, calls, found, Arena.after,
          Arena.perform]
      | cons scope outer => rfl
    | enter => rfl
    | reset | leave | finish => cases scopes <;> rfl
  | write place change =>
    rw [act, write_eq, calls]
    split <;> rename_i named <;> rw [named] <;> rfl
  | writePair p q change =>
    rw [act, writePair_eq, calls]
    split <;> rfl

end Session

/-! ### Levels -/

section Levels

variable {past later : List Deed} {kept kept' : Handle → Prop} {scopes : List Scope}
  {current more : List Handle}

/-- Open scopes, innermost first, over what the client keeps: what it can name on a level is
among the claims that are live there, and the marks of the scopes stand, the outer ones before
the inner ones. -/
inductive Layers (past : List Deed) (kept : Handle → Prop) : List Scope → List Handle → Prop where
  | ground {current : List Handle} : (∀ h, kept h → h ∈ current) → Layers past kept [] current
  | scope {s : Scope} {outer : List Scope} {current : List Handle} :
      Standing s.mark past → (∀ h ∈ s.handles, h ∈ current) →
      (∀ o ∈ outer, o.mark.clock ≤ s.mark.clock) → Layers past kept outer (liveAt s.mark past) →
      Layers past kept (s :: outer) current

theorem Layers.standing (layers : Layers past kept scopes current) :
    ∀ s ∈ scopes, Standing s.mark past := by
  induction layers with
  | ground => simp
  | scope standing _ _ _ ih =>
    intro o mem
    rcases List.mem_cons.mp mem with rfl | outer
    · exact standing
    · exact ih o outer

/-- Levels last while their marks stand, the client keeps no more than before, and no claim of
the topmost level is given back. -/
theorem Layers.weaken (layers : Layers past kept scopes current)
    (stands : ∀ s ∈ scopes, Standing s.mark past →
      Standing s.mark later ∧ liveAt s.mark later = liveAt s.mark past)
    (fewer : ∀ h, kept' h → kept h) (above : ∀ h ∈ current, h ∈ more) :
    Layers later kept' scopes more := by
  induction layers generalizing more with
  | ground all => exact .ground fun h held => above h (all h (fewer h held))
  | scope standing handles order _ ih =>
    obtain ⟨still, moment⟩ := stands _ List.mem_cons_self standing
    refine .scope still (fun h mem => above h (handles h mem)) order ?_
    rw [moment]
    exact ih (fun o mem => stands o (List.mem_cons_of_mem _ mem)) fun h mem => mem

end Levels

/-! ### The client and its history -/

/-- The arena is in the state that the history tells, and live claims hold what it says. -/
structure Told (a : Arena) (past : List Deed) : Prop where
  tells : a.Tells past
  keeps : a.Keeps past
  epoch : a.epoch = (past.count .reset).toUInt32

section Calls

variable {a : Arena} {past : List Deed}

/-- No call takes back that a handle was issued. -/
theorem claims_deeds (a : Arena) (c : Arena.Call) {h : Handle} (mem : h ∈ claims past) :
    h ∈ claims (a.deeds c ++ past) := by
  unfold Arena.deeds
  split <;> try split
  all_goals first | exact mem | exact List.mem_cons_of_mem _ mem

/-- Only a reset is told as one. -/
theorem count_deeds (a : Arena) (c : Arena.Call) (kept : c.isReset = false) :
    (a.deeds c ++ past).count .reset = past.count .reset := by
  unfold Arena.deeds
  split <;> try split
  all_goals first | rfl | exact absurd kept (by decide)

/-- **One call.** -/
theorem Told.perform (told : Told a past) (c : Arena.Call) (plain : c.isScoped = false)
    (honest : ∀ h, .handle h ∈ c.presents → h ∈ claims past)
    (orderly : ∀ m, c = .unwindTo m → Standing m past)
    (writes : ∀ h ∈ c.writes, a.checkLive h = .ok () → h ∈ live past) :
    Told (a.perform c).2 (a.deeds c ++ past) where
  tells := told.tells.perform c plain (fun h mem => .inl (honest h mem))
    fun m same _ => orderly m same
  keeps := told.keeps.perform told.tells c plain (fun m same _ => orderly m same) writes
  epoch := by
    cases reset : c.isReset with
    | true =>
      cases c <;> simp only [Arena.Call.isReset, reduceCtorEq] at reset
      show a.epoch + 1 = _
      simp [Arena.deeds, told.epoch]
    | false =>
      rw [count_deeds a c reset, (Arena.perform_continues a c reset).epoch, told.epoch]

end Calls

/-- The client holds the handle, which was issued since the last reset. -/
def Session.Holds (s : Session) (h : Handle) : Prop :=
  h.stamp.epoch = s.arena.epoch ∧ ∃ number, s.held.find number = some h

/-- The client's arena keeps the client's history, and the client can name nothing else that the
arena would take for live. -/
structure Tame (s : Session) (past : List Deed) : Prop where
  told : Told s.arena past
  /-- Every held handle was issued, after some number of resets. -/
  held : ∀ number h, s.held.find number = some h → h ∈ claims past ∧
    ∃ generation ≤ past.count .reset, h.stamp.epoch = generation.toUInt32
  single : ∀ m n h, s.held.find m = some h → s.held.find n = some h → m = n
  layers : Layers past s.Holds s.scopes (live past)

section Clients

variable {s : Session} {past : List Deed} {place p q : Place} {h : Handle}

theorem tame_fresh {id : ArenaId} {pool : Pool} {capacity : Nat} {a : Arena}
    (built : Arena.build id pool capacity = .ok a) : Tame (.fresh a) [] where
  told := {
    tells := Arena.tells_of_build built
    keeps := by simp [Arena.Keeps, live]
    epoch := by
      obtain ⟨-, -, rfl⟩ := Arena.build_ok_iff.mp built
      rfl }
  held number h found := by simp [Session.fresh, Held.find] at found
  single m n h found := by simp [Session.fresh, Held.find] at found
  layers := .ground fun h ⟨_, number, found⟩ => by simp [Session.fresh, Held.find] at found

/-- What a place names was issued. -/
theorem Tame.issued (tame : Tame s past) (found : s.find place = some h) : h ∈ claims past := by
  cases inUse : s.scopes with
  | nil =>
    obtain ⟨number, found⟩ := Session.find_outside inUse found
    exact (tame.held number h found).1
  | cons scope outer =>
    have layers := tame.layers
    rw [inUse] at layers
    cases layers with
    | scope _ handles _ _ =>
      exact tame.told.tells.issued h (handles h (Session.find_inside inUse found))

/-- What a place names is live if the arena takes it for live. -/
theorem Tame.live_of_check (tame : Tame s past) (found : s.find place = some h)
    (accepted : s.arena.checkLive h = .ok ()) : h ∈ live past := by
  have layers := tame.layers
  cases inUse : s.scopes with
  | nil =>
    rw [inUse] at layers
    obtain ⟨-, epoch, -⟩ := Arena.checkIssued_ok_iff.mp (Arena.checkLive_ok_iff.mp accepted).1
    cases layers with
    | ground all => exact all h ⟨epoch, Session.find_outside inUse found⟩
  | cons scope outer =>
    rw [inUse] at layers
    cases layers with
    | scope _ handles _ _ => exact handles h (Session.find_inside inUse found)

/-- A call of the arena after which the client stands where it stood: nothing was given back,
and nothing happened to the marks of its scopes. -/
theorem Tame.of_call (tame : Tame s past) (c : Arena.Call)
    (told : Told (s.arena.perform c).2 (s.arena.deeds c ++ past)) (kept : c.isReset = false)
    (stands : ∀ m, Standing m past → Standing m (s.arena.deeds c ++ past) ∧
      liveAt m (s.arena.deeds c ++ past) = liveAt m past)
    (above : ∀ h ∈ live past, h ∈ live (s.arena.deeds c ++ past)) :
    Tame { s with arena := (s.arena.perform c).2 } (s.arena.deeds c ++ past) where
  told := told
  held number h found := by
    obtain ⟨issued, generation⟩ := tame.held number h found
    rw [count_deeds s.arena c kept]
    exact ⟨claims_deeds s.arena c issued, generation⟩
  single := tame.single
  layers := by
    refine tame.layers.weaken (fun o _ => stands o.mark) ?_ above
    rintro h ⟨epoch, holds⟩
    exact ⟨epoch.trans (Arena.perform_continues s.arena c kept).epoch, holds⟩

/-- The client is given the handle of a live claim. -/
theorem Tame.give (tame : Tame s past) (alone : s.scopes = []) (onStack : h ∈ live past)
    (new : ∀ number, s.held.find number ≠ some h) :
    Tame { s with held := s.held.add h } past where
  told := tame.told
  held number k found := by
    rw [Held.find_add] at found
    split at found
    · cases found
      have epoch := (tame.told.tells.stacked.owned h onStack).2.1
      exact ⟨tame.told.tells.issued h onStack, _, Nat.le_refl _, epoch.trans tame.told.epoch⟩
    · exact tame.held number k found
  single m n k first second := by
    rw [Held.find_add] at first second
    split at first <;> split at second
    · simp_all
    · cases first
      exact absurd second (new n)
    · cases second
      exact absurd first (new m)
    · exact tame.single m n k first second
  layers := by
    have layers := tame.layers
    rw [alone] at layers ⊢
    cases layers with
    | ground all =>
      refine .ground fun k ⟨epoch, number, found⟩ => ?_
      rw [Held.find_add] at found
      split at found
      · cases found
        exact onStack
      · exact all k ⟨epoch, number, found⟩

/-- The innermost scope keeps the handle of a live claim. -/
theorem Tame.keep {scope : Scope} {outer : List Scope} (tame : Tame s past)
    (inUse : s.scopes = scope :: outer) (onStack : h ∈ live past) :
    Tame { s with scopes := { scope with handles := scope.handles ++ [h] } :: outer } past where
  told := tame.told
  held := tame.held
  single := tame.single
  layers := by
    have layers := tame.layers
    rw [inUse] at layers
    cases layers with
    | scope standing handles order below =>
      refine .scope standing (fun k mem => ?_) order below
      rcases List.mem_append.mp mem with old | new
      · exact handles k old
      · exact List.mem_singleton.mp new ▸ onStack

/-- The client gives a handle away. -/
theorem Tame.spend (tame : Tame s past) (number : Nat) :
    Tame { s with held := s.held.spend number } past where
  told := tame.told
  held n h found := by
    rw [Held.find_spend] at found
    split at found
    · cases found
    · exact tame.held n h found
  single m n h first second := by
    rw [Held.find_spend] at first second
    split at first <;> split at second
    · cases first
    · cases first
    · cases second
    · exact tame.single m n h first second
  layers := by
    refine tame.layers.weaken (fun _ _ standing => ⟨standing, rfl⟩) ?_ fun h mem => mem
    rintro h ⟨epoch, n, found⟩
    rw [Held.find_spend] at found
    split at found
    · cases found
    · exact ⟨epoch, n, found⟩

/-! ### One action -/

theorem Tame.claim (tame : Tame s past) (size align : Nat) :
    Tame (s.act (.ask (.claim size align)))
      (s.arena.deeds (.allocate size align) ++ past) := by
  have told := tame.told.perform (.allocate size align) rfl (by simp [Arena.Call.presents])
    (by simp) (by simp [Arena.Call.writes])
  have same := tame.of_call (.allocate size align) told rfl
  simp only [Session.act, Session.step, Arena.deeds, Arena.perform] at same ⊢
  cases done : s.arena.allocate size align with
  | mk answer b =>
    simp only [done] at same ⊢
    cases answer with
    | error fault =>
      obtain rfl := Arena.allocate_error done
      rw [Session.claim_refused done]
      exact tame
    | ok h =>
      have after := same (fun m standing => ⟨standing, rfl⟩) fun k => List.mem_cons_of_mem h
      have new : ∀ number, s.held.find number ≠ some h := by
        intro number found
        have before := (tame.told.tells.own h (tame.held number h found).1).2
        obtain ⟨-, -, rfl, -⟩ := Arena.allocate_ok done
        exact Nat.lt_irrefl _ before
      cases inUse : s.scopes with
      | nil =>
        rw [Session.claim_outside done inUse]
        exact after.give inUse List.mem_cons_self new
      | cons scope outer =>
        rw [Session.claim_inside done inUse]
        exact after.keep inUse List.mem_cons_self

theorem Tame.release {number : Nat} (tame : Tame s past) (alone : s.scopes = [])
    (found : s.held.find number = some h) :
    Tame (s.act (.ask (.release number))) (s.arena.deeds (.release h) ++ past) := by
  have issued := (tame.held number h found).1
  have told := tame.told.perform (.release h) rfl (by simpa [Arena.Call.presents] using issued)
    (by simp) (by simp [Arena.Call.writes])
  rw [Session.act, Session.step_release alone found]
  simp only [Arena.deeds, Arena.perform] at told ⊢
  cases done : s.arena.release h with
  | mk answer b =>
    simp only [done] at told ⊢
    cases answer with
    | error fault =>
      obtain rfl := Arena.release_error done
      exact tame.spend number
    | ok =>
      have spent := tame.spend number
      exact {
        told := told
        held := spent.held
        single := spent.single
        layers := by
          have layers := spent.layers
          rw [alone] at layers ⊢
          cases layers with
          | ground all =>
            refine .ground fun k holds => ?_
            obtain ⟨epoch, n, kept⟩ := holds
            have other : k ≠ h := by
              rintro rfl
              have again := kept
              rw [Held.find_spend] at again
              split at again
              · cases again
              · rename_i different
                exact different (tame.single n number k again found)
            have continues := Arena.release_continues done
            exact (List.mem_erase_of_ne other).mpr (all k ⟨epoch.trans continues.epoch, n, kept⟩) }

theorem Tame.reset (tame : Tame s past) (alone : s.scopes = [])
    (few : past.count .reset + 1 < UInt32.size) :
    Tame (s.act (.ask .reset)) (.reset :: past) := by
  have told := tame.told.perform .reset rfl (by simp [Arena.Call.presents]) (by simp)
    (by simp [Arena.Call.writes])
  rcases s with ⟨a, scopes, held⟩
  cases alone
  exact {
    told := told
    held := by
      intro number h found
      obtain ⟨issued, generation, before, epoch⟩ := tame.held number h found
      refine ⟨issued, generation, ?_, epoch⟩
      rw [List.count_cons_self]
      exact Nat.le_succ_of_le before
    single := tame.single
    layers := by
      -- Whatever the client holds is from before the reset.
      refine .ground fun h holds => ?_
      obtain ⟨now, number, found⟩ := holds
      obtain ⟨-, generation, before, epoch⟩ := tame.held number h found
      have current : a.reset.epoch = (past.count .reset + 1).toUInt32 :=
        told.epoch.trans (by simp [Arena.deeds])
      exact absurd (epoch.symm.trans (now.trans current))
        (toUInt32_ne (Nat.lt_succ_of_le before) few) }

theorem Tame.enter (tame : Tame s past) :
    Tame (s.act (.ask .enter)) (.marked s.arena.mark :: past) where
  told := tame.told.perform .openScope rfl (by simp [Arena.Call.presents]) (by simp)
    (by simp [Arena.Call.writes])
  held number h found := by simpa [claims] using tame.held number h found
  single := tame.single
  layers := by
    refine .scope (.inl rfl) (by simp) ?_ ?_
    · intro o mem
      exact (tame.told.tells.recalled o.mark (tame.layers.standing o mem)).1.clock
    · simp only [liveAt, if_true]
      refine tame.layers.weaken (fun o _ standing => ⟨.inr standing, ?_⟩) (fun h holds => holds)
        fun h mem => mem
      simp only [liveAt]
      split
      · rename_i now
        exact (tame.told.tells.liveAt_present standing (now ▸ rfl)).symm
      · rfl

/-- The arena comes back to a mark that stands for the level of the scopes `rest`. -/
theorem Tame.unwind {m : Mark} {rest : List Scope} (tame : Tame s past)
    (standing : Standing m past) (order : ∀ o ∈ rest, o.mark.clock ≤ m.clock)
    (below : Layers past s.Holds rest (liveAt m past)) :
    ∃ b, s.arena.unwindTo m = (.ok (), b) ∧ Standing m (.unwound m :: past) ∧
      Tame { s with arena := b, scopes := rest } (.unwound m :: past) := by
  obtain ⟨b, done, -, -⟩ := tame.told.tells.unwound standing
  have told := tame.told.perform (.unwindTo m) rfl (by simp [Arena.Call.presents])
    (by rintro k same; cases same; exact standing) (by simp [Arena.Call.writes])
  simp only [Arena.perform, Arena.deeds, done] at told
  refine ⟨b, done, ⟨standing, Nat.lt_irrefl _⟩, ?_⟩
  exact {
    told := told
    held := by
      intro number h found
      simpa [claims] using tame.held number h found
    single := tame.single
    layers := by
      refine below.weaken (fun o mem still => ⟨⟨still, Nat.not_lt.mpr (order o mem)⟩, rfl⟩) ?_
        fun h mem => mem
      rintro h ⟨epoch, holds⟩
      exact ⟨epoch.trans (Arena.unwindTo_continues done).epoch, holds⟩ }

/-- The innermost scope closes: the arena comes back to its mark, and can do so again. -/
theorem Tame.close {scope : Scope} {outer : List Scope} (tame : Tame s past)
    (inUse : s.scopes = scope :: outer) :
    ∃ b c, s.arena.unwindTo scope.mark = (.ok (), b) ∧
      Tame { s with arena := b, scopes := outer } (.unwound scope.mark :: past) ∧
      b.unwindTo scope.mark = (.ok (), c) ∧
      Tame { s with arena := c, scopes := outer }
        (.unwound scope.mark :: .unwound scope.mark :: past) := by
  have layers := tame.layers
  rw [inUse] at layers
  cases layers with
  | scope standing _ order below =>
    obtain ⟨b, done, still, once⟩ := tame.unwind standing order below
    obtain ⟨c, again, -, twice⟩ := once.unwind still order once.layers
    exact ⟨b, c, done, once, again, twice⟩

theorem Tame.leave {scope : Scope} {outer : List Scope} (tame : Tame s past)
    (inUse : s.scopes = scope :: outer) :
    Tame (s.act (.ask .leave)) (s.deeds (.ask .leave) ++ past) := by
  obtain ⟨b, -, done, once, -⟩ := tame.close inUse
  simpa [Session.act, Session.step, Session.deeds, Session.calls, inUse, Arena.tale, Arena.deeds,
    Scope.leave, done] using once

theorem Tame.finish {scope : Scope} {outer : List Scope} (tame : Tame s past)
    (inUse : s.scopes = scope :: outer) :
    Tame (s.act (.ask .finish)) (s.deeds (.ask .finish) ++ past) := by
  obtain ⟨b, c, done, -, again, twice⟩ := tame.close inUse
  simpa [Session.act, Session.step, Session.deeds, Session.calls, inUse, Arena.tale, Arena.deeds,
    Arena.perform, Scope.leave, Scope.finish, done, again] using twice

/-- What writing does to a history: nothing is claimed or given back. -/
theorem Tame.wrote (tame : Tame s past) (c : Arena.Call) (plain : c.isScoped = false)
    (honest : ∀ h, .handle h ∈ c.presents → h ∈ claims past)
    (writes : ∀ h ∈ c.writes, s.arena.checkLive h = .ok () → h ∈ live past)
    (written : c.writes ≠ []) :
    Tame { s with arena := (s.arena.perform c).2 } (s.arena.deeds c ++ past) := by
  cases c with
  | modify h change =>
    have told := tame.told.perform (.modify h change) plain honest (by simp) writes
    refine tame.of_call _ told rfl ?_ ?_ <;> simp only [Arena.deeds] <;> split <;>
      simp [live, liveAt, Standing]
  | modifyPair h k change =>
    have told := tame.told.perform (.modifyPair h k change) plain honest (by simp) writes
    refine tame.of_call _ told rfl ?_ ?_ <;> simp only [Arena.deeds] <;> split <;>
      simp [live, liveAt, Standing]
  | _ => exact absurd rfl written

/-- **One action.** Unless it makes the count of resets run over, the arena goes on to keep the
client's history. -/
theorem Tame.act (tame : Tame s past) (action : Action)
    (few : (s.deeds action ++ past).count .reset < UInt32.size) :
    Tame (s.act action) (s.deeds action ++ past) := by
  cases action with
  | ask request =>
    cases request with
    | claim size align => exact tame.claim size align
    | release number =>
      cases inUse : s.scopes with
      | nil =>
        cases found : s.held.find number with
        | none => simpa [Session.act, Session.step, Session.deeds, Session.calls, inUse, found]
        | some h =>
          simpa [Session.deeds, Session.calls, inUse, found] using tame.release inUse found
      | cons scope outer =>
        simpa [Session.act, Session.step, Session.deeds, Session.calls, inUse]
    | reset =>
      cases inUse : s.scopes with
      | nil =>
        simp only [Session.deeds, Session.calls, inUse, Arena.tale_singleton, Arena.deeds,
          List.singleton_append, List.count_cons_self] at few ⊢
        exact tame.reset inUse few
      | cons scope outer =>
        simpa [Session.act, Session.step, Session.deeds, Session.calls, inUse]
    | enter => exact tame.enter
    | leave =>
      cases inUse : s.scopes with
      | nil => simpa [Session.act, Session.step, Session.deeds, Session.calls, inUse]
      | cons scope outer => exact tame.leave inUse
    | finish =>
      cases inUse : s.scopes with
      | nil => simpa [Session.act, Session.step, Session.deeds, Session.calls, inUse]
      | cons scope outer => exact tame.finish inUse
  | write place change =>
    rw [Session.act, Session.write_eq, Session.deeds, Session.calls]
    cases found : s.find place with
    | none => exact tame
    | some h =>
      refine tame.wrote (.modify h change) rfl ?_ ?_ (by simp [Arena.Call.writes])
      · simpa [Arena.Call.presents] using tame.issued found
      · simpa [Arena.Call.writes] using tame.live_of_check found
  | writePair p q change =>
    rw [Session.act, Session.writePair_eq, Session.deeds, Session.calls]
    split
    · rename_i h k first second
      refine tame.wrote (.modifyPair h k change) rfl ?_ ?_ (by simp [Arena.Call.writes])
      · simpa [Arena.Call.presents] using ⟨tame.issued first, tame.issued second⟩
      · simpa [Arena.Call.writes] using
          ⟨tame.live_of_check first, tame.live_of_check second⟩
    · exact tame

/-- **Every run.** -/
theorem Tame.acts (tame : Tame s past) (actions : List Action)
    (few : (s.history actions ++ past).count .reset < UInt32.size) :
    Tame (s.acts actions) (s.history actions ++ past) := by
  induction actions generalizing s past with
  | nil => exact tame
  | cons action rest ih =>
    rw [Session.history, List.append_assoc] at few ⊢
    have soon : (s.deeds action ++ past).count .reset < UInt32.size :=
      Nat.lt_of_le_of_lt ((List.sublist_append_right _ _).count_le _) few
    exact ih (tame.act action soon) few

end Clients

/-! ### Isolation -/

/-- Live claims are isolated. Newest first, they come in the order in which they were issued,
each starts where the older ones have ended, and all end at or below the high-water mark. Each
is read as the history says and can be written, and so can two at once, in argument order, unless
some byte lies in both; then the arena refuses. Where one of them is empty, no byte lies in
both. -/
structure Isolated (a : Arena) (past : List Deed) : Prop where
  order : (live past).Pairwise fun newer older =>
    older.stamp.seq < newer.stamp.seq ∧ older.stop ≤ newer.start
  within : ∀ h ∈ live past, h.stop ≤ a.highWater
  reads : ∀ h ∈ live past, a.bytes h = .ok (content h past)
  writes : ∀ h ∈ live past, ∀ change, (a.modify h change).1 = .ok (content h past)
  pairs : ∀ h ∈ live past, ∀ k ∈ live past, ¬ h.SharesByte k → ∀ change,
    (a.modifyPair h k change).1 = .ok (content h past, content k past)
  aliases : ∀ h ∈ live past, ∀ k ∈ live past, h.SharesByte k → ∀ change,
    (a.modifyPair h k change).1 = .error (.overlap a.pool)
  empty : ∀ h ∈ live past, ∀ k ∈ live past, h.length = 0 ∨ k.length = 0 → ¬ h.SharesByte k

theorem Told.reads {a : Arena} {past : List Deed} {h : Handle} (told : Told a past)
    (mem : h ∈ live past) : a.bytes h = .ok (content h past) :=
  Arena.bytes_ok_iff.mpr ⟨told.tells.stacked.checkLive mem, told.keeps h mem⟩

theorem Told.isolated {a : Arena} {past : List Deed} (told : Told a past) : Isolated a past where
  order := told.tells.stacked.order
  within h mem := (told.tells.stacked.owned h mem).2.2.2
  reads h mem := told.reads mem
  writes h mem change := by simp only [Arena.modify, told.reads mem]
  pairs h first k second free change := by
    have apart : h.overlaps k = false := by
      rw [← Bool.not_eq_true, told.tells.stacked.overlaps_iff first second]
      exact free
    have read := Arena.bytesPair_ok_iff.mpr ⟨told.tells.stacked.checkLive first,
      told.tells.stacked.checkLive second, apart, told.keeps h first, told.keeps k second⟩
    simp only [Arena.modifyPair, read]
  aliases h first k second shared change := by
    have overlapping := (told.tells.stacked.overlaps_iff first second).mpr shared
    simp only [Arena.modifyPair, Arena.bytesPair, told.tells.stacked.checkLive first,
      told.tells.stacked.checkLive second, overlapping, if_true]
  empty h _ k _ none := by
    rintro ⟨byte, inFirst, inSecond⟩
    simp only [Handle.stop] at inFirst inSecond
    omega

/-- **Live claims are isolated.** Whatever a client of a fresh arena does with fewer than `2 ^ 32`
resets, its live claims are isolated, and what it can name and read is live. -/
theorem live_claims_isolated {id : ArenaId} {pool : Pool} {capacity : Nat} {a : Arena}
    (built : Arena.build id pool capacity = .ok a) (actions : List Action)
    (few : ((Session.fresh a).history actions).count .reset < UInt32.size) :
    Isolated ((Session.fresh a).acts actions).arena ((Session.fresh a).history actions) ∧
      ∀ place h bytes, ((Session.fresh a).acts actions).find place = some h →
        ((Session.fresh a).acts actions).arena.bytes h = .ok bytes →
          h ∈ live ((Session.fresh a).history actions) := by
  have tame := (tame_fresh built).acts actions (by rwa [List.append_nil])
  rw [List.append_nil] at tame
  refine ⟨tame.told.isolated, fun place h bytes found read => ?_⟩
  exact tame.live_of_check found (Arena.bytes_ok_iff.mp read).1

/-! A run in which claims of no bytes share a place, and padding and a scope's bytes are used
again. -/

namespace Shared

/-- A fresh arena of thirty-two bytes. -/
def start : Arena := ⟨⟨1⟩, .ram, Buffer.zeroed 32, 0, 0, 0, 0, .empty, .empty, 0⟩

def actions : List Action :=
  [.ask (.claim 3 1), .write (.held 0) fun _ => [1, 2, 3], .ask (.claim 0 1), .ask .enter,
    .ask (.claim 2 8), .write (.slot ⟨⟨⟨1⟩, 0⟩, 0⟩) fun _ => [8, 9], .ask .leave, .ask (.claim 7 1),
    .writePair (.held 0) (.held 2) fun p q => (q, p)]

def first : Handle := ⟨⟨1⟩, .ram, 0, 3, ⟨0, 0⟩, .empty⟩

def empty : Handle := ⟨⟨1⟩, .ram, 3, 0, ⟨0, 1⟩, ⟨some 0, 3⟩⟩

def last : Handle := ⟨⟨1⟩, .ram, 3, 7, ⟨0, 4⟩, ⟨some 1, 3⟩⟩

def log : List Deed := (Session.fresh start).history actions

def final : Arena := ((Session.fresh start).acts actions).arena

end Shared

open Shared in
/-- The last claim shows padding, what the scope left, and what was written; the empty claim at
its start is viewed beside it, and no claim beside itself but the empty one. -/
theorem live_claims_isolated_shared :
    Arena.build ⟨1⟩ .ram 32 = .ok start ∧ log.count .reset < UInt32.size ∧
      final.bytes last = .ok [1, 2, 3, 0, 0, 8, 9] ∧
      (final.modifyPair empty last fun p q => (p, q)).1 = .ok ([], [1, 2, 3, 0, 0, 8, 9]) ∧
      (final.modifyPair empty empty fun p q => (p, q)).1 = .ok ([], []) ∧
      (final.modifyPair last last fun p q => (p, q)).1 = .error (.overlap .ram) := by
  have built : Arena.build ⟨1⟩ .ram 32 = .ok start :=
    Arena.build_ok_iff.mpr ⟨by decide, by decide, rfl⟩
  have few : log.count .reset < UInt32.size := by decide +kernel
  have claims : live log = [last, empty, first] := by decide +kernel
  have top : last ∈ live log := by rw [claims]; decide
  have flat : empty ∈ live log := by rw [claims]; decide
  have written : content last log = [1, 2, 3, 0, 0, 8, 9] := by decide +kernel
  have nothing : content empty log = [] := by decide +kernel
  obtain ⟨isolated, -⟩ := live_claims_isolated built actions few
  have free := fun k mem => isolated.empty empty flat k mem (.inl rfl)
  refine ⟨built, few, ?_, ?_, ?_, ?_⟩
  · exact written ▸ isolated.reads last top
  · exact written ▸ nothing ▸ isolated.pairs empty flat last top (free last top) _
  · exact nothing ▸ isolated.pairs empty flat empty flat (free empty flat) _
  · exact isolated.aliases last top last top ⟨3, by decide⟩ _

end TensorArena.Lifo
