import TensorArena.Proofs.Model.Leftover

/-!
What plans accept.

A blueprint is planned exactly if its capacities are acceptable, it evaluates something, its
steps and its tensors have names of their own, and in each pool the declared demands and the
largest scratch demand fit the capacity together. These are sums of any size: saturating on the
way neither hides a demand that does not fit nor refuses one that does. The plan of an accepted
blueprint holds the exact numbers, and a blueprint that is not accepted is refused for the first
check that it fails.
-/

namespace TensorArena

/-! ### Names -/

namespace Plan

variable {seen names : List String} {name : String}

/-- The name is the first of the list that stands earlier in it. -/
def FirstRepeat (names : List String) (name : String) : Prop :=
  ∃ before after, names = before ++ name :: after ∧ before.Nodup ∧ name ∈ before

theorem firstRepeated?_eq_none_iff :
    firstRepeated? seen names = none ↔ names.Nodup ∧ ∀ name ∈ names, name ∉ seen := by
  refine ⟨Model.nodup_of_firstRepeated?, fun differ => ?_⟩
  induction names generalizing seen with
  | nil => rfl
  | cons name rest ih =>
    obtain ⟨nodup, new⟩ := differ
    obtain ⟨apart, nodup⟩ := List.nodup_cons.mp nodup
    rw [firstRepeated?, if_neg (new name List.mem_cons_self)]
    refine ih ⟨nodup, fun other mem held => ?_⟩
    rcases List.mem_cons.mp held with rfl | old
    · exact apart mem
    · exact new other (List.mem_cons_of_mem _ mem) old

/-- The name found is in `seen` or stands earlier, and no name before it is or does. -/
theorem firstRepeated?_eq_some_iff : firstRepeated? seen names = some name ↔
    ∃ before after, names = before ++ name :: after ∧ before.Nodup ∧
      (∀ other ∈ before, other ∉ seen) ∧ (name ∈ seen ∨ name ∈ before) := by
  induction names generalizing seen with
  | nil => simp [firstRepeated?]
  | cons first rest ih =>
    rw [firstRepeated?]
    split
    · rename_i old
      constructor
      · intro same
        cases same
        exact ⟨[], rest, rfl, .nil, by simp, .inl old⟩
      · rintro ⟨before, after, parts, -, new, -⟩
        cases before with
        | nil =>
          cases parts
          rfl
        | cons other before =>
          cases parts
          exact absurd old (new _ List.mem_cons_self)
    · rename_i new
      rw [ih]
      constructor
      · rintro ⟨before, after, rfl, nodup, others, again⟩
        refine ⟨first :: before, after, rfl, List.nodup_cons.mpr ⟨fun mem => ?_, nodup⟩,
          List.forall_mem_cons.mpr ⟨new, fun other mem held => ?_⟩, ?_⟩
        · exact others first mem List.mem_cons_self
        · exact others other mem (List.mem_cons_of_mem _ held)
        · rcases again with held | mem
          · rcases List.mem_cons.mp held with rfl | old
            · exact .inr List.mem_cons_self
            · exact .inl old
          · exact .inr (List.mem_cons_of_mem _ mem)
      · rintro ⟨before, after, parts, nodup, others, again⟩
        cases before with
        | nil =>
          cases parts
          exact absurd again (by simpa using new)
        | cons other before =>
          cases parts
          obtain ⟨apart, nodup⟩ := List.nodup_cons.mp nodup
          refine ⟨before, after, rfl, nodup, fun other mem held => ?_, ?_⟩
          · rcases List.mem_cons.mp held with rfl | old
            · exact apart mem
            · exact others other (List.mem_cons_of_mem _ mem) old
          · rcases again with old | mem
            · exact .inl (List.mem_cons_of_mem _ old)
            · rcases List.mem_cons.mp mem with rfl | later
              · exact .inl List.mem_cons_self
              · exact .inr later

theorem nodup_iff : firstRepeated? [] names = none ↔ names.Nodup := by
  simp [firstRepeated?_eq_none_iff]

theorem firstRepeat_iff : firstRepeated? [] names = some name ↔ FirstRepeat names name := by
  simp [firstRepeated?_eq_some_iff, FirstRepeat]

end Plan

/-! ### Tables of names that differ -/

namespace Table

variable {α : Type} {entries more : List (String × α)} {name : String} {x : α}

theorem lookup_eq_none_iff : lookup entries name = none ↔ name ∉ entries.map (·.1) := by
  induction entries with
  | nil => simp [lookup]
  | cons entry rest ih =>
    rw [lookup, List.map_cons, List.mem_cons, not_or, ← ih]
    split
    · rename_i here
      simp [here]
    · rename_i other
      simp [Ne.symm other]

/-- Under names that differ every entry is found. -/
theorem lookup_of_mem (nodup : (entries.map (·.1)).Nodup) (mem : (name, x) ∈ entries) :
    lookup entries name = some x := by
  induction entries with
  | nil => cases mem
  | cons entry rest ih =>
    obtain ⟨apart, nodup⟩ := List.nodup_cons.mp nodup
    rw [lookup]
    rcases List.mem_cons.mp mem with rfl | later
    · rw [if_pos rfl]
    · rw [if_neg, ih nodup later]
      rintro rfl
      exact apart (List.mem_map.mpr ⟨_, later, rfl⟩)

theorem foldl_insert_of_nodup (entries : List (String × α))
    (nodup : ((entries ++ more).map (·.1)).Nodup) :
    more.foldl (fun t entry => t.insert entry.1 entry.2) (⟨entries⟩ : Table α) =
      ⟨entries ++ more⟩ := by
  induction more generalizing entries with
  | nil => simp
  | cons entry rest ih =>
    have new : lookup entries entry.1 = none := by
      rw [lookup_eq_none_iff]
      rw [List.map_append, List.nodup_append] at nodup
      exact fun mem => nodup.2.2 _ mem _ List.mem_cons_self rfl
    rw [List.append_cons] at nodup ⊢
    rw [List.foldl_cons, insert, put_of_lookup_eq_none new, ih _ nodup]

/-- Entries under names that differ are kept as they come. -/
theorem ofList_of_nodup (nodup : (entries.map (·.1)).Nodup) : ofList entries = ⟨entries⟩ :=
  foldl_insert_of_nodup [] nodup

end Table

/-! ### Demands -/

theorem PerPool.get_foldl_larger_eq (counts : List (PerPool Nat)) (start : PerPool Nat)
    (p : Pool) : (counts.foldl larger start).get p =
      (counts.map (·.get p)).foldl max (start.get p) := by
  induction counts generalizing start with
  | nil => rfl
  | cons v rest ih =>
    rw [List.foldl_cons, ih, larger, get_zipWith]
    rfl

/-- The largest of counts is the maximum of each pool's, where there are any. -/
theorem PerPool.get_largest (counts : List (PerPool Nat)) (p : Pool) :
    (largest counts).get p = (counts.map (·.get p)).max?.getD 0 := by
  rw [largest, get_foldl_larger_eq, get_zero]
  cases counts with
  | nil => rfl
  | cons v rest =>
    rw [List.map_cons, List.max?_cons', List.foldl_cons, Nat.zero_max, Option.getD_some]

/-- What is alive together and the largest of what is not add up exactly, where the sum is a byte
count. -/
theorem PerPool.get_total (alive passing : List (PerPool Nat)) (p : Pool) :
    ((satSum alive).satAdd (largest passing)).get p =
      min ((alive.map (·.get p)).sum + (passing.map (·.get p)).max?.getD 0) ByteCount.largest := by
  have sum : ((satSum alive).satAdd (largest passing)).get p =
      min ((satSum alive).get p + (largest passing).get p) ByteCount.largest := get_zipWith _ _ _ _
  rw [sum, get_satSum, get_largest]
  omega

theorem Capacity.check_ok_iff {p : Pool} {bytes : Nat} :
    Capacity.check p bytes = .ok () ↔ 0 < bytes ∧ bytes ≤ Capacity.largest := by
  unfold Capacity.check
  split
  · simp
    omega
  · simp
    omega

theorem Capacity.check_error {p : Pool} {bytes : Nat} {fault : Arena.Fault}
    (refused : Capacity.check p bytes = .error fault) : fault = .invalidCapacity p bytes := by
  unfold Capacity.check at refused
  split at refused <;> cases refused
  rfl

theorem Capacities.check_ok_iff {capacities : Capacities} : capacities.check = .ok () ↔
    ∀ p, 0 < capacities.get p ∧ capacities.get p ≤ Capacity.largest := by
  unfold Capacities.check
  constructor
  · intro passed
    split at passed
    · cases passed
    · rename_i metadata
      intro p
      cases p with
      | metadata => exact Capacity.check_ok_iff.mp metadata
      | ram => exact Capacity.check_ok_iff.mp passed
  · intro acceptable
    have metadata : Capacity.check .metadata capacities.metadata = .ok () :=
      Capacity.check_ok_iff.mpr (acceptable .metadata)
    rw [metadata]
    exact Capacity.check_ok_iff.mpr (acceptable .ram)

/-- Saturating sums find out what the exact ones would, as acceptable capacities are far below
the largest byte count. -/
theorem Capacities.firstExceeded?_eq {capacities : Capacities} {required : PerPool Nat}
    {needed : Pool → Nat} (acceptable : ∀ p, capacities.get p ≤ Capacity.largest)
    (saturated : ∀ p, required.get p = min (needed p) ByteCount.largest) :
    capacities.firstExceeded? required =
      Pool.all.find? fun p => capacities.get p < needed p := by
  rw [firstExceeded?]
  congr 1
  funext p
  have below : capacities.get p < ByteCount.largest :=
    Nat.lt_of_le_of_lt (acceptable p) (by decide)
  rw [saturated, decide_eq_decide]
  omega

namespace Blueprint

variable {σ : Type} (b : Blueprint σ) (p : Pool)

/-- What the bindings of all declaring steps take, added up exactly. -/
def declaredBytes : Nat := (b.declarations.map (·.demand.get p)).sum

/-- The largest scratch of an evaluating step. -/
def scratchBytes : Nat := (b.evaluations.map (·.demand.get p)).max?.getD 0

/-- What a run needs, exactly. -/
def neededBytes : Nat := b.declaredBytes p + b.scratchBytes p

/-- The declared bytes of a plan saturate. -/
theorem get_declared : b.declared.get p = min (b.declaredBytes p) ByteCount.largest := by
  rw [declared, PerPool.get_satSum, List.map_map]
  rfl

theorem get_maxScratch : b.maxScratch.get p = b.scratchBytes p := by
  rw [maxScratch, PerPool.get_largest, List.map_map]
  rfl

/-- What a plan requires is what is needed, where that is a byte count. -/
theorem get_required :
    b.needs.required.get p = min (b.neededBytes p) ByteCount.largest := by
  have total : b.needs.required = (PerPool.satSum (b.declarations.map (·.demand))).satAdd
      (.largest (b.evaluations.map (·.demand))) := rfl
  rw [total, PerPool.get_total, List.map_map, List.map_map]
  rfl

/-! ### Checks -/

/-- What is checked before a plan is made. -/
inductive Check where
  | capacity (p : Pool)
  | evaluates
  | steps
  | tensors
  | fits (p : Pool)

/-- The checks in order. -/
def checks : List Check :=
  [.capacity .metadata, .capacity .ram, .evaluates, .steps, .tensors, .fits .metadata, .fits .ram]

/-- What each check asks for. -/
def Passes : Check → Prop
  | .capacity p => 0 < b.capacities.get p ∧ b.capacities.get p ≤ Capacity.largest
  | .evaluates => b.evaluations ≠ []
  | .steps => (b.steps.map (·.name)).Nodup
  | .tensors => (b.inputs ++ b.outputs).Nodup
  | .fits p => b.neededBytes p ≤ b.capacities.get p

/-- The fault that a failed check is refused with. -/
inductive Reports : Check → Plan.Fault → Prop where
  | capacity (p : Pool) :
      Reports (.capacity p) (.capacities (.invalidCapacity p (b.capacities.get p)))
  | evaluates : Reports .evaluates .noEvaluation
  | steps {name : String} : Plan.FirstRepeat (b.steps.map (·.name)) name →
      Reports .steps (.duplicateStep name)
  | tensors {name : String} : Plan.FirstRepeat (b.inputs ++ b.outputs) name →
      Reports .tensors (.duplicateTensor name)
  | fits (p : Pool) : Reports (.fits p)
      (.exceedsPool p (min (b.neededBytes p) ByteCount.largest) (b.capacities.get p))

/-- The check fails, and all before it pass. -/
def FirstFailing (c : Check) : Prop :=
  ∃ passed rest, checks = passed ++ c :: rest ∧ (∀ d ∈ passed, b.Passes d) ∧ ¬ b.Passes c

variable {b p} {c d : Check} {fault other : Plan.Fault}

theorem FirstFailing.eq (first : b.FirstFailing c) (second : b.FirstFailing d) : c = d := by
  classical
  have found : ∀ {c : Check}, b.FirstFailing c →
      checks.find? (fun c => ¬ b.Passes c) = some c := by
    rintro c ⟨passed, rest, parts, before, fails⟩
    refine List.find?_eq_some_iff_append.mpr ⟨by simpa using fails, passed, rest, parts, ?_⟩
    simpa using before
  exact Option.some.inj ((found first).symm.trans (found second))

theorem Reports.eq (first : b.Reports c fault) (second : b.Reports c other) :
    fault = other := by
  have name : ∀ {names : List String} {x y : String}, Plan.FirstRepeat names x →
      Plan.FirstRepeat names y → x = y := fun first second =>
    Option.some.inj ((Plan.firstRepeat_iff.mpr first).symm.trans (Plan.firstRepeat_iff.mpr second))
  cases first <;> cases second <;> try rfl
  · rename_i first _ second
    rw [name first second]
  · rename_i first _ second
    rw [name first second]

/-- The fault of a check, where it fails. -/
def refusal? : Check → Option Plan.Fault
  | .capacity p =>
    match Capacity.check p (b.capacities.get p) with
    | .error fault => some (.capacities fault)
    | .ok () => none
  | .evaluates => if b.evaluations.isEmpty then some .noEvaluation else none
  | .steps => (Plan.firstRepeated? [] (b.steps.map (·.name))).map .duplicateStep
  | .tensors => (Plan.firstRepeated? [] (b.inputs ++ b.outputs)).map .duplicateTensor
  | .fits p =>
    if b.neededBytes p ≤ b.capacities.get p then none
    else some (.exceedsPool p (min (b.neededBytes p) ByteCount.largest) (b.capacities.get p))

theorem refusal?_eq_none_iff : b.refusal? c = none ↔ b.Passes c := by
  cases c with
  | capacity p =>
    rw [Passes, ← Capacity.check_ok_iff (p := p), refusal?]
    cases Capacity.check p (b.capacities.get p) <;> simp
  | evaluates => simp [refusal?, Passes]
  | steps => simp [refusal?, Passes, Plan.nodup_iff]
  | tensors => simp [refusal?, Passes, Plan.nodup_iff]
  | fits p => simp [refusal?, Passes]

theorem reports_of_refusal? (refused : b.refusal? c = some fault) : b.Reports c fault := by
  cases c with
  | capacity p =>
    rw [refusal?] at refused
    split at refused <;> cases refused
    rename_i unacceptable
    cases Capacity.check_error unacceptable
    exact .capacity p
  | evaluates =>
    rw [refusal?] at refused
    split at refused <;> cases refused
    exact .evaluates
  | steps =>
    obtain ⟨name, repeated, rfl⟩ := Option.map_eq_some_iff.mp refused
    exact .steps (Plan.firstRepeat_iff.mp repeated)
  | tensors =>
    obtain ⟨name, repeated, rfl⟩ := Option.map_eq_some_iff.mp refused
    exact .tensors (Plan.firstRepeat_iff.mp repeated)
  | fits p =>
    rw [refusal?] at refused
    split at refused <;> cases refused
    exact .fits p

/-- The plan is made from the needs, or the fault of the first check that fails is its own. -/
theorem plan_eq (b : Blueprint σ) : b.plan =
    match checks.findSome? b.refusal? with
    | some fault => .error fault
    | none => .ok b.needs := by
  have both : b.capacities.check = match Capacity.check .metadata (b.capacities.get .metadata) with
    | .error fault => .error fault
    | .ok () => Capacity.check .ram (b.capacities.get .ram) := rfl
  rw [plan, both]
  simp only [checks, List.findSome?, refusal?]
  cases metadata : Capacity.check .metadata (b.capacities.get .metadata) with
  | error fault => rfl
  | ok _ =>
    cases ram : Capacity.check .ram (b.capacities.get .ram) with
    | error fault => rfl
    | ok _ =>
      have acceptable : ∀ p, b.capacities.get p ≤ Capacity.largest := by
        intro p
        cases p with
        | metadata => exact (Capacity.check_ok_iff.mp metadata).2
        | ram => exact (Capacity.check_ok_iff.mp ram).2
      cases b.evaluations.isEmpty with
      | true => rfl
      | false =>
        cases Plan.firstRepeated? [] (b.steps.map (·.name)) with
        | some name => rfl
        | none =>
          cases Plan.firstRepeated? [] (b.inputs ++ b.outputs) with
          | some name => rfl
          | none =>
            rw [Capacities.firstExceeded?_eq acceptable b.get_required]
            by_cases inMetadata : b.neededBytes .metadata ≤ b.capacities.get .metadata
            · by_cases inRam : b.neededBytes .ram ≤ b.capacities.get .ram
              · simp [Pool.all, inMetadata, inRam]
              · simp [Pool.all, inMetadata, inRam, Nat.lt_of_not_le inRam, get_required]
            · simp [Pool.all, inMetadata, Nat.lt_of_not_le inMetadata, get_required]

/-- Every check passes, or there is a first one that fails and its fault is reported. -/
theorem plan_cases (b : Blueprint σ) :
    (b.plan = .ok b.needs ∧ ∀ c ∈ checks, b.Passes c) ∨
      ∃ c fault, b.FirstFailing c ∧ b.Reports c fault ∧ b.plan = .error fault := by
  have planned := b.plan_eq
  cases found : checks.findSome? b.refusal? with
  | none =>
    rw [found] at planned
    rw [List.findSome?_eq_none_iff] at found
    exact .inl ⟨planned, fun c mem => refusal?_eq_none_iff.mp (found c mem)⟩
  | some fault =>
    rw [found] at planned
    obtain ⟨passed, c, rest, parts, refused, before⟩ := List.findSome?_eq_some_iff.mp found
    refine .inr ⟨c, fault, ⟨passed, rest, parts, ?_, ?_⟩, reports_of_refusal? refused, planned⟩
    · exact fun d mem => refusal?_eq_none_iff.mp (before d mem)
    · intro passes
      cases refused.symm.trans (refusal?_eq_none_iff.mpr passes)

end Blueprint

/-! ### What a plan holds -/

/-- The plan holds the exact numbers of the blueprint. -/
structure Plan.Exact {σ : Type} (plan : Plan) (b : Blueprint σ) : Prop where
  capacities : plan.capacities = b.capacities
  declared : ∀ p, plan.declared.get p = b.declaredBytes p
  maxScratch : ∀ p, plan.maxScratch.get p = b.scratchBytes p
  /-- Whatever the capacity leaves over what is needed. -/
  headroom : ∀ p, plan.required.get p + plan.headroom p = b.capacities.get p
  size : plan.size = b.declarations.length + b.evaluations.length
  /-- Every step is found under its name. -/
  demand : ∀ step ∈ b.steps, plan.demand? step.name = some step.demand
  /-- Nothing else is found. -/
  unknown : ∀ name, name ∉ b.steps.map (·.name) → plan.demand? name = none

namespace Blueprint

variable {σ : Type} {b : Blueprint σ}

theorem needs_exact (passes : ∀ c ∈ checks, b.Passes c) : b.needs.Exact b := by
  have acceptable (p : Pool) : b.Passes (.capacity p) :=
    passes _ (by cases p <;> simp [checks])
  have fits (p : Pool) : b.neededBytes p ≤ b.capacities.get p :=
    passes (.fits p) (by cases p <;> simp [checks])
  have below (p : Pool) : b.neededBytes p ≤ ByteCount.largest := by
    have small : b.capacities.get p ≤ Capacity.largest := (acceptable p).2
    have far : Capacity.largest ≤ ByteCount.largest := by decide
    exact Nat.le_trans (fits p) (Nat.le_trans small far)
  have names : ((b.steps.map fun step => (step.name, step.demand)).map (·.1)) =
      b.steps.map (·.name) := by
    rw [List.map_map]
    rfl
  have differ : ((b.steps.map fun step => (step.name, step.demand)).map (·.1)).Nodup := by
    rw [names]
    exact passes .steps (by simp [checks])
  have demands : b.needs.demands.entries = b.steps.map fun step => (step.name, step.demand) :=
    congrArg Table.entries (Table.ofList_of_nodup differ)
  constructor
  case capacities => rfl
  case declared =>
    intro p
    have within : b.declaredBytes p ≤ ByteCount.largest :=
      Nat.le_trans (Nat.le_add_right _ _) (below p)
    exact (b.get_declared p).trans (Nat.min_eq_left within)
  case maxScratch => exact b.get_maxScratch
  case headroom =>
    intro p
    have required : b.needs.required.get p = b.neededBytes p :=
      (b.get_required p).trans (Nat.min_eq_left (below p))
    rw [Plan.headroom, required]
    exact Nat.add_sub_of_le (fits p)
  case size =>
    rw [Plan.size, Table.size, demands, List.length_map, steps, List.length_append]
  case demand =>
    intro step mem
    rw [Plan.demand?, Table.get?, demands]
    exact Table.lookup_of_mem differ (List.mem_map.mpr ⟨step, mem, rfl⟩)
  case unknown =>
    intro name absent
    rw [Plan.demand?, Table.get?, demands, Table.lookup_eq_none_iff, names]
    exact absent

/-- **A blueprint is planned exactly if it passes every check**, its exact needs among them. The
plan holds the exact numbers, and a refusal is that of the first check that fails. -/
theorem plan_accepts_exactly (b : Blueprint σ) :
    ((∃ plan, b.plan = .ok plan) ↔ ∀ c ∈ checks, b.Passes c) ∧
      (∀ plan, b.plan = .ok plan → plan.Exact b) ∧
      ∀ fault, b.plan = .error fault ↔ ∃ c, b.FirstFailing c ∧ b.Reports c fault := by
  rcases b.plan_cases with ⟨planned, passes⟩ | ⟨c, fault, first, reports, refused⟩
  · have none : ¬ ∃ c, b.FirstFailing c := by
      rintro ⟨c, passed, rest, parts, -, fails⟩
      exact fails (passes c (parts ▸ List.mem_append_right _ List.mem_cons_self))
    refine ⟨⟨fun _ => passes, fun _ => ⟨_, planned⟩⟩, fun plan same => ?_, fun fault => ?_⟩
    · cases planned.symm.trans same
      exact needs_exact passes
    · constructor
      · intro refused
        cases planned.symm.trans refused
      · rintro ⟨c, first, -⟩
        exact absurd ⟨c, first⟩ none
  · refine ⟨⟨?_, fun passes => ?_⟩, fun plan planned => ?_, fun other => ?_⟩
    · rintro ⟨plan, planned⟩
      cases planned.symm.trans refused
    · obtain ⟨passed, rest, parts, -, fails⟩ := first
      exact absurd (passes c (parts ▸ List.mem_append_right _ List.mem_cons_self)) fails
    · cases planned.symm.trans refused
    · rw [refused]
      constructor
      · intro same
        cases same
        exact ⟨c, first, reports⟩
      · rintro ⟨d, firstOther, reportsOther⟩
        cases first.eq firstOther
        rw [reports.eq reportsOther]

end Blueprint

end TensorArena
