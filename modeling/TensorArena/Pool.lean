/-!
The two memory pools and quantities kept once per pool.

Payload bytes and bookkeeping records never share capacity, so every byte count,
capacity and mark of this library comes in pairs: one for the metadata pool and one
for the ram pool. Wherever both pools are checked, metadata is checked first.
-/

namespace TensorArena

/-- Where bytes come from: `metadata` holds small bookkeeping records, `ram` holds
tensor payloads. -/
inductive Pool where
  | metadata
  | ram
deriving DecidableEq, Repr

/-- Both pools in the order in which they are checked. -/
def Pool.all : List Pool := [.metadata, .ram]

theorem Pool.mem_all (p : Pool) : p ∈ Pool.all := by
  cases p <;> simp [Pool.all]

/-- The short name used in messages. -/
def Pool.name : Pool → String
  | .metadata => "metadata"
  | .ram => "ram"

/-- One value for each pool. -/
structure PerPool (α : Type) where
  metadata : α
  ram : α
deriving DecidableEq, Repr

namespace PerPool

variable {α β γ : Type}

/-- The value kept for `p`. -/
def get (v : PerPool α) : Pool → α
  | .metadata => v.metadata
  | .ram => v.ram

/-- The pair with `p`'s value replaced and the other pool's kept. -/
def set (v : PerPool α) (p : Pool) (x : α) : PerPool α :=
  match p with
  | .metadata => { v with metadata := x }
  | .ram => { v with ram := x }

/-- Apply `f` to both values. -/
def map (f : α → β) (v : PerPool α) : PerPool β :=
  ⟨f v.metadata, f v.ram⟩

/-- Combine two pairs pool by pool. -/
def zipWith (f : α → β → γ) (v : PerPool α) (w : PerPool β) : PerPool γ :=
  ⟨f v.metadata w.metadata, f v.ram w.ram⟩

@[ext] theorem ext_get {v w : PerPool α} (h : ∀ p, v.get p = w.get p) : v = w := by
  have hm := h .metadata
  have hr := h .ram
  cases v
  cases w
  simp_all [get]

@[simp] theorem get_set_self (v : PerPool α) (p : Pool) (x : α) : (v.set p x).get p = x := by
  cases p <;> rfl

theorem get_set_of_ne (v : PerPool α) {p q : Pool} (x : α) (h : q ≠ p) :
    (v.set p x).get q = v.get q := by
  cases p <;> cases q <;> first | rfl | exact absurd rfl h

@[simp] theorem get_map (f : α → β) (v : PerPool α) (p : Pool) : (v.map f).get p = f (v.get p) := by
  cases p <;> rfl

@[simp] theorem get_zipWith (f : α → β → γ) (v : PerPool α) (w : PerPool β) (p : Pool) :
    (v.zipWith f w).get p = f (v.get p) (w.get p) := by
  cases p <;> rfl

end PerPool

end TensorArena
