/-!
Tables: values under names, in the order in which the names first came.

Putting a value under a name that is there already replaces the value and keeps the
name's place.
-/

namespace TensorArena

/-- Values under names. -/
structure Table (α : Type) where
  entries : List (String × α)
deriving DecidableEq, Repr

namespace Table

variable {α : Type}

/-- No names. -/
def empty : Table α := ⟨[]⟩

/-- The value under the first entry with this name. -/
def lookup : List (String × α) → String → Option α
  | [], _ => none
  | (key, x) :: rest, name => if key = name then some x else lookup rest name

/-- The value under a name. -/
def get? (t : Table α) (name : String) : Option α := lookup t.entries name

/-- The name is there. -/
def contains (t : Table α) (name : String) : Bool := (t.get? name).isSome

/-- Replace the value of the first entry with this name, or add an entry at the end. -/
def put : List (String × α) → String → α → List (String × α)
  | [], name, x => [(name, x)]
  | (key, y) :: rest, name, x =>
    if key = name then (key, x) :: rest else (key, y) :: put rest name x

/-- The table with `x` under `name`. -/
def insert (t : Table α) (name : String) (x : α) : Table α := ⟨put t.entries name x⟩

/-- The table built by inserting entries in order. -/
def ofList (entries : List (String × α)) : Table α :=
  entries.foldl (fun t entry => t.insert entry.1 entry.2) empty

/-- The names in order. -/
def names (t : Table α) : List String := t.entries.map (·.1)

/-- The number of names. -/
def size (t : Table α) : Nat := t.entries.length

/-! ### What an insertion changes -/

theorem lookup_put (entries : List (String × α)) (name other : String) (x : α) :
    lookup (put entries name x) other = if name = other then some x else lookup entries other := by
  induction entries with
  | nil => simp [put, lookup]
  | cons entry rest ih =>
    obtain ⟨key, y⟩ := entry
    simp only [put]
    by_cases hk : key = name
    · subst hk
      by_cases ho : key = other <;> simp [lookup, ho]
    · by_cases ho : key = other
      · subst ho
        simp [lookup, hk, Ne.symm hk]
      · simp [lookup, hk, ho, ih]

/-- A new name comes last. -/
theorem put_of_lookup_eq_none {entries : List (String × α)} {name : String}
    (new : lookup entries name = none) (x : α) : put entries name x = entries ++ [(name, x)] := by
  induction entries with
  | nil => rfl
  | cons entry rest ih =>
    obtain ⟨key, y⟩ := entry
    simp only [lookup] at new
    split at new
    · cases new
    · rename_i other
      simp [put, other, ih new]

theorem mem_of_lookup {entries : List (String × α)} {name : String} {x : α}
    (found : lookup entries name = some x) : (name, x) ∈ entries := by
  induction entries with
  | nil => cases found
  | cons entry rest ih =>
    obtain ⟨key, y⟩ := entry
    simp only [lookup] at found
    split at found
    · rename_i here
      cases found
      exact here ▸ List.mem_cons_self
    · exact List.mem_cons_of_mem _ (ih found)

/-- A name holds what was last put under it, and other names keep their values. -/
theorem get?_insert (t : Table α) (name other : String) (x : α) :
    (t.insert name x).get? other = if name = other then some x else t.get? other :=
  lookup_put t.entries name other x

end Table

end TensorArena
