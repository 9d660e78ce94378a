/-!
The bytes behind an arena.

A buffer has a fixed size. A view is a copy of a range of it, and writing puts bytes over
a range; neither reaches past the end of the buffer, and writing never changes its size.
-/

namespace TensorArena

/-- The content of a byte range. -/
abbrev Bytes := List UInt8

/-- `new` over the front of `old`, in the size of `old`. -/
def Bytes.overlay (new old : Bytes) : Bytes := new.take old.length ++ old.drop new.length

theorem Bytes.overlay_of_length_eq {new old : Bytes} (same : new.length = old.length) :
    Bytes.overlay new old = new := by
  rw [overlay, ← same, List.take_length, same, List.drop_length, List.append_nil]

/-- A fixed number of bytes. -/
abbrev Buffer := Array UInt8

namespace Buffer

/-- A buffer of `size` zero bytes. -/
def zeroed (size : Nat) : Buffer := Array.replicate size 0

/-- The `length` bytes from `start`. -/
def view (b : Buffer) (start length : Nat) : Bytes :=
  (b.extract start (start + length)).toList

/-- The buffer with `bytes` written from `start` on. -/
def write (b : Buffer) (start : Nat) : Bytes → Buffer
  | [] => b
  | x :: rest => write (b.setIfInBounds start x) (start + 1) rest

/-! ### The bytes as a list -/

/-- A view is a stretch of the buffer's bytes. -/
theorem view_eq (b : Buffer) (start length : Nat) :
    b.view start length = (b.toList.drop start).take length := by
  simp [view, Array.toList_extract, List.extract_eq_take_drop]

@[simp] theorem size_write (b : Buffer) (start : Nat) (bytes : Bytes) :
    (b.write start bytes).size = b.size := by
  induction bytes generalizing b start with
  | nil => rfl
  | cons x rest ih => simp [write, ih]

/-- Writing within the buffer replaces the bytes of the range and no others. -/
theorem toList_write (b : Buffer) (start : Nat) (bytes : Bytes)
    (h : start + bytes.length ≤ b.size) :
    (b.write start bytes).toList =
      b.toList.take start ++ bytes ++ b.toList.drop (start + bytes.length) := by
  induction bytes generalizing b start with
  | nil => simp [write]
  | cons x rest ih =>
    have hs : start < b.toList.length := by
      simp only [List.length_cons, Array.length_toList] at h ⊢
      omega
    have hle : start + 1 + rest.length ≤ (Array.setIfInBounds b start x).size := by
      simp only [List.length_cons, Array.size_setIfInBounds] at h ⊢
      omega
    rw [write, ih _ _ hle, Array.toList_setIfInBounds, List.length_cons,
      List.drop_set_of_lt (by omega), List.take_succ_eq_append_getElem (by simpa using hs),
      List.take_set_of_le (Nat.le_refl _)]
    simp [Nat.add_assoc, Nat.add_comm 1]

/-- A view within the buffer has the length that was asked for. -/
theorem length_view {b : Buffer} {start length : Nat} (within : start + length ≤ b.size) :
    (b.view start length).length = length := by
  rw [view_eq, List.length_take, List.length_drop, Array.length_toList]
  omega

/-- Writing does not show below the place where it starts. -/
theorem view_write_of_le {b : Buffer} {start length place : Nat} {bytes : Bytes}
    (below : start + length ≤ place) : (b.write place bytes).view start length =
      b.view start length := by
  induction bytes generalizing b place with
  | nil => rfl
  | cons x rest ih =>
    rw [write, ih (Nat.le_succ_of_le below), view_eq, view_eq, Array.toList_setIfInBounds,
      List.take_drop, List.take_drop, List.take_set_of_le below]

/-- Writing does not show above the place where it ends. -/
theorem view_write_of_ge {b : Buffer} {start length place : Nat} {bytes : Bytes}
    (above : place + bytes.length ≤ start) : (b.write place bytes).view start length =
      b.view start length := by
  induction bytes generalizing b place with
  | nil => rfl
  | cons x rest ih =>
    rw [List.length_cons] at above
    rw [write, ih (by omega), view_eq, view_eq, Array.toList_setIfInBounds,
      List.drop_set_of_lt (by omega)]

/-- A view that is written over shows the new bytes, as far as they fit. -/
theorem view_write_self {b : Buffer} {start length : Nat} (bytes : Bytes)
    (within : start + length ≤ b.size) :
    (b.write start (bytes.take length)).view start length =
      Bytes.overlay bytes (b.view start length) := by
  have fits : start + (bytes.take length).length ≤ b.size := by
    rw [List.length_take]
    omega
  have before : (b.toList.take start).length = start := by
    rw [List.length_take, Array.length_toList]
    omega
  rw [Bytes.overlay, length_view within, view_eq, toList_write b start _ fits, view_eq,
    List.append_assoc, List.drop_left' before, List.take_append, List.take_take, Nat.min_self,
    List.drop_take, List.drop_drop, List.length_take]
  rcases Nat.le_total bytes.length length with fit | long
  · rw [Nat.min_eq_right fit]
  · rw [Nat.min_eq_left long, Nat.sub_self, Nat.sub_eq_zero_of_le long, List.take_zero,
      List.take_zero]

end Buffer

end TensorArena
