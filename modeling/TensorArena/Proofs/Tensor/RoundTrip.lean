import Mathlib.Tactic.NormNum
import TensorArena.Proofs.Tensor.Record

/-!
Descriptor records round-trip.

A descriptor of rank at most `maxRank` has a record, and the record is read back over whatever
buffer it was written. The other way round a record says more than its descriptor: the reserved
bytes and the dimensions past the rank are not looked at (`Record.Unused`). Written again, a
descriptor that was read has zeros there and every other byte as it was (`record_of_decode`), so the
record comes back exactly where those bytes were zero.
-/

namespace TensorArena.Tensor

/-- The codes of element types are the numbers from one to five. -/
theorem ElementType.ofCode?_eq_none_iff {code : UInt8} :
    ofCode? code = none ↔ ¬ (1 ≤ code.toNat ∧ code.toNat ≤ 5) := by
  unfold ofCode?
  split
  case h_6 =>
    rename_i not1 not2 not3 not4 not5
    simp only [← UInt8.toNat_inj, UInt8.reduceToNat, imp_false] at not1 not2 not3 not4 not5
    simp only [true_iff]
    omega
  all_goals simp

theorem ElementType.code_of_ofCode? {code : UInt8} {t : ElementType}
    (known : ofCode? code = some t) : t.code = code := by
  unfold ofCode? at known
  split at known <;> cases known <;> rfl

namespace Record

/-- A word that was read has the bytes that it was read from. -/
theorem wordBytes_wordAt (bytes : List UInt8) (pos : Nat) :
    wordBytes (wordAt bytes pos) = (List.range 4).map fun i => bytes.getD (pos + i) 0 := by
  have digit (i : Nat) : (bytes.getD (pos + i) 0).toNat < 256 := UInt8.toNat_lt _
  have := digit 0
  have := digit 1
  have := digit 2
  have := digit 3
  have value : (wordAt bytes pos).toNat = (bytes.getD (pos + 0) 0).toNat +
      256 * (bytes.getD (pos + 1) 0).toNat + 65536 * (bytes.getD (pos + 2) 0).toNat +
        16777216 * (bytes.getD (pos + 3) 0).toNat := by
    apply UInt32.toNat_ofNat_of_lt'
    simp only [UInt32.size]
    omega
  have low : ∀ n (b : UInt8), n % 256 = b.toNat → UInt8.ofNat n = b := by
    intro n b same
    apply UInt8.toNat_inj.mp
    rw [UInt8.toNat_ofNat']
    exact same
  simp only [wordBytes, value, List.range, List.range.loop, List.map_cons, List.map_nil]
  rw [low _ (bytes.getD (pos + 0) 0), low _ (bytes.getD (pos + 1) 0),
    low _ (bytes.getD (pos + 2) 0), low _ (bytes.getD (pos + 3) 0)] <;> omega

/-- The bytes of a word are its digits to the base 256, lowest first. -/
theorem toNat_getD_of_wordAt {bytes : List UInt8} {pos : Nat} {w : UInt32}
    (read : wordAt bytes pos = w) {k : Nat} (within : k < 4) :
    (bytes.getD (pos + k) 0).toNat = w.toNat / 256 ^ k % 256 := by
  have digits : (wordBytes w)[k]? = some (bytes.getD (pos + k) 0) := by
    rw [← read, wordBytes_wordAt, List.getElem?_map, List.getElem?_range within, Option.map_some]
  match k, within with
  | 0, _ | 1, _ | 2, _ | 3, _ =>
    rw [← Option.some.inj digits, UInt8.toNat_ofNat']
    norm_num

/-- Words that were read one after the other have the bytes that they were read from. -/
theorem flatMap_wordBytes_wordAt (bytes : List UInt8) (pos n : Nat) :
    ((List.range n).map fun k => wordAt bytes (pos + 4 * k)).flatMap wordBytes =
      (List.range (4 * n)).map fun i => bytes.getD (pos + i) 0 := by
  induction n with
  | zero => rfl
  | succ n ih =>
    rw [List.range_succ, List.map_append, List.flatMap_append, ih, Nat.mul_succ, List.range_add,
      List.map_append, List.map_singleton, List.flatMap_singleton, wordBytes_wordAt, List.map_map]
    simp only [Function.comp_def, Nat.add_assoc]

/-- Dimensions that a shape does not have are zeros. -/
theorem flatMap_wordBytes_zero (n : Nat) :
    (List.replicate n (0 : UInt32)).flatMap wordBytes = List.replicate (4 * n) 0 := by
  induction n with
  | zero => rfl
  | succ n ih =>
    rw [List.replicate_succ, List.flatMap_cons, ih, Nat.mul_succ, Nat.add_comm,
      ← List.replicate_append_replicate]
    rfl

/-! ### Bytes that no field uses -/

/-- No field of a descriptor of this rank lies at byte `i` of its record: the byte is reserved, or
it is of a dimension that the shape does not have. -/
def Unused (rank i : Nat) : Prop := i = 2 ∨ i = 3 ∨ 4 + 4 * rank ≤ i ∧ i < 4 + 4 * maxRank

instance (rank i : Nat) : Decidable (Unused rank i) :=
  inferInstanceAs (Decidable (_ ∨ _ ∨ _ ∧ _))

/-- The bytes of a record with zeros where no field lies. -/
def cleared (rank : Nat) (bytes : List UInt8) : List UInt8 :=
  (List.range size).map fun i => if Unused rank i then 0 else bytes.getD i 0

variable {rank : Nat} {bytes : List UInt8}

/-- A cleared record, field by field. -/
theorem cleared_eq (fits : rank ≤ maxRank) : cleared rank bytes =
    [bytes.getD 0 0, bytes.getD 1 0, 0, 0] ++
      (List.range (4 * rank)).map (fun i => bytes.getD (4 + i) 0) ++
      List.replicate (4 * (maxRank - rank)) 0 ++
      (List.range 4).map (fun i => bytes.getD (4 + 4 * maxRank + i) 0) := by
  have parts : size = 4 + 4 * rank + 4 * (maxRank - rank) + 4 := by
    simp only [size, maxRank] at fits ⊢
    omega
  have offset : 4 + 4 * rank + 4 * (maxRank - rank) = 4 + 4 * maxRank := by omega
  have head : ∀ i, i < 2 → ¬ Unused rank i := by
    intro i small
    unfold Unused
    omega
  rw [cleared, parts, List.range_add, List.range_add, List.range_add, List.map_append,
    List.map_append, List.map_append, List.map_map, List.map_map, List.map_map, offset]
  congr 1
  · congr 1
    · congr 1
      · simp only [List.range, List.range.loop, List.map_cons, List.map_nil, head 0 (by decide),
          head 1 (by decide), if_false, if_pos (show Unused rank 2 from .inl rfl),
          if_pos (show Unused rank 3 from .inr (.inl rfl))]
      · apply List.map_congr_left
        intro i mem
        have within := List.mem_range.mp mem
        refine if_neg (show ¬ Unused rank (4 + i) from ?_)
        unfold Unused
        omega
    · rw [List.eq_replicate_iff]
      refine ⟨by rw [List.length_map, List.length_range], ?_⟩
      intro b mem
      obtain ⟨i, within, rfl⟩ := List.mem_map.mp mem
      have := List.mem_range.mp within
      refine if_pos (show Unused rank (4 + 4 * rank + i) from ?_)
      unfold Unused
      omega
  · apply List.map_congr_left
    intro i _
    refine if_neg (show ¬ Unused rank (4 + 4 * maxRank + i) from ?_)
    unfold Unused
    simp only [maxRank] at fits ⊢
    omega

/-- The front of a buffer that is long enough, byte by byte. -/
theorem take_eq_map_getD {n : Nat} (long : n ≤ bytes.length) :
    bytes.take n = (List.range n).map fun i => bytes.getD i 0 := by
  apply List.ext_getElem
  · rw [List.length_take, List.length_map, List.length_range]
    omega
  · intro i inTake _
    rw [List.length_take] at inTake
    rw [List.getElem_take, List.getElem_map, List.getElem_range, List.getD_eq_getElem?_getD,
      List.getElem?_eq_getElem (by omega), Option.getD_some]

/-- Clearing changes nothing where there were zeros already. -/
theorem cleared_eq_take_iff (long : size ≤ bytes.length) :
    cleared rank bytes = bytes.take size ↔ ∀ i, Unused rank i → bytes.getD i 0 = 0 := by
  have within : ∀ i, Unused rank i → i ∈ List.range size := by
    intro i unused
    rw [List.mem_range]
    simp only [Unused, maxRank] at unused
    simp only [size, maxRank]
    omega
  rw [take_eq_map_getD long, cleared, List.map_inj_left]
  constructor
  · intro same i unused
    have here := same i (within i unused)
    rw [if_pos unused] at here
    exact here.symm
  · intro zeros i _
    split
    · rename_i unused
      exact (zeros i unused).symm
    · rfl

end Record

namespace Descriptor

variable {d e : Descriptor} {buffer : List UInt8}

/-! ### Writing -/

theorem encodeInto_of_fits (fits : d.shape.length ≤ maxRank)
    (long : Record.size ≤ buffer.length) :
    d.encodeInto buffer = (.ok (), d.record ++ buffer.drop Record.size) := by
  simp only [encodeInto, Nat.not_lt.mpr fits, Nat.not_lt.mpr long, if_false]

/-- Writing is refused for a rank that does not fit or a buffer that is too short, and then the
buffer stays as it was. -/
theorem encodeInto_of_not_fits
    (unfit : ¬ (d.shape.length ≤ maxRank ∧ Record.size ≤ buffer.length)) :
    ∃ fault, d.encodeInto buffer = (.error fault, buffer) := by
  unfold encodeInto
  split
  · exact ⟨_, rfl⟩
  · rename_i fits
    have short : buffer.length < Record.size := by
      apply Nat.lt_of_not_le
      intro long
      exact unfit ⟨Nat.le_of_not_lt fits, long⟩
    rw [if_pos short]
    exact ⟨_, rfl⟩

theorem encodeInto_ok_iff : (d.encodeInto buffer).1 = .ok () ↔
    d.shape.length ≤ maxRank ∧ Record.size ≤ buffer.length := by
  constructor
  · intro done
    by_contra unfit
    obtain ⟨fault, refused⟩ := encodeInto_of_not_fits unfit
    rw [refused] at done
    cases done
  · rintro ⟨fits, long⟩
    rw [encodeInto_of_fits fits long]

/-- The record stands at the front of the buffer. -/
theorem take_record (fits : d.shape.length ≤ maxRank) (rest : List UInt8) :
    (d.record ++ rest).take Record.size = d.record :=
  List.take_left' (length_record fits)

/-- Records tell their descriptors apart. -/
theorem record_injective (fits : d.shape.length ≤ maxRank) (others : e.shape.length ≤ maxRank)
    (same : d.record = e.record) : d = e := by
  have read : decode (d.record ++ []) = .ok d := decode_record fits []
  have other : decode (e.record ++ []) = .ok e := decode_record others []
  rw [same] at read
  exact Except.ok.inj (read.symm.trans other)

/-! ### Reading -/

/-- What is read of a buffer. -/
theorem decode_ok_iff : decode buffer = .ok d ↔
    Record.size ≤ buffer.length ∧ ElementType.ofCode? (buffer.getD 0 0) = some d.dtype ∧
      (buffer.getD 1 0).toNat ≤ maxRank ∧
      d.shape = ((List.range (buffer.getD 1 0).toNat).map fun i =>
        Record.wordAt buffer (4 + 4 * i)) ∧
      d.offset = Record.wordAt buffer (4 + 4 * maxRank) := by
  unfold decode
  split
  · rename_i short
    simp [Nat.not_le.mpr short]
  · rename_i long
    cases known : ElementType.ofCode? (buffer.getD 0 0) with
    | none => simp
    | some dtype =>
      dsimp only
      split
      · rename_i large
        have never : ¬ (buffer.getD 1 0).toNat ≤ maxRank := Nat.not_le.mpr large
        simp only [reduceCtorEq, never, false_and, and_false]
      · rename_i fits
        simp only [Nat.le_of_not_lt long, Nat.le_of_not_lt fits, true_and, Except.ok.injEq,
          Option.some.injEq]
        constructor
        · rintro rfl
          exact ⟨rfl, rfl, rfl⟩
        · rintro ⟨type, shape, offset⟩
          cases d
          simp_all

/-- The rank that was read. -/
theorem rank_of_decode (read : decode buffer = .ok d) :
    d.shape.length = (buffer.getD 1 0).toNat ∧ d.shape.length ≤ maxRank := by
  obtain ⟨-, -, fits, shape, -⟩ := decode_ok_iff.mp read
  have rank : d.shape.length = (buffer.getD 1 0).toNat := by
    rw [shape, List.length_map, List.length_range]
  exact ⟨rank, rank ▸ fits⟩

/-- **The record of a descriptor that was read** has the bytes that were read, and zeros where no
field lies. -/
theorem record_of_decode (read : decode buffer = .ok d) :
    d.record = Record.cleared d.shape.length buffer := by
  obtain ⟨-, known, -, shape, offset⟩ := decode_ok_iff.mp read
  obtain ⟨rank, fits⟩ := rank_of_decode read
  have second : d.shape.length.toUInt8 = buffer.getD 1 0 := by
    rw [rank]
    exact UInt8.ofNat_toNat
  have dimensions : d.shape.flatMap Record.wordBytes =
      (List.range (4 * d.shape.length)).map fun i => buffer.getD (4 + i) 0 := by
    rw [rank, ← Record.flatMap_wordBytes_wordAt, ← shape]
  rw [Record.cleared_eq fits, record, Record.dimensionFields, List.flatMap_append, dimensions,
    Record.flatMap_wordBytes_zero, offset, Record.wordBytes_wordAt, second,
    ElementType.code_of_ofCode? known]
  simp only [List.append_assoc]

/-- The first check that fails is answered: length, then element type, then rank. -/
theorem decode_error_of_unknown (long : Record.size ≤ buffer.length)
    (unknown : ¬ (1 ≤ (buffer.getD 0 0).toNat ∧ (buffer.getD 0 0).toNat ≤ 5)) :
    decode buffer = .error (.unknownElementType (buffer.getD 0 0)) := by
  have none := ElementType.ofCode?_eq_none_iff.mpr unknown
  simp only [decode, Nat.not_lt.mpr long, none, if_false]

theorem decode_error_of_rank {t : ElementType} (long : Record.size ≤ buffer.length)
    (known : ElementType.ofCode? (buffer.getD 0 0) = some t)
    (large : maxRank < (buffer.getD 1 0).toNat) :
    decode buffer = .error (.rankTooLarge (buffer.getD 1 0).toNat) := by
  simp only [decode, Nat.not_lt.mpr long, known, large, if_false, if_true]

/-- Some element type has the code, where none is ruled out. -/
theorem exists_ofCode? {code : UInt8} (known : 1 ≤ code.toNat ∧ code.toNat ≤ 5) :
    ∃ t, ElementType.ofCode? code = some t := by
  apply Option.ne_none_iff_exists'.mp
  intro none
  exact ElementType.ofCode?_eq_none_iff.mp none known

/-- A buffer is read where it is long enough and its first two bytes are a code and a rank. -/
theorem exists_decode_iff : (∃ d, decode buffer = .ok d) ↔
    Record.size ≤ buffer.length ∧
      (1 ≤ (buffer.getD 0 0).toNat ∧ (buffer.getD 0 0).toNat ≤ 5) ∧
      (buffer.getD 1 0).toNat ≤ maxRank := by
  constructor
  · rintro ⟨d, read⟩
    obtain ⟨long, known, fits, -⟩ := decode_ok_iff.mp read
    refine ⟨long, ?_, fits⟩
    by_contra unknown
    rw [ElementType.ofCode?_eq_none_iff.mpr unknown] at known
    cases known
  · rintro ⟨long, known, fits⟩
    obtain ⟨t, code⟩ := exists_ofCode? known
    exact ⟨⟨t, _, _⟩, decode_ok_iff.mpr ⟨long, code, fits, rfl, rfl⟩⟩

/-! ### There and back -/

/-- What becomes of a buffer over which `d` is written. -/
structure Writes (d : Descriptor) (buffer : List UInt8) : Prop where
  succeeds_iff : (d.encodeInto buffer).1 = .ok () ↔
    d.shape.length ≤ maxRank ∧ Record.size ≤ buffer.length
  refused : ∀ fault, (d.encodeInto buffer).1 = .error fault → (d.encodeInto buffer).2 = buffer
  /-- Nothing is changed past the record, and the record is the same whatever it was written
  over. -/
  beyond : (d.encodeInto buffer).2.length = buffer.length ∧
    (d.encodeInto buffer).2.drop Record.size = buffer.drop Record.size
  regardless : ∀ other, (d.encodeInto buffer).1 = .ok () → (d.encodeInto other).1 = .ok () →
    (d.encodeInto other).2.take Record.size = (d.encodeInto buffer).2.take Record.size
  readBack : (d.encodeInto buffer).1 = .ok () → decode (d.encodeInto buffer).2 = .ok d
  /-- Dimensions stand behind the first four bytes, and the offset behind as many as there can be,
  lowest byte first. -/
  words : (d.encodeInto buffer).1 = .ok () → ∀ k < 4,
    (∀ i (within : i < d.shape.length),
      ((d.encodeInto buffer).2.getD (4 + 4 * i + k) 0).toNat =
        d.shape[i].toNat / 256 ^ k % 256) ∧
    ((d.encodeInto buffer).2.getD (4 + 4 * maxRank + k) 0).toNat =
      d.offset.toNat / 256 ^ k % 256

/-- What is read of a buffer, and what becomes of it when it is written again. -/
structure Reads (buffer : List UInt8) : Prop where
  succeeds_iff : (∃ d, decode buffer = .ok d) ↔
    Record.size ≤ buffer.length ∧
      (1 ≤ (buffer.getD 0 0).toNat ∧ (buffer.getD 0 0).toNat ≤ 5) ∧
      (buffer.getD 1 0).toNat ≤ maxRank
  short : buffer.length < Record.size →
    decode buffer = .error (.bufferTooSmall Record.size buffer.length)
  unknown : Record.size ≤ buffer.length →
    ¬ (1 ≤ (buffer.getD 0 0).toNat ∧ (buffer.getD 0 0).toNat ≤ 5) →
    decode buffer = .error (.unknownElementType (buffer.getD 0 0))
  large : Record.size ≤ buffer.length →
    1 ≤ (buffer.getD 0 0).toNat ∧ (buffer.getD 0 0).toNat ≤ 5 →
    maxRank < (buffer.getD 1 0).toNat →
    decode buffer = .error (.rankTooLarge (buffer.getD 1 0).toNat)
  /-- What was read can be written over any buffer that is long enough, and is read from there. The
  record comes back as it was where the bytes that no field uses were zero. -/
  rewritten : ∀ d, decode buffer = .ok d → ∀ target, Record.size ≤ target.length →
    (d.encodeInto target).1 = .ok () ∧ decode (d.encodeInto target).2 = decode buffer ∧
      ((d.encodeInto target).2.take Record.size = buffer.take Record.size ↔
        ∀ i, Record.Unused (buffer.getD 1 0).toNat i → buffer.getD i 0 = 0)

theorem writes (d : Descriptor) (buffer : List UInt8) : d.Writes buffer := by
  by_cases fits : d.shape.length ≤ maxRank ∧ Record.size ≤ buffer.length
  · obtain ⟨rank, long⟩ := fits
    have done := encodeInto_of_fits rank long
    refine ⟨encodeInto_ok_iff, by simp [done], ?_, ?_, ?_, ?_⟩
    · rw [done, List.drop_left' (length_record rank), List.length_append, length_record rank,
        List.length_drop]
      exact ⟨Nat.add_sub_cancel' long, rfl⟩
    · intro other _ also
      rw [done, encodeInto_of_fits rank (encodeInto_ok_iff.mp also).2, take_record rank,
        take_record rank]
    · intro _
      rw [done]
      exact decode_record rank _
    · intro _ k digit
      rw [done]
      refine ⟨?_, Record.toNat_getD_of_wordAt (wordAt_record_offset rank _) digit⟩
      intro i within
      exact Record.toNat_getD_of_wordAt (wordAt_record rank _ within) digit
  · obtain ⟨fault, done⟩ := encodeInto_of_not_fits fits
    have refused : (d.encodeInto buffer).1 ≠ .ok () := mt encodeInto_ok_iff.mp fits
    have same : (d.encodeInto buffer).2 = buffer := by rw [done]
    exact ⟨encodeInto_ok_iff, fun _ _ => same, ⟨by rw [same], by rw [same]⟩,
      fun _ done => absurd done refused, fun done => absurd done refused,
      fun done => absurd done refused⟩

theorem reads (buffer : List UInt8) : Reads buffer where
  succeeds_iff := exists_decode_iff
  short less := by simp only [decode, less, if_true]
  unknown := decode_error_of_unknown
  large long known large := by
    obtain ⟨t, code⟩ := exists_ofCode? known
    exact decode_error_of_rank long code large
  rewritten d read target long := by
    obtain ⟨rank, fits⟩ := rank_of_decode read
    have done := encodeInto_of_fits fits long
    refine ⟨congrArg Prod.fst done, ?_, ?_⟩
    · rw [done, read]
      exact decode_record fits _
    · rw [done, take_record fits, record_of_decode read,
        Record.cleared_eq_take_iff (decode_ok_iff.mp read).1, rank]

/-- **Descriptor records round-trip.** Whatever buffer a descriptor is written over, it is written
where its rank and the buffer allow it, changes the record only, and is read back. Whatever bytes
are read, the first check that fails is answered, and what was read is read again from wherever it
is written, in the bytes from which it came if these were zero where no field lies. Two descriptors
never have the same record. -/
theorem records_round_trip :
    (∀ (d : Descriptor) (buffer : List UInt8), d.Writes buffer) ∧
      (∀ buffer : List UInt8, Reads buffer) ∧
      ∀ (d e : Descriptor) (buffer other : List UInt8),
        (d.encodeInto buffer).1 = .ok () → (e.encodeInto other).1 = .ok () →
        (d.encodeInto buffer).2.take Record.size = (e.encodeInto other).2.take Record.size →
        d = e := by
  refine ⟨writes, reads, ?_⟩
  intro d e buffer other written also same
  obtain ⟨fits, long⟩ := encodeInto_ok_iff.mp written
  obtain ⟨others, alsoLong⟩ := encodeInto_ok_iff.mp also
  rw [encodeInto_of_fits fits long, encodeInto_of_fits others alsoLong, take_record fits,
    take_record others] at same
  exact record_injective fits others same

/-! A record with other bytes than zeros where no field lies, at the front of a longer buffer. -/

namespace Untidy

def bytes : List UInt8 :=
  [4, 1, 7, 9, 3, 0, 0, 0] ++ List.replicate 12 255 ++ [16, 1, 0, 0, 170, 171]

def found : Descriptor := ⟨.i32, [3], 272⟩

end Untidy

open Untidy in
/-- The record is read, and comes back with other bytes. -/
theorem records_round_trip_untidy :
    decode bytes = .ok found ∧ (found.encodeInto bytes).1 = .ok () ∧
      decode (found.encodeInto bytes).2 = .ok found ∧
      (found.encodeInto bytes).2.drop Record.size = [170, 171] ∧
      (found.encodeInto bytes).2.take Record.size ≠ bytes.take Record.size := by
  have read : decode bytes = .ok found := rfl
  obtain ⟨written, readings, -⟩ := records_round_trip
  obtain ⟨done, again, same⟩ := (readings bytes).rewritten found read bytes (by decide)
  refine ⟨read, done, again.trans read, (written found bytes).beyond.2, ?_⟩
  intro back
  exact absurd (same.mp back 2 (.inl rfl)) (by decide)

end Descriptor

end TensorArena.Tensor
