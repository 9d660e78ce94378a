import TensorArena.Tensor.Record

/-!
Descriptor records are read back.

A record has twenty-four bytes, and reading it, with whatever follows it, gives the descriptor
that was written. The words of a record stand one after the other, so each is read at its place
(`Record.wordAt_flatMap`).
-/

namespace TensorArena.Tensor

namespace Record

theorem length_wordBytes (w : UInt32) : (wordBytes w).length = 4 := rfl

theorem length_flatMap_wordBytes (words : List UInt32) :
    (words.flatMap wordBytes).length = 4 * words.length := by
  induction words with
  | nil => rfl
  | cons w rest ih =>
    rw [List.flatMap_cons, List.length_append, ih, length_wordBytes, List.length_cons]
    omega

/-- What stands after `before` is read there. -/
theorem wordAt_append (before bytes : List UInt8) (pos : Nat) :
    wordAt (before ++ bytes) (before.length + pos) = wordAt bytes pos := by
  have shifted : ∀ i,
      (before ++ bytes).getD (before.length + pos + i) 0 = bytes.getD (pos + i) 0 := by
    intro i
    rw [List.getD_eq_getElem?_getD, List.getD_eq_getElem?_getD,
      List.getElem?_append_right (by omega)]
    congr 2
    omega
  simp only [wordAt, shifted]

/-- Words that stand one after the other are read at multiples of four. -/
theorem wordAt_flatMap (words : List UInt32) (rest : List UInt8) {i : Nat}
    (within : i < words.length) :
    wordAt (words.flatMap wordBytes ++ rest) (4 * i) = words[i] := by
  induction words generalizing i with
  | nil => cases within
  | cons w later ih =>
    rw [List.flatMap_cons, List.append_assoc]
    cases i with
    | zero => exact wordAt_wordBytes w _
    | succ i =>
      have place : 4 * (i + 1) = (wordBytes w).length + 4 * i := by
        rw [length_wordBytes]
        omega
      rw [place, wordAt_append, List.getElem_cons_succ]
      exact ih (by simpa using within)

theorem length_dimensionFields {shape : Shape} (fits : shape.length ≤ maxRank) :
    (dimensionFields shape).length = maxRank := by
  rw [dimensionFields, List.length_append, List.length_replicate]
  omega

end Record

namespace Descriptor

variable {d : Descriptor}

/-- A record has the size of a record. -/
theorem length_record (fits : d.shape.length ≤ maxRank) : d.record.length = Record.size := by
  simp only [record, List.length_append, Record.length_flatMap_wordBytes,
    Record.length_dimensionFields fits, Record.length_wordBytes]
  rfl

/-- A dimension is read at its place. -/
theorem wordAt_record (fits : d.shape.length ≤ maxRank) (rest : List UInt8) {i : Nat}
    (within : i < d.shape.length) :
    Record.wordAt (d.record ++ rest) (4 + 4 * i) = d.shape[i] := by
  have inFields : i < (Record.dimensionFields d.shape).length := by
    rw [Record.length_dimensionFields fits]
    omega
  rw [record, List.append_assoc, List.append_assoc]
  refine (Record.wordAt_append [d.dtype.code, d.shape.length.toUInt8, 0, 0] _ (4 * i)).trans ?_
  rw [Record.wordAt_flatMap _ _ inFields]
  exact List.getElem_append_left within

/-- The offset is read behind the dimensions. -/
theorem wordAt_record_offset (fits : d.shape.length ≤ maxRank) (rest : List UInt8) :
    Record.wordAt (d.record ++ rest) (4 + 4 * maxRank) = d.offset := by
  have place : ([d.dtype.code, d.shape.length.toUInt8, 0, 0] ++
      (Record.dimensionFields d.shape).flatMap Record.wordBytes).length = 4 + 4 * maxRank := by
    rw [List.length_append, Record.length_flatMap_wordBytes, Record.length_dimensionFields fits]
    rfl
  rw [record, List.append_assoc, ← place]
  exact (Record.wordAt_append _ _ 0).trans (Record.wordAt_wordBytes d.offset rest)

/-- **Reading a record** gives its descriptor, whatever follows the record. -/
theorem decode_record (fits : d.shape.length ≤ maxRank) (rest : List UInt8) :
    decode (d.record ++ rest) = .ok d := by
  have long : ¬ (d.record ++ rest).length < Record.size := by
    rw [List.length_append, length_record fits]
    omega
  have code : (d.record ++ rest).getD 0 0 = d.dtype.code := rfl
  have rank : ((d.record ++ rest).getD 1 0).toNat = d.shape.length := by
    show d.shape.length.toUInt8.toNat = d.shape.length
    simp only [maxRank] at fits
    simp
    omega
  have dimensions : (List.range d.shape.length).map
      (fun i => Record.wordAt (d.record ++ rest) (4 + 4 * i)) = d.shape := by
    refine List.ext_getElem (by simp) fun i within inShape => ?_
    rw [List.getElem_map, List.getElem_range, wordAt_record fits rest inShape]
  simp only [decode, long, code, rank, ElementType.ofCode?_code, Nat.not_lt.mpr fits, dimensions,
    wordAt_record_offset fits, if_false]

end Descriptor

end TensorArena.Tensor
