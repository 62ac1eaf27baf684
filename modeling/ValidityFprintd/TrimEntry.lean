import ValidityFprintd.Bitpack

/-! The entry of the factory trims in the transform chunk, read as its header says: the low three
bits of its first byte are the width of a value less one, the second is the bias. -/

namespace ValidityFprintd.Calibration
open Effect Timeslot BitStream

/-- The width of a value that an entry's first byte announces. -/
def announced (v0 : UInt8) : Nat := (v0 &&& 7).toNat + 1

/-- An entry's data is the packed values and no more than padding, and every value can be read
back at the width that is announced. -/
structure TrimsRead (values : Bytes) (v0 v1 : UInt8) (data : Bytes) : Prop where
  packed : ∃ packed zeros, data = packed ++ List.replicate zeros 0 ∧
    packed.length = (announced v0 * values.length + 7) / 8 ∧ data.length = dwords packed.length
  values : ∀ j v, values[j]? = some v →
    field data (j * announced v0) (announced v0) + v1.toNat = v.toNat

/-- The transform chunk, the calibration blob's entry ahead: the second entry reads back. -/
def TrimsReadBack (cfg : SensorConfig) (out : List Chunk) : Prop :=
  ∃ v0 v1 v2 data, out.getLast? = some ⟨chunkLineUpdateTransform,
      ([0x0f, 0] ++ Bytes.le16 0 ++ padDword cfg.typeInfo.calibrationBlob) ++
        ([v0, v1] ++ Bytes.le16 v2 ++ data)⟩ ∧
    TrimsRead cfg.factoryCalibrationValues v0 v1 data

section Reading

variable {values : Bytes}

theorem padDword_eq (data : Bytes) : ∃ zeros, padDword data = data ++ List.replicate zeros 0 := by
  unfold padDword
  split
  · exact ⟨0, (List.append_nil data).symm⟩
  · exact ⟨_, rfl⟩

theorem announced_width : ∀ u : UInt8, u.toNat ≤ 8 → u ≠ 0 →
    announced ((u - 1) ||| 8) = u.toNat :=
  Bytes.forall_byte (by decide +kernel)

theorem trimsRead_of_spread {v v' : UInt8} (mem : v ∈ values) (mem' : v' ∈ values)
    (differ : v ≠ v') : TrimsRead values (((bitpack values).1 - 1) ||| 8) (bitpack values).2.1
      (padDword (bitpack values).2.2) := by
  have packs := bitpack_packs (List.ne_nil_of_mem mem)
  have wide : (bitpack values).1 ≠ 0 := by
    intro flat
    obtain ⟨top, high, narrow⟩ := packs.narrow
    have span := narrow.1
    rw [flat] at span
    have bound : top.toNat - (bitpack values).2.1.toNat < 1 := span
    have inside : ∀ x ∈ values, x.toNat = top.toNat := fun x mem => by
      have low := UInt8.le_iff_toNat_le.mp (packs.least.2 mem)
      have below := UInt8.le_iff_toNat_le.mp (high.2 mem)
      omega
    exact differ (UInt8.toNat_inj.mp ((inside v mem).trans (inside v' mem').symm))
  obtain ⟨zeros, padded⟩ := padDword_eq (bitpack values).2.2
  have width := announced_width _ packs.small wide
  refine ⟨⟨(bitpack values).2.2, zeros, padded, ?_, padDword_length _⟩, fun j x there => ?_⟩
  · rw [width]
    exact packs.length
  · rw [width, padded, field_append_zeros]
    exact packs.fields j x there

/-- Values that are all the same are announced as bytes, and none are sent. -/
theorem not_trimsRead_of_flat (nonempty : values ≠ [])
    (flat : ∀ v ∈ values, ∀ v' ∈ values, v = v') :
    ¬ TrimsRead values (((bitpack values).1 - 1) ||| 8) (bitpack values).2.1
      (padDword (bitpack values).2.2) := by
  intro read
  have packs := bitpack_packs nonempty
  have none : (bitpack values).1.toNat = 0 := by
    obtain ⟨top, high, narrow⟩ := packs.narrow
    obtain rfl := flat _ packs.least.1 _ high.1
    have span : (bitpack values).2.1.toNat - (bitpack values).2.1.toNat < 2 ^ 0 := by
      rw [Nat.sub_self]
      exact Nat.one_pos
    exact Nat.le_zero.mp (narrow.2 span)
  have empty : (bitpack values).2.2.length = 0 := by
    rw [packs.length, none, Nat.zero_mul]
  obtain ⟨packed, zeros, data, length, _⟩ := read.packed
  have nothing : padDword (bitpack values).2.2 = [] := by
    rw [List.length_eq_zero_iff.mp empty]
    rfl
  have some' := List.length_pos_of_ne_nil nonempty
  have width : announced (((bitpack values).1 - 1) ||| 8) = 8 := by
    rw [UInt8.toNat_inj.mp (show (bitpack values).1.toNat = (0 : UInt8).toNat from none)]
    rfl
  rw [nothing, List.nil_eq_append_iff] at data
  rw [data.1, width, List.length_nil] at length
  omega

end Reading

section Sent

variable {calib : Calibration} {mode : CaptureMode} {cfg : SensorConfig}
  {program out : List Chunk}

/-- What is read from the chunk that is sent is the entry made of the packed values. -/
theorem trimsReadBack_iff (update : lineUpdateType1 calib mode program cfg = .ok out) :
    TrimsReadBack cfg out ↔ TrimsRead cfg.factoryCalibrationValues
      (((bitpack cfg.factoryCalibrationValues).1 - 1) ||| 8)
      (bitpack cfg.factoryCalibrationValues).2.1
      (padDword (bitpack cfg.factoryCalibrationValues).2.2) := by
  obtain ⟨before, pc, pc', pixels, _, rfl⟩ := lineUpdateType1_tables update
  have last : ∀ (l : List Chunk) (x y : Chunk), (l ++ [x, y]).getLast? = some y := fun l x y => by
    rw [List.getLast?_append]
    rfl
  rw [TrimsReadBack, last]
  constructor
  · rintro ⟨v0, v1, v2, data, same, read⟩
    have rows := List.append_cancel_left (congrArg Chunk.body (Option.some.inj same))
    obtain ⟨rfl, rest⟩ := List.cons.inj rows
    obtain ⟨rfl, rest⟩ := List.cons.inj rest
    obtain ⟨_, rest⟩ := List.cons.inj rest
    obtain ⟨_, rest⟩ := List.cons.inj rest
    obtain rfl : (trimsEntry cfg pc').pad.data = data := (List.cons.inj rest).2
    exact read
  · exact fun read => ⟨_, _, 0, _, rfl, read⟩

/-- The factory trims are read back from the transform chunk unless they are all the same. -/
theorem lineUpdateType1_trims (nonempty : cfg.factoryCalibrationValues ≠ [])
    (update : lineUpdateType1 calib mode program cfg = .ok out) :
    TrimsReadBack cfg out ↔
      ∃ v ∈ cfg.factoryCalibrationValues, ∃ v' ∈ cfg.factoryCalibrationValues, v ≠ v' := by
  rw [trimsReadBack_iff update]
  constructor
  · intro read
    by_contra none
    refine not_trimsRead_of_flat nonempty (fun v mem v' mem' => ?_) read
    by_contra differ
    exact none ⟨v, mem, v', mem', differ⟩
  · rintro ⟨v, mem, v', mem', differ⟩
    exact trimsRead_of_spread mem mem' differ

/-- Two trims that differ, in one bit each. -/
theorem lineUpdateType1_trims_two : ∃ out,
    lineUpdateType1 ⟨[]⟩ .identify [⟨chunkTimeslotTable, tinyTable⟩] tinyConfig = .ok out ∧
      TrimsReadBack tinyConfig out := by
  obtain ⟨out, update⟩ : ∃ out, lineUpdateType1 ⟨[]⟩ .identify
      [⟨chunkTimeslotTable, tinyTable⟩] tinyConfig = .ok out := ⟨_, rfl⟩
  refine ⟨out, update, (lineUpdateType1_trims (by decide) update).mpr ?_⟩
  exact ⟨1, by decide, 3, by decide, by decide⟩

def flatConfig : SensorConfig := { tinyConfig with factoryCalibrationValues := [5, 5] }

/-- Two trims of the same value: eight bits each are announced, and no byte follows. -/
theorem lineUpdateType1_trims_flat : ∃ out,
    lineUpdateType1 ⟨[]⟩ .identify [⟨chunkTimeslotTable, tinyTable⟩] flatConfig = .ok out ∧
      ¬ TrimsReadBack flatConfig out := by
  obtain ⟨out, update⟩ : ∃ out, lineUpdateType1 ⟨[]⟩ .identify
      [⟨chunkTimeslotTable, tinyTable⟩] flatConfig = .ok out := ⟨_, rfl⟩
  have flat : ∀ v ∈ flatConfig.factoryCalibrationValues, v = 5 := by
    intro v mem
    simpa [flatConfig] using mem
  refine ⟨out, update, mt (trimsReadBack_iff update).mp ?_⟩
  exact not_trimsRead_of_flat (by decide) fun v mem v' mem' =>
    (flat v mem).trans (flat v' mem').symm

end Sent

end ValidityFprintd.Calibration
