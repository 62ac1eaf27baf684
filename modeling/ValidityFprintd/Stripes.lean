import ValidityFprintd.CaptureLengths
import ValidityFprintd.Lines

/-! The calibration data that is sent: a table of lines cut into stripes of four columns. -/

namespace ValidityFprintd.Calibration
open Effect Timeslot

section Columns

variable {calibData : Bytes} {bpcl j k n : Nat}

theorem column_getElem? {p : Nat} (inside : p + 4 ≤ calibData.length) (hn : n < 4) :
    (Bytes.padTo 4 ((Bytes.range? calibData p (p + 4)).getD []))[n]? = calibData[p + n]? := by
  have read : Bytes.range? calibData p (p + 4) = some ((calibData.take (p + 4)).drop p) :=
    if_pos ⟨Nat.le_add_right p 4, inside⟩
  have four : 4 ≤ ((calibData.take (p + 4)).drop p).length := by
    rw [List.length_drop, List.length_take]
    omega
  rw [read, Option.getD_some, Bytes.padTo_of_le four, List.getElem?_drop,
    List.getElem?_take_of_lt (by omega)]

theorem stripes_getElem? (inside : 8 + j * bpcl + 4 * k + 4 ≤ calibData.length) (hj : j < 112)
    (hk : k < 28) (hn : n < 4) :
    ((stripes calibData bpcl).flatMap Line.data)[k * 448 + (j * 4 + n)]? =
      calibData[8 + j * bpcl + 4 * k + n]? := by
  have cell : ∀ k j : Nat, (Bytes.padTo 4
      ((Bytes.range? calibData (8 + j * bpcl + 4 * k) (8 + j * bpcl + 4 * k + 4)).getD [])).length =
        4 := fun _ _ => column_length calibData _
  have stripe : ∀ k : Nat, ((List.range 112).flatMap fun j => Bytes.padTo 4
      ((Bytes.range? calibData (8 + j * bpcl + 4 * k) (8 + j * bpcl + 4 * k + 4)).getD [])).length =
        448 := fun k => (Bytes.table_length (cell k) _).trans rfl
  have data : (stripes calibData bpcl).flatMap Line.data = (List.range 28).flatMap fun k =>
      (List.range 112).flatMap fun j => Bytes.padTo 4
        ((Bytes.range? calibData (8 + j * bpcl + 4 * k) (8 + j * bpcl + 4 * k + 4)).getD []) := by
    rw [stripes, List.flatMap_map]
  rw [data, Bytes.rows_getElem? (fun k _ => stripe k) hk (by omega),
    Bytes.rows_getElem? (fun j _ => cell k j) hj hn, column_getElem? inside hn]

theorem stripes_flags_at (hk : k < 28) :
    ∃ l, (stripes calibData bpcl)[k]? = some l ∧
      l.flags = UInt32.ofNat (4 * k) ||| 0x85000000 := by
  rw [stripes, List.getElem?_map, List.getElem?_range hk]
  exact ⟨_, rfl, rfl⟩

end Columns

/-- A line update that carries 112 lines of 112 columns, each behind eight bytes of its own. -/
structure Transposed (calibData lineUpdate : Bytes) : Prop where
  count : Bytes.rd32 (ε := String) lineUpdate 0 = .ok 30
  length : lineUpdate.length = 4 + 8 * 30 + 28 * 448
  pixel : ∀ j < 112, ∀ c < 112, ∃ x, calibData[120 * j + 8 + c]? = some x ∧
    lineUpdate[4 + 8 * 30 + (c / 4 * 448 + 4 * j + c % 4)]? = some x
  flags : ∀ c < 112, Bytes.rd32 (ε := String) lineUpdate (4 + 8 * (2 + c / 4) + 4) =
    .ok (0x85000000 ||| UInt32.ofNat (c - c % 4))

theorem exists_row_column {p : Nat} (inside : p < 28 * 448) :
    ∃ j < 112, ∃ c < 112, p = c / 4 * 448 + 4 * j + c % 4 :=
  ⟨p % 448 / 4, by omega, 4 * (p / 448) + p % 4, by omega, by omega⟩

/-- The stripes of whole calibration data, behind the heads of two entries and their own. -/
theorem transposed_stripes {calibData : Bytes} (size : calibData.length = 112 * 120)
    (blob trims : Line) :
    Transposed calibData (lineHeads (blob :: trims :: stripes calibData 120) ++
      (stripes calibData 120).flatMap Line.data) := by
  have thirty : (blob :: trims :: stripes calibData 120).length = 30 := by
    simp [stripes]
  have heads := lineHeads_length (blob :: trims :: stripes calibData 120)
  rw [thirty] at heads
  have data : ((stripes calibData 120).flatMap Line.data).length = 28 * 448 := by
    rw [List.length_flatMap, List.map_congr_left stripe_length, List.map_const', stripes,
      List.length_map, List.length_range]
    decide
  refine ⟨?_, ?_, fun j hj c hc => ?_, fun c hc => ?_⟩
  · refine Bytes.rd32_at [] (((blob :: trims :: stripes calibData 120).flatMap fun l =>
      Bytes.le32 l.mask ++ Bytes.le32 l.flags) ++ (stripes calibData 120).flatMap Line.data) ?_ rfl
    rw [lineHeads, thirty, List.nil_append, List.append_assoc]
    rfl
  · rw [List.length_append, heads, data]
  · have inside : 120 * j + 8 + c < calibData.length := by omega
    have row : ((stripes calibData 120).flatMap Line.data)[c / 4 * 448 + (j * 4 + c % 4)]? =
        calibData[8 + j * 120 + 4 * (c / 4) + c % 4]? :=
      stripes_getElem? (by omega) hj (by omega) (Nat.mod_lt c (by decide))
    refine ⟨_, List.getElem?_eq_getElem inside, ?_⟩
    rw [List.getElem?_append_right (by omega), heads, Nat.add_sub_cancel_left,
      show c / 4 * 448 + 4 * j + c % 4 = c / 4 * 448 + (j * 4 + c % 4) by omega, row,
      ← List.getElem?_eq_getElem inside]
    congr 1
    omega
  · obtain ⟨l, there, flags⟩ : ∃ l, (stripes calibData 120)[c / 4]? = some l ∧
        l.flags = UInt32.ofNat (4 * (c / 4)) ||| 0x85000000 := stripes_flags_at (by omega)
    have entry : (blob :: trims :: stripes calibData 120)[2 + c / 4]? = some l := by
      rw [Nat.add_comm]
      exact there
    have column : 4 * (c / 4) = c - c % 4 := by omega
    rw [show 4 + 8 * (2 + c / 4) + 4 = 8 + 8 * (2 + c / 4) by omega, rd32_flags entry, flags,
      column, UInt32.or_comm]

section Sent

variable {calib : Calibration} {mode : CaptureMode} {cfg : SensorConfig}
  {program out : List Chunk}

/-- Of 112 lines of 120 bytes, every byte that is not of a line's head is sent once, in the stripe
of its column. -/
theorem lineUpdateType1_stripes (lines : cfg.typeInfo.linesPerCalibrationData = 112)
    (size : calib.calibData.length = 112 * 120)
    (update : lineUpdateType1 calib mode program cfg = .ok out) :
    ∃ before lineUpdate transform,
      out = before ++ [⟨chunkLineUpdate, lineUpdate⟩, ⟨chunkLineUpdateTransform, transform⟩] ∧
      Transposed calib.calibData lineUpdate ∧
      ∀ p < 28 * 448, ∃ j < 112, ∃ c < 112, p = c / 4 * 448 + 4 * j + c % 4 := by
  obtain ⟨before, pc, pc', pixels, striped, rfl⟩ := lineUpdateType1_tables update
  refine ⟨before, _, _, rfl, ?_, fun p inside => exists_row_column inside⟩
  obtain ⟨empty, _⟩ | rfl := striped
  · rw [empty] at size
    cases size
  · have bpcl : calib.calibData.length / cfg.typeInfo.linesPerCalibrationData.toNat = 120 := by
      rw [size, lines]
      rfl
    rw [bpcl, List.map_cons, List.map_cons, stripes_pad]
    exact transposed_stripes size _ _

/-- A line update with calibration data that is not zeros. -/
theorem lineUpdateType1_stripes_filled :
    ∃ lineUpdate, Transposed (List.replicate (112 * 120) 7) lineUpdate := by
  obtain ⟨out, update⟩ : ∃ out, lineUpdateType1 ⟨List.replicate (112 * 120) 7⟩ .calibrate
      [⟨chunkTimeslotTable, tinyTable⟩]
      { tinyConfig with
        typeInfo := { tinyConfig.typeInfo with linesPerCalibrationData := 112 } } = .ok out :=
    ⟨_, rfl⟩
  obtain ⟨_, lineUpdate, _, _, transposed, _⟩ :=
    lineUpdateType1_stripes rfl List.length_replicate update
  exact ⟨lineUpdate, transposed⟩

end Sent

end ValidityFprintd.Calibration
