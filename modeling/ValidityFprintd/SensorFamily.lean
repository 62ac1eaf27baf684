import ValidityFprintd.BestRow

/-! The sensors that probing supports: two families, each with one geometry and one capture
program, and factory values of any length. -/

namespace ValidityFprintd.Sensor
open Effect Timeslot

def config199 (values : Bytes) (data : Option Bytes) : SensorConfig :=
  { typeInfo :=
      { repeatMultiplier := 2
        linesPerCalibrationData := 112
        lineWidth := 112
        calibrationBlob := calibrationBlob199 }
    captureProg := blobs199.flatten
    linesPerFrame := 224
    bytesPerLine := 0x78
    keyCalibrationLine := 0x38
    calibrationFrames := 3
    factoryCalibrationValues := values
    factoryCalibData := data
    lineUpdateType1 := true }

def configDb (values : Bytes) (data : Option Bytes) : SensorConfig :=
  { typeInfo :=
      { repeatMultiplier := 1
        linesPerCalibrationData := 144
        lineWidth := 144
        calibrationBlob := calibrationBlobDb }
    captureProg := blobsDb.flatten
    linesPerFrame := 144
    bytesPerLine := 0x98
    keyCalibrationLine := 0x48
    calibrationFrames := 6
    factoryCalibrationValues := values
    factoryCalibData := data
    lineUpdateType1 := false }

/-- The configurations of the supported families. -/
inductive Supported : SensorConfig → Prop
  | type1 (values : Bytes) (data : Option Bytes) : Supported (config199 values data)
  | type2 (values : Bytes) (data : Option Bytes) : Supported (configDb values data)

theorem familyConstants_eq_ok {name : String} {sensorType : UInt32}
    {constants : UInt32 × UInt32 × UInt32} (h : familyConstants name sensorType = .ok constants) :
    sensorType = 0x199 ∧ constants = (0x38, 3, 3) ∨
      sensorType = 0xdb ∧ constants = (0x48, 6, 0) := by
  unfold familyConstants at h
  split at h
  · exact .inl ⟨‹_›, (Outcome.ok.inj h).symm⟩
  · split at h
    · exact .inr ⟨‹_›, (Outcome.ok.inj h).symm⟩
    · cases h

theorem captureProg_eq_some {rom : RomInfo} {sensorType a0 a1 : UInt32} {prog : Bytes}
    (h : captureProg rom sensorType a0 a1 = some prog) :
    ∃ row ∈ captureProgTable, applies rom sensorType a0 a1 row = true ∧
      prog = row.blobs.flatten := by
  rw [captureProg_eq_from, captureProgFrom_eq] at h
  obtain ⟨row, used, rfl⟩ := Option.map_eq_some_iff.mp h
  obtain ⟨before, after, rows, fits, -, -⟩ := rowUsed_eq_some_iff.mp used
  have mem : row ∈ captureProgTable := rows ▸ List.mem_append_right before List.mem_cons_self
  exact ⟨row, mem, applies_iff.mpr fits, rfl⟩

theorem captureProg_199 {rom : RomInfo} {prog : Bytes}
    (h : captureProg rom 0x199 progA0 progA1 = some prog) : prog = blobs199.flatten := by
  obtain ⟨row, mem, fits, rfl⟩ := captureProg_eq_some h
  rcases List.mem_pair.mp mem with rfl | rfl
  · rfl
  · simp [applies, wildcard] at fits

theorem captureProg_db {rom : RomInfo} {prog : Bytes}
    (h : captureProg rom 0xdb progA0 progA1 = some prog) : prog = blobsDb.flatten := by
  obtain ⟨row, mem, fits, rfl⟩ := captureProg_eq_some h
  rcases List.mem_pair.mp mem with rfl | rfl
  · simp [applies, wildcard] at fits
  · rfl

theorem lines2D_199 : lines2D blobs199.flatten = .ok 0x70 := by decide +kernel

theorem lines2D_db : lines2D blobsDb.flatten = .ok 0x90 := by decide +kernel

/-- An entry as the sensor sends it: only the length and the subtag of its header are read. -/
def encodeEntry (entry : UInt16 × Bytes) : Bytes :=
  Bytes.le32 0 ++ Bytes.le16 (Bytes.len16 entry.2) ++ Bytes.le16 0 ++ Bytes.le16 entry.1 ++
    Bytes.le16 0 ++ entry.2

theorem factoryEntries_entry {n : Nat} {entry : UInt16 × Bytes} {rest : Bytes}
    {out : FactoryBits} (fits : entry.2.length < 65536) :
    factoryEntries (n + 1) (encodeEntry entry ++ rest) out =
      factoryEntries n rest (entry :: out) := by
  obtain ⟨subtag, value⟩ := entry
  have size : (encodeEntry (subtag, value) ++ rest).length = 12 + value.length + rest.length := by
    simp only [encodeEntry, List.length_append, Bytes.le16_length, Bytes.le32_length]
  have length : (Bytes.rd16 (encodeEntry (subtag, value) ++ rest) 4 : Outcome String UInt16) =
      .ok (Bytes.len16 value) :=
    Bytes.rd16_at (Bytes.le32 0)
      (Bytes.le16 0 ++ (Bytes.le16 subtag ++ (Bytes.le16 0 ++ (value ++ rest))))
      (by simp only [encodeEntry, List.append_assoc]) rfl
  have tag : (Bytes.rd16 (encodeEntry (subtag, value) ++ rest) 8 : Outcome String UInt16) =
      .ok subtag :=
    Bytes.rd16_at (Bytes.le32 0 ++ Bytes.le16 (Bytes.len16 value) ++ Bytes.le16 0)
      (Bytes.le16 0 ++ (value ++ rest)) (by simp only [encodeEntry, List.append_assoc]) rfl
  have header : (encodeEntry (subtag, value) ++ rest).drop 12 = value ++ rest := by
    simp only [encodeEntry, List.append_assoc]
    rfl
  have body : Bytes.range? (value ++ rest) 0 value.length = some value :=
    Bytes.range?_at [] rest rfl rfl (Nat.zero_add _).symm
  rw [factoryEntries, Outcome.bailIf, if_neg (by omega), Outcome.ok_bind, length, Outcome.ok_bind,
    tag, Outcome.ok_bind, Checked.sliceFrom_eq (by omega), Outcome.ok_bind, header,
    Bytes.len16_toNat (b := value) fits, body, Outcome.ofOption, Outcome.ok_bind,
    Checked.sliceFrom_eq (by rw [List.length_append]; exact Nat.le_add_right _ _), Outcome.ok_bind,
    List.drop_left]

theorem factoryEntries_encoded {entries : List (UInt16 × Bytes)} {rest : Bytes}
    {out : FactoryBits} (fits : ∀ entry ∈ entries, entry.2.length < 65536) :
    factoryEntries entries.length (entries.flatMap encodeEntry ++ rest) out =
      .ok (entries.reverse ++ out) := by
  induction entries generalizing out with
  | nil => rfl
  | cons entry entries ih =>
    rw [List.flatMap_cons, List.append_assoc, List.length_cons,
      factoryEntries_entry (fits entry List.mem_cons_self),
      ih fun e mem => fits e (List.mem_cons_of_mem _ mem), List.reverse_cons, List.append_assoc]
    rfl

theorem parseFactoryBits_encoded {entries : List (UInt16 × Bytes)} {rest : Bytes}
    (fits : ∀ entry ∈ entries, entry.2.length < 65536) (few : entries.length < 2 ^ 32) :
    parseFactoryBits (Bytes.le32 0 ++ Bytes.le32 (UInt32.ofNat entries.length) ++
      (entries.flatMap encodeEntry ++ rest)) = .ok entries.reverse := by
  have count : (Bytes.rd32 (Bytes.le32 0 ++ Bytes.le32 (UInt32.ofNat entries.length) ++
      (entries.flatMap encodeEntry ++ rest)) 4 : Outcome String UInt32) =
      .ok (UInt32.ofNat entries.length) := Bytes.rd32_at (Bytes.le32 0) _ rfl rfl
  have size : 8 ≤ (Bytes.le32 0 ++ Bytes.le32 (UInt32.ofNat entries.length) ++
      (entries.flatMap encodeEntry ++ rest)).length := by
    simp only [List.length_append, Bytes.le32_length]
    omega
  have number : (UInt32.ofNat entries.length).toNat = entries.length := by
    rw [UInt32.toNat_ofNat', Nat.mod_eq_of_lt few]
  rw [parseFactoryBits, Outcome.bailIf, if_neg (by omega), Outcome.ok_bind, count,
    Outcome.ok_bind, Checked.sliceFrom_eq size, Outcome.ok_bind, number]
  exact (factoryEntries_encoded fits).trans (by rw [List.append_nil])

variable {S : Type} {w : Usb.World S} {devices : List DeviceInfo} {s t : S} {p : Probed}

/-- Probing gives a configuration of one of the two families. -/
theorem probe_supported (probed : Yields (probe w devices) s p t) :
    Supported p.toSensorConfig := by
  obtain ⟨⟨name, sensorType⟩, _, _, probed⟩ := Yields.bind_iff.mp probed
  obtain ⟨⟨keyLine, frames, iterations⟩, _, ⟨family, _⟩, probed⟩ := Yields.bind_iff.mp probed
  obtain ⟨typeInfo, _, ⟨geometry, _⟩, probed⟩ := Yields.bind_iff.mp probed
  obtain ⟨rom, _, _, probed⟩ := Yields.bind_iff.mp probed
  obtain ⟨_, _, _, probed⟩ := Yields.bind_iff.mp probed
  obtain ⟨prog, _, ⟨chosen, _⟩, probed⟩ := Yields.bind_iff.mp probed
  obtain ⟨lines, _, ⟨framed, _⟩, probed⟩ := Yields.bind_iff.mp probed
  obtain ⟨bits, _, _, probed⟩ := Yields.bind_iff.mp probed
  obtain ⟨values, _, _, probed⟩ := Yields.bind_iff.mp probed
  obtain ⟨rfl, rfl⟩ := Yields.ret_iff.mp probed
  replace geometry := Outcome.ofOption_eq_ok.mp geometry
  replace chosen := Outcome.ofOption_eq_ok.mp chosen
  obtain ⟨rfl, constants⟩ | ⟨rfl, constants⟩ := familyConstants_eq_ok family
  · cases constants
    cases geometry
    obtain rfl := captureProg_199 chosen
    obtain rfl := Outcome.ok.inj (framed.symm.trans lines2D_199)
    exact .type1 _ _
  · cases constants
    cases geometry
    obtain rfl := captureProg_db chosen
    obtain rfl := Outcome.ok.inj (framed.symm.trans lines2D_db)
    exact .type2 _ _

section Seen

def devices71 : List DeviceInfo :=
  [⟨0x0071, 0x00db, 0x01, 0xff, "VSI 55E  FM72-001"⟩,
   ⟨0x0071, 0x00db, 0x02, 0xff, "VSI 55E  FM72-002"⟩,
   ⟨0x0071, 0x00db, 0x03, 0xff, "VSI 55E  FM72-003"⟩,
   ⟨0x0071, 0x00db, 0x04, 0xff, "VSI 55E  FM72-004"⟩,
   ⟨0x0071, 0x00db, 0x05, 0xff, "VSI 55E  FM160-001"⟩,
   ⟨0x0071, 0x00db, 0x06, 0xff, "VSI 55E  FM160-002"⟩,
   ⟨0x0071, 0x00db, 0x07, 0xff, "VSI 55E  FM187-001"⟩,
   ⟨0x0071, 0x00db, 0x08, 0xff, "VSI 55E  FM187-002"⟩,
   ⟨0x0071, 0x00db, 0x09, 0xff, "VSI 55E  FM187-003"⟩,
   ⟨0x0071, 0x00db, 0x0a, 0xff, "VSI 55E  FM160-003"⟩,
   ⟨0x0071, 0x04c3, 0x0b, 0xff, "VSI 55E  FM191-001"⟩,
   ⟨0x0071, 0x00db, 0x0c, 0xff, "VSI 55E  FM187-004"⟩,
   ⟨0x0071, 0x00db, 0x0d, 0xff, "VSI 55E  FM209-001"⟩,
   ⟨0x0071, 0x00db, 0x0e, 0xff, "VSI 55E  FM209-002"⟩,
   ⟨0x0071, 0x00db, 0x0f, 0xff, "VSI 55E  FM3292-001"⟩]

def rom6 : RomInfo := ⟨0, 0, 6, 0, 0x30, 0⟩

def sensor71 (entries : List (UInt16 × Bytes)) : Usb.World Unit := fun q s =>
  match q with
  | .cmd (0x75 :: _) => (.ok [0, 0, 0, 0, 0, 0, 0x01, 0, 0x71, 0], s)
  | .cmd (0x01 :: _) => (.ok [0, 0, 0, 0, 0, 0, 0, 0, 0, 0, 6, 0, 0, 0x30, 0, 0, 0, 0], s)
  | .cmd (0x6f :: _) =>
    (.ok ([0, 0] ++ (Bytes.le32 0 ++ Bytes.le32 (UInt32.ofNat entries.length) ++
      (entries.flatMap encodeEntry ++ []))), s)
  | .cmd _ => (.error "no such command", s)
  | .pollInterrupt => (.ok none, s)
  | .readData => (.ok [], s)
  | .now => (0, s)
  | .current => (0, s)
  | .onStage _ _ => ((), s)

theorem probe_sensor71 {entries : List (UInt16 × Bytes)} {values : Bytes}
    (fits : ∀ entry ∈ entries, entry.2.length < 65536) (few : entries.length < 2 ^ 32)
    (read : FactoryBits.value? entries.reverse 3 = some values) :
    Yields (probe (sensor71 entries) devices71) ()
      { toSensorConfig :=
          configDb (values.drop 4) ((FactoryBits.value? entries.reverse 7).map (List.drop 4))
        deviceName := "VSI 55E  FM72-001"
        sensorType := 0xdb
        rom := rom6
        calibrationIterations := 0 } () := by
  have status : Usb.checkStatus ([0, 0] ++ (Bytes.le32 0 ++
      Bytes.le32 (UInt32.ofNat entries.length) ++ (entries.flatMap encodeEntry ++ []))) = .ok () :=
    rfl
  have identified : Yields (identifySensor (sensor71 entries) devices71) ()
      ("VSI 55E  FM72-001", 0xdb) () :=
    Yields.bind_iff.mpr ⟨_, (), Usb.request_yields.mpr ⟨rfl, rfl⟩,
      Yields.bind_iff.mpr ⟨_, (), ⟨rfl, rfl⟩, ⟨by decide, rfl⟩⟩⟩
  have roms : Yields (romInfo (sensor71 entries)) () rom6 () :=
    Yields.bind_iff.mpr ⟨_, (), Usb.request_yields.mpr ⟨rfl, rfl⟩,
      Yields.bind_iff.mpr ⟨_, (), ⟨rfl, rfl⟩, ⟨by decide, rfl⟩⟩⟩
  have bits : Yields (getFactoryBits (sensor71 entries) factoryTagCalibration) ()
      entries.reverse () :=
    Yields.bind_iff.mpr ⟨_, (), Usb.request_yields.mpr ⟨rfl, status⟩,
      Yields.bind_iff.mpr ⟨_, (), ⟨rfl, rfl⟩, ⟨parseFactoryBits_encoded fits few, rfl⟩⟩⟩
  have prog : captureProg rom6 0xdb progA0 progA1 = some blobsDb.flatten := by decide +kernel
  refine Yields.bind_iff.mpr ⟨_, (), identified, ?_⟩
  refine Yields.bind_iff.mpr ⟨(0x48, 6, 0), (), ⟨rfl, rfl⟩, ?_⟩
  refine Yields.bind_iff.mpr ⟨_, (), ⟨rfl, rfl⟩, ?_⟩
  refine Yields.bind_iff.mpr ⟨rom6, (), roms, ?_⟩
  refine Yields.bind_iff.mpr ⟨(), (), ⟨rfl, rfl⟩, ?_⟩
  refine Yields.bind_iff.mpr ⟨blobsDb.flatten, (), Yields.ofOutcome_iff.mpr ⟨?_, rfl⟩, ?_⟩
  · exact Outcome.ofOption_eq_ok.mpr prog
  refine Yields.bind_iff.mpr ⟨_, (), ⟨lines2D_db, rfl⟩, ?_⟩
  refine Yields.bind_iff.mpr ⟨_, (), bits, ?_⟩
  refine Yields.bind_iff.mpr ⟨values, (), Yields.ofOutcome_iff.mpr ⟨?_, rfl⟩, ?_⟩
  · exact Outcome.ofOption_eq_ok.mpr read
  · exact ⟨rfl, rfl⟩

end Seen

end ValidityFprintd.Sensor
