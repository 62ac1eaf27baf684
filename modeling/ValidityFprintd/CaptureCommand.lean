import ValidityFprintd.CaptureLengths
import ValidityFprintd.SensorFamily

/-! The capture command read back: exactly where the factory values leave every chunk within
the 16-bit length that announces it. -/

namespace ValidityFprintd.Calibration
open Effect Timeslot

variable {calib : Calibration} {mode : CaptureMode} {cfg : SensorConfig} {cmd : Bytes}
  {program out : List Chunk}

/-- The chunks a command is built from, by the path for the sensor. -/
def lineUpdate (calib : Calibration) (mode : CaptureMode) (program : List Chunk)
    (cfg : SensorConfig) : Outcome String (List Chunk) :=
  if cfg.lineUpdateType1 then lineUpdateType1 calib mode program cfg
  else lineUpdateType2 mode program cfg

theorem buildCmd02_eq_ok (built : buildCmd02 calib mode cfg = .ok cmd) :
    ∃ program chunks, splitChunks cfg.captureProg = .ok program ∧
      lineUpdate calib mode program cfg = .ok chunks ∧ cmd.drop 5 = mergeChunks chunks := by
  obtain ⟨program, split, built⟩ := Outcome.bind_eq_ok.mp built
  obtain ⟨chunks, updated, built⟩ := Outcome.bind_eq_ok.mp built
  rw [← Outcome.ok.inj built]
  exact ⟨program, chunks, split, updated, rfl⟩

theorem modeChunks_fit {id4e id2e enr26 enr2e : Bytes} (first : id4e.length < 65536)
    (second : id2e.length < 65536) (third : enr26.length < 65536) (fourth : enr2e.length < 65536) :
    ∀ c ∈ modeChunks mode id4e id2e enr26 enr2e, c.body.length < 65536 := by
  cases mode with
  | calibrate => exact fun _ none => nomatch none
  | identify =>
    exact List.forall_mem_cons.mpr
      ⟨first, List.forall_mem_cons.mpr ⟨second, fun _ none => nomatch none⟩⟩
  | enroll =>
    exact List.forall_mem_cons.mpr
      ⟨third, List.forall_mem_cons.mpr ⟨fourth, fun _ none => nomatch none⟩⟩

/-- Of a type-1 update's chunks only the transform table can be too long. -/
theorem lineUpdateType1_fit (narrow : cfg.typeInfo.lineWidth.toNat < 65536)
    (fit : ∀ c ∈ program, c.body.length < 65536)
    (update : lineUpdateType1 calib mode program cfg = .ok out) :
    ∃ patched added, out = patched ++ added ∧ List.Forall₂ Kept program patched ∧
      ((∀ c ∈ out, c.body.length < 65536) ↔
        8 + dwords cfg.typeInfo.calibrationBlob.length +
          dwords (bitpack cfg.factoryCalibrationValues).2.2.length < 65536) := by
  obtain ⟨patched, tst, pc, size, pc', size', pixels, tables, found, found', striped, rfl⟩ :=
    lineUpdateType1_eq_ok update
  have placed : ∀ table body, placeKeyLine calib cfg table = .ok body →
      body.length ≤ max cfg.typeInfo.lineWidth.toNat table.length := by
    intro table body placed
    obtain ⟨key, got, placed⟩ := Outcome.bind_eq_ok.mp placed
    rw [← Outcome.ok.inj placed, List.length_append, getKeyLine_length got, List.length_drop]
    omega
  obtain ⟨bodies, _⟩ := patchTables_fit narrow placed fit (by decide) tables
  have moved := entries_moved cfg pc pc'
  have direct := lineUpdateBody_length moved rfl striped
  have transform := transformBody_length moved striped
  have modes : ∀ c ∈ modeChunks mode identify4e identify2e enroll26 enroll2e,
      c.body.length < 65536 := modeChunks_fit (by decide) (by decide) (by decide) (by decide)
  refine ⟨patched, _, rfl, patchTables_kept tables, ?_⟩
  rw [← transform]
  constructor
  · intro all
    refine all ⟨chunkLineUpdateTransform, _⟩ (List.mem_append_right _ (List.mem_append_right _ ?_))
    exact .tail _ (.tail _ (.head _))
  · intro short
    simp only [addedChunks, List.forall_mem_append, List.forall_mem_cons]
    exact ⟨bodies, ⟨⟨by decide, fun _ none => absurd none List.not_mem_nil⟩, modes⟩, by decide,
      direct, short, fun _ none => absurd none List.not_mem_nil⟩

/-- The chunks a type-2 line update adds to the program. -/
def addedInPlace (mode : CaptureMode) (lines : List Line) : List Chunk :=
  [⟨chunkReplyConfig, []⟩] ++ modeChunks mode t2Identify4e t2Identify2e t2Enroll26 t2Enroll2e ++
    [⟨chunkLineUpdate, lineHeads lines ++ lines.flatMap Line.data⟩]

theorem anchored_eq_ok {anchor : Option (Nat × Nat)} {data : Bytes} {l : Line}
    (h : anchored anchor data = .ok l) : l.data.length = dwords data.length := by
  obtain ⟨_, _, h⟩ := Outcome.bind_eq_ok.mp h
  rw [← Outcome.ok.inj h]
  exact padDword_length data

/-- A type-2 update's chunks, of which only the line update can be too long. -/
theorem lineUpdateType2_fit (fit : ∀ c ∈ program, c.body.length < 65536)
    (update : lineUpdateType2 mode program cfg = .ok out) :
    ∃ patched added data, out = patched ++ added ∧ List.Forall₂ Kept program patched ∧
      cfg.factoryCalibData = some data ∧
      ((∀ c ∈ out, c.body.length < 65536) ↔
        28 + dwords cfg.typeInfo.calibrationBlob.length + dwords data.length +
          dwords cfg.factoryCalibrationValues.length < 65536) := by
  obtain ⟨⟨patched, tst⟩, tables, update⟩ := Outcome.bind_eq_ok.mp update
  obtain ⟨_, _, update⟩ := Outcome.bind_eq_ok.mp update
  obtain ⟨data, reported, update⟩ := Outcome.bind_eq_ok.mp update
  obtain ⟨enableRx, _, update⟩ := Outcome.bind_eq_ok.mp update
  obtain ⟨alt, _, update⟩ := Outcome.bind_eq_ok.mp update
  obtain ⟨write, _, update⟩ := Outcome.bind_eq_ok.mp update
  obtain ⟨blob, first, update⟩ := Outcome.bind_eq_ok.mp update
  obtain ⟨factory, second, update⟩ := Outcome.bind_eq_ok.mp update
  obtain ⟨trims, third, update⟩ := Outcome.bind_eq_ok.mp update
  obtain ⟨bodies, _⟩ := patchTables_fit (show 0 < 65536 by decide) (fun table body same => by
    rw [← Outcome.ok.inj same]
    exact Nat.le_max_right _ _) fit (by decide) tables
  have modes : ∀ c ∈ modeChunks mode t2Identify4e t2Identify2e t2Enroll26 t2Enroll2e,
      c.body.length < 65536 := modeChunks_fit (by decide) (by decide) (by decide) (by decide)
  have body : (lineHeads [blob, factory, trims] ++
      [blob, factory, trims].flatMap Line.data).length =
      28 + dwords cfg.typeInfo.calibrationBlob.length + dwords data.length +
        dwords cfg.factoryCalibrationValues.length := by
    simp only [List.length_append, lineHeads_length, List.flatMap_cons, List.flatMap_nil,
      List.append_nil, anchored_eq_ok first, anchored_eq_ok second, anchored_eq_ok third,
      List.length_cons, List.length_nil]
    omega
  have whole : out = patched ++ addedInPlace mode [blob, factory, trims] := by
    rw [← Outcome.ok.inj update]
    simp only [addedInPlace, List.append_assoc]
  refine ⟨patched, _, data, whole, patchTables_kept tables, Outcome.ofOption_eq_ok.mp reported, ?_⟩
  rw [← body, whole]
  constructor
  · intro all
    exact all ⟨chunkLineUpdate, _⟩
      (List.mem_append_right _ (List.mem_append_right _ List.mem_cons_self))
  · intro short
    simp only [addedInPlace, List.forall_mem_append, List.forall_mem_cons]
    exact ⟨bodies, ⟨⟨by decide, fun _ none => nomatch none⟩, modes⟩, short,
      fun _ none => nomatch none⟩

/-- The command reads back as the chunks it was built from, with those of the program as they
were but for its timeslot tables. -/
def ReadsBack (calib : Calibration) (mode : CaptureMode) (cfg : SensorConfig) (cmd : Bytes) :
    Prop :=
  ∃ program patched added, splitChunks cfg.captureProg = .ok program ∧
    lineUpdate calib mode program cfg = .ok (patched ++ added) ∧
    List.Forall₂ Kept program patched ∧ splitChunks (cmd.drop 5) = .ok (patched ++ added)

/-- The packed trims of a type-1 sensor, or both factory values of a type-2 one, leave the chunk
they are sent in within 65535 bytes. -/
def LengthsFit (cfg : SensorConfig) : Prop :=
  if cfg.lineUpdateType1 then
    (spreadBits cfg.factoryCalibrationValues * cfg.factoryCalibrationValues.length + 7) / 8 ≤ 65412
  else
    dwords (cfg.factoryCalibData.getD []).length + dwords cfg.factoryCalibrationValues.length ≤
      65360

theorem lengthsFit_db {values data : Bytes} :
    LengthsFit (Sensor.configDb values (some data)) ↔
      dwords data.length + dwords values.length ≤ 65360 := Iff.rfl

theorem readsBack_iff (family : Sensor.Supported cfg)
    (built : buildCmd02 calib mode cfg = .ok cmd) :
    ReadsBack calib mode cfg cmd ↔ LengthsFit cfg := by
  obtain ⟨program, chunks, split, updated, tail⟩ := buildCmd02_eq_ok built
  have fit := splitChunks_fit split
  suffices counted : ∃ patched added, chunks = patched ++ added ∧
      List.Forall₂ Kept program patched ∧
      ((∀ c ∈ chunks, c.body.length < 65536) ↔ LengthsFit cfg) by
    obtain ⟨patched, added, rfl, kept, short⟩ := counted
    rw [← short, ← splitChunks_mergeChunks, ← tail]
    constructor
    · rintro ⟨program', patched', added', split', updated', _, whole⟩
      cases split.symm.trans split'
      rw [Outcome.ok.inj (updated.symm.trans updated')]
      exact whole
    · exact fun whole => ⟨program, patched, added, split, updated, kept, whole⟩
  cases family with
  | type1 values data =>
    have blob : dwords Sensor.calibrationBlob199.length = 112 := by decide +kernel
    have narrow : (Sensor.config199 values data).typeInfo.lineWidth.toNat < 65536 :=
      show 112 < 65536 by decide
    obtain ⟨patched, added, same, kept, short⟩ := lineUpdateType1_fit narrow fit updated
    refine ⟨patched, added, same, kept, short.trans ?_⟩
    change 8 + dwords Sensor.calibrationBlob199.length + dwords (bitpack values).2.2.length <
      65536 ↔ (spreadBits values * values.length + 7) / 8 ≤ 65412
    rw [bitpack_length, blob, dwords]
    omega
  | type2 values data =>
    have blob : dwords Sensor.calibrationBlobDb.length = 144 := by decide +kernel
    obtain ⟨patched, added, data, same, kept, rfl, short⟩ := lineUpdateType2_fit fit updated
    refine ⟨patched, added, same, kept, short.trans ?_⟩
    change 28 + dwords Sensor.calibrationBlobDb.length + dwords data.length +
      dwords values.length < 65536 ↔ LengthsFit (Sensor.configDb values (some data))
    rw [lengthsFit_db, blob, dwords, dwords]
    omega

section Seen

theorem exists_of_value {x : Outcome String Bytes} (h : x.kind = .value) : ∃ b, x = .ok b := by
  cases x with
  | ok b => exact ⟨b, rfl⟩
  | err e => cases h
  | panic => cases h
  | stuck => cases h

/-- A type-2 sensor with these trims, and no calibration data beside them. -/
def trimSensor (values : Bytes) : Usb.World Unit := Sensor.sensor71 [(7, []), (3, values)]

theorem probe_trimSensor (values : Bytes) (fits : values.length < 65536) :
    ∃ p, Yields (Sensor.probe (trimSensor values) Sensor.devices71) () p () ∧
      p.toSensorConfig = Sensor.configDb (values.drop 4) (some []) := by
  have short : ∀ entry ∈ [((7 : UInt16), ([] : Bytes)), (3, values)],
      entry.2.length < 65536 := by
    intro entry mem
    rcases List.mem_pair.mp mem with rfl | rfl
    · decide
    · exact fits
  exact ⟨_, Sensor.probe_sensor71 short (show 2 < 2 ^ 32 by decide) rfl, rfl⟩

/-- Trims of 65361 bytes: the chunk they are sent in is announced by a length of zero. -/
theorem buildCmd02_overflows :
    ∃ p cmd, Yields (Sensor.probe (trimSensor (List.replicate 65365 0)) Sensor.devices71) () p () ∧
      buildCmd02 ⟨[]⟩ .calibrate p.toSensorConfig = .ok cmd ∧
      ¬ ReadsBack ⟨[]⟩ .calibrate p.toSensorConfig cmd := by
  obtain ⟨p, probed, config⟩ := probe_trimSensor (List.replicate 65365 0)
    (by rw [List.length_replicate]; decide)
  rw [List.drop_replicate] at config
  obtain ⟨cmd, built⟩ : ∃ cmd, buildCmd02 ⟨[]⟩ .calibrate
      (Sensor.configDb (List.replicate (65365 - 4) 0) (some [])) = .ok cmd :=
    exists_of_value (by decide +kernel)
  refine ⟨p, cmd, probed, by rw [config, built], fun readsBack => ?_⟩
  rw [config] at readsBack
  have short := (readsBack_iff (.type2 _ _) built).mp readsBack
  rw [lengthsFit_db, List.length_replicate] at short
  exact absurd short (by decide)

end Seen

variable {S : Type} {w : Usb.World S} {devices : List Sensor.DeviceInfo} {s t : S}
  {p : Sensor.Probed}

/-- For every sensor that probing accepts: a capture command reads back exactly where its factory
values fit. -/
theorem buildCmd02_readsBack (probed : Yields (Sensor.probe w devices) s p t)
    (built : buildCmd02 calib mode p.toSensorConfig = .ok cmd) :
    ReadsBack calib mode p.toSensorConfig cmd ↔ LengthsFit p.toSensorConfig :=
  readsBack_iff (Sensor.probe_supported probed) built

theorem buildCmd02_readsBack_trims :
    ∃ p cmd, Yields (Sensor.probe (trimSensor [0, 0, 0, 0, 1, 2]) Sensor.devices71) () p () ∧
      buildCmd02 ⟨[]⟩ .calibrate p.toSensorConfig = .ok cmd ∧
      ReadsBack ⟨[]⟩ .calibrate p.toSensorConfig cmd := by
  obtain ⟨p, probed, config⟩ := probe_trimSensor [0, 0, 0, 0, 1, 2] (by decide)
  obtain ⟨cmd, built⟩ : ∃ cmd, buildCmd02 ⟨[]⟩ .calibrate
      (Sensor.configDb [1, 2] (some [])) = .ok cmd := exists_of_value (by decide +kernel)
  have short : LengthsFit (Sensor.configDb [1, 2] (some [])) := lengthsFit_db.mpr (by decide)
  replace built : buildCmd02 ⟨[]⟩ .calibrate p.toSensorConfig = .ok cmd := by
    rw [config]
    exact built
  refine ⟨p, cmd, probed, built, (buildCmd02_readsBack probed built).mpr ?_⟩
  rw [config]
  exact short

end ValidityFprintd.Calibration
