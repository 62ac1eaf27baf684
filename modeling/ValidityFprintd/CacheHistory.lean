import ValidityFprintd.Accumulate
import ValidityFprintd.Averaging
import ValidityFprintd.FarEnd
import ValidityFprintd.Handle
import ValidityFprintd.Machine
import ValidityFprintd.PairingRecord
import ValidityFprintd.SensorFamily

/-! The calibration of a sensor over many starts of the daemon. A cache file that was written half
is never taken for one: a handle works with what some start calibrated, whole, or with the file
that was there before the first one. -/

namespace ValidityFprintd.Device
open Effect Init Tls Calibration

variable {S D : Type}

/-- A file holds what was last written to it. A write that fails leaves the file as it was, or
unreadable, or with the front of what it was to hold. -/
structure Keeping (disk : Disk D) : Prop where
  created : ∀ d, disk.read (disk.createDirAll d).2 = disk.read d
  written : ∀ b d, (disk.write b d).1 = .ok () → disk.read (disk.write b d).2 = .ok b
  torn : ∀ b d e, (disk.write b d).1 = .error e →
    disk.read (disk.write b d).2 = disk.read d ∨
      (∃ e', disk.read (disk.write b d).2 = .error e') ∨
      ∃ n, disk.read (disk.write b d).2 = .ok (b.take n)

def calibrationSize : Nat := 112 * 0x78

section Lengths

variable {w : Usb.World S} {s t : S} {cfg : SensorConfig} {values : Bytes} {data : Option Bytes}

theorem geometry_199 : Literal.Geometry (Sensor.config199 values data) 2 where
  width := show 1 ≤ (0x78 : UInt32).toNat by decide
  lines := show 1 ≤ (112 : UInt32).toNat by decide
  interleave := by decide
  frame := show (224 : UInt32).toNat = 2 * (112 : UInt32).toNat by decide
  frames := show 3 ≤ (3 : UInt32).toNat by decide
  product := show (224 : UInt32).toNat * (0x78 : UInt32).toNat < 2 ^ 32 by decide

theorem average_length {raw out : Bytes}
    (averages : average raw (Sensor.config199 values data) = .ok out) :
    out.length = 112 * 0x78 := by
  rw [← Literal.average_eq (.type1 values data)] at averages
  obtain ⟨long, fits⟩ := (Literal.average_eq_ok_iff geometry_199).mp ⟨out, averages⟩
  obtain ⟨_, averages', all⟩ := Literal.average_fits geometry_199 long fits
  obtain rfl := Outcome.ok.inj (averages.symm.trans averages')
  exact all.length

theorem calibrateFrom_accumulated {n i : Nat} {calib c : Calibration} {frames : List Bytes}
    (few : frames.length + n ≤ 3)
    (h : frames = [] ∧ calib.calibData = [] ∨ Accumulated 0x78 112 frames calib.calibData)
    (done : Yields (calibrateFrom w (Sensor.config199 values data) n i calib) s c t) :
    n = 0 ∧ c = calib ∨ ∃ frames', Accumulated 0x78 112 frames' c.calibData := by
  induction n generalizing i calib frames s with
  | zero =>
    obtain ⟨rfl, _⟩ := Yields.ret_iff.mp done
    exact .inl ⟨rfl, rfl⟩
  | succ n ih =>
    obtain ⟨cooked, _, framed, done⟩ := Yields.bind_iff.mp done
    obtain ⟨calib', _, folded, done⟩ := Yields.bind_iff.mp done
    obtain ⟨cmd, _, _, framed⟩ := Yields.bind_iff.mp framed
    obtain ⟨_, _, _, framed⟩ := Yields.bind_iff.mp framed
    obtain ⟨_, _, _, framed⟩ := Yields.bind_iff.mp framed
    obtain ⟨raw, _, _, averages, _⟩ := Yields.bind_iff.mp framed
    have wide : 8 ≤ (Sensor.config199 values data).bytesPerLine.toNat := of_decide_eq_true rfl
    obtain ⟨out, processed, next⟩ := processCalibrationResults_accumulated wide
      (average_length averages) (by omega) h
    obtain rfl := Outcome.ok.inj (processed.symm.trans folded.1)
    have few' : (frames ++ [cooked]).length + n ≤ 3 := by
      rw [List.length_append, List.length_singleton]
      omega
    obtain ⟨rfl, rfl⟩ | found := ih few' (.inr next) done
    · exact .inr ⟨_, next⟩
    · exact .inr found

/-- A type-1 sensor is calibrated in three iterations, a type-2 sensor in none. -/
theorem probe_iterations {devices : List Sensor.DeviceInfo} {p : Sensor.Probed}
    (probed : Yields (Sensor.probe w devices) s p t) :
    p.keyCalibrationLine = 0x38 ∧ p.calibrationIterations = 3 ∧ p.sensorType = 0x199 ∨
      p.keyCalibrationLine = 0x48 ∧ p.calibrationIterations = 0 ∧ p.sensorType = 0xdb := by
  obtain ⟨⟨name, sensorType⟩, _, _, probed⟩ := Yields.bind_iff.mp probed
  obtain ⟨⟨keyLine, frames, iterations⟩, _, ⟨family, _⟩, probed⟩ := Yields.bind_iff.mp probed
  obtain ⟨typeInfo, _, _, probed⟩ := Yields.bind_iff.mp probed
  obtain ⟨rom, _, _, probed⟩ := Yields.bind_iff.mp probed
  obtain ⟨_, _, _, probed⟩ := Yields.bind_iff.mp probed
  obtain ⟨prog, _, _, probed⟩ := Yields.bind_iff.mp probed
  obtain ⟨lines, _, _, probed⟩ := Yields.bind_iff.mp probed
  obtain ⟨bits, _, _, probed⟩ := Yields.bind_iff.mp probed
  obtain ⟨values, _, _, probed⟩ := Yields.bind_iff.mp probed
  obtain ⟨rfl, rfl⟩ := Yields.ret_iff.mp probed
  obtain ⟨rfl, constants⟩ | ⟨rfl, constants⟩ := Sensor.familyConstants_eq_ok family
  · cases constants
    exact .inl ⟨rfl, rfl, rfl⟩
  · cases constants
    exact .inr ⟨rfl, rfl, rfl⟩

theorem probe_family {devices : List Sensor.DeviceInfo} {p : Sensor.Probed}
    (probed : Yields (Sensor.probe w devices) s p t) :
    (∃ values data, p.toSensorConfig = Sensor.config199 values data) ∧
        p.calibrationIterations = 3 ∧ p.sensorType = 0x199 ∨
      (∃ values data, p.toSensorConfig = Sensor.configDb values data) ∧
        p.calibrationIterations = 0 ∧ p.sensorType = 0xdb := by
  have supported := Sensor.probe_supported probed
  have iterations := probe_iterations probed
  generalize p.toSensorConfig = cfg at supported iterations
  cases supported with
  | type1 values data =>
    have line : (Sensor.config199 values data).keyCalibrationLine ≠ 0x48 := of_decide_eq_true rfl
    exact .inl ⟨⟨values, data, rfl⟩, (iterations.resolve_right fun other => line other.1).2⟩
  | type2 values data =>
    have line : (Sensor.configDb values data).keyCalibrationLine ≠ 0x38 := of_decide_eq_true rfl
    exact .inr ⟨⟨values, data, rfl⟩, (iterations.resolve_left fun other => line other.1).2⟩

end Lengths

section Opening

variable {C : Crypto.Primitives} {P : Curve} {w : Usb.World S} {disk : Disk D}
  {devices : List Sensor.DeviceInfo} {start : Start S} {d : D}

variable (C P w devices) in
/-- The calibration that a start makes of the sensor it brought up. -/
def Measures (start : Start S) (d : D) (cfg : Sensor.Probed) (c : Calibration) : Prop :=
  ∃ blob tls env l, Yields (bringUp C P w devices start) ⟨start.env, d⟩ (blob, cfg, tls) ⟨env, d⟩ ∧
    Yields (calibrate (transport C w) cfg.toSensorConfig cfg.calibrationIterations ⟨[]⟩)
      ⟨tls, env⟩ c l

/-- Where a handle's calibration comes from, and what becomes of the disk. -/
inductive Came (C : Crypto.Primitives) (P : Curve) (w : Usb.World S) (disk : Disk D)
    (devices : List Sensor.DeviceInfo) (start : Start S) (d : D) (handle : Handle) : D → Prop
  | cached : load disk handle.cfg.toSensorConfig d = some handle.calib →
      Came C P w disk devices start d handle d
  | measured : load disk handle.cfg.toSensorConfig d = none →
      Measures C P w devices start d handle.cfg handle.calib →
      Came C P w disk devices start d handle (save disk handle.calib d).2

theorem onSession_yields {α : Type} {tls tls' : Tls}
    {x : Act String (Usb.Entry (Link S)) (Host (Link S) D) α} {h h' : Host S D} {a : α} :
    Yields (onSession tls x) h (a, tls') h' ↔
      Yields x ⟨⟨tls, h.env⟩, h.disk⟩ a ⟨⟨tls', h'.env⟩, h'.disk⟩ := by
  unfold Yields onSession
  rcases x ⟨⟨tls, h.env⟩, h.disk⟩ with ⟨out, ⟨⟨tls1, env1⟩, d1⟩, l⟩
  obtain ⟨env', d'⟩ := h'
  cases out with
  | ok b =>
    simp only [Outcome.follow, Outcome.ok.injEq, Prod.mk.injEq, Host.mk.injEq, Link.mk.injEq]
    tauto
  | err e => simp [Outcome.follow]
  | panic => simp [Outcome.follow]
  | stuck => simp [Outcome.follow]

theorem onSensor_yields {E α : Type} {x : Act String E S α} {h h' : Host S D} {a : α} :
    Yields (onSensor x) h a h' ↔ Yields x h.env a h'.env ∧ h'.disk = h.disk := by
  obtain ⟨env', d'⟩ := h'
  simp only [onSensor, Yields.zoom_iff, Host.mk.injEq]
  constructor
  · rintro ⟨v, run, rfl, rfl⟩
    exact ⟨run, rfl⟩
  · rintro ⟨run, same⟩
    exact ⟨env', run, rfl, same.symm⟩

variable (devices) in
theorem bringUp_disk (start : Start S) (h : Host S D) :
    (bringUp C P w devices start h).state.disk = h.disk := by
  have keeps : Respects (fun (h : Host S D) (_ : List (Heard S)) h' => h'.disk = h.disk)
      (bringUp C P w devices start) :=
    .bind (.ofOutcome _) fun _ => .bind (fun _ => rfl) fun _ => .bind (fun _ => rfl) fun _ =>
      .ret _
  exact keeps h

theorem bringUp_probed {h h' : Host S D} {blob : WriteEnable} {cfg : Sensor.Probed} {tls : Tls}
    (up : Yields (bringUp C P w devices start) h (blob, cfg, tls) h') :
    ∃ l l', Yields (Sensor.probe (transport C w) devices) l cfg l' := by
  obtain ⟨blobs, _, _, up⟩ := Yields.bind_iff.mp up
  obtain ⟨⟨tls0, valid⟩, h0, _, up⟩ := Yields.bind_iff.mp up
  obtain ⟨⟨cfg', tls'⟩, h1, probed, up⟩ := Yields.bind_iff.mp up
  obtain ⟨same, _⟩ := Yields.ret_iff.mp up
  cases same
  exact ⟨_, _, (onSensor_yields.mp (onSession_yields.mp probed)).1⟩

theorem loadOrCalibrate_hit {cfg : Sensor.Probed} {h : Host S D} {c : Calibration}
    (hit : load disk cfg.toSensorConfig h.disk = some c) :
    loadOrCalibrate disk w cfg h = ⟨.ok c, h, []⟩ := by
  simp only [loadOrCalibrate, Act.get_bind, hit]
  rfl

def remake (disk : Disk D) (w : Usb.World S) (cfg : Sensor.Probed) :
    Act String (Usb.Entry S) (Host S D) Calibration := do
  let c ← onSensor (calibrate w cfg.toSensorConfig cfg.calibrationIterations ⟨[]⟩)
  Act.modify fun h => { h with disk := (save disk c h.disk).2 }
  Act.ret c

theorem loadOrCalibrate_miss {cfg : Sensor.Probed} {h : Host S D}
    (miss : load disk cfg.toSensorConfig h.disk = none) :
    loadOrCalibrate disk w cfg h = remake disk w cfg h := by
  simp only [loadOrCalibrate, Act.get_bind, miss, remake]

theorem remake_cases (disk : Disk D) (w : Usb.World S) (cfg : Sensor.Probed) (h : Host S D) :
    (∃ c env, Yields (calibrate w cfg.toSensorConfig cfg.calibrationIterations ⟨[]⟩) h.env c env ∧
      Yields (remake disk w cfg) h c ⟨env, (save disk c h.disk).2⟩) ∨
    ((∀ c, (remake disk w cfg h).out ≠ .ok c) ∧ (remake disk w cfg h).state.disk = h.disk) := by
  obtain ⟨c, t, l, made, run⟩ | ⟨_, fails, state, _⟩ := Act.bind_cases
    (x := (onSensor (calibrate w cfg.toSensorConfig cfg.calibrationIterations ⟨[]⟩) :
      Act String (Usb.Entry S) (Host S D) Calibration))
    (f := fun c => Act.modify (fun h => { h with disk := (save disk c h.disk).2 }) >>=
      fun _ => Act.ret c) h
  · obtain ⟨made, kept⟩ := onSensor_yields.mp (Yields.iff_run.mpr ⟨l, made⟩)
    refine .inl ⟨c, t.env, made, ?_⟩
    rw [Yields, remake, run, ← kept]
    exact ⟨rfl, rfl⟩
  · refine .inr ⟨fails, ?_⟩
    rw [remake, state]
    rfl

/-- `Sensor::open` from its calibration on. -/
def calibrated (disk : Disk D) (C : Crypto.Primitives) (w : Usb.World S) (blob : WriteEnable)
    (cfg : Sensor.Probed) (tls : Tls) : Act String (Heard S) (Host S D) (Handle × Tls) := do
  let (calib, tls) ← onSession tls (loadOrCalibrate disk (transport C w) cfg)
  Act.ret (⟨cfg, calib, blob⟩, tls)

theorem calibrated_cases (disk : Disk D) (blob : WriteEnable) (cfg : Sensor.Probed) (tls : Tls)
    (h : Host S D) :
    (∃ calib tls' h', Yields (calibrated disk C w blob cfg tls) h (⟨cfg, calib, blob⟩, tls') h' ∧
      (load disk cfg.toSensorConfig h.disk = some calib ∧ h'.disk = h.disk ∨
        load disk cfg.toSensorConfig h.disk = none ∧ (∃ l, Yields (calibrate (transport C w)
          cfg.toSensorConfig cfg.calibrationIterations ⟨[]⟩) ⟨tls, h.env⟩ calib l) ∧
          h'.disk = (save disk calib h.disk).2)) ∨
    ((∀ opened, (calibrated disk C w blob cfg tls h).out ≠ .ok opened) ∧
      (calibrated disk C w blob cfg tls h).state.disk = h.disk) := by
  cases found : load disk cfg.toSensorConfig h.disk with
  | some c =>
    have hit := loadOrCalibrate_hit (w := transport C w) (h := ⟨⟨tls, h.env⟩, h.disk⟩) found
    refine .inl ⟨c, tls, h, Yields.bind_iff.mpr ⟨(c, tls), h, ?_, rfl, rfl⟩, .inl ⟨rfl, rfl⟩⟩
    exact onSession_yields.mpr (Yields.iff_run.mpr ⟨[], hit⟩)
  | none =>
    have miss := loadOrCalibrate_miss (w := transport C w) (h := ⟨⟨tls, h.env⟩, h.disk⟩) found
    obtain ⟨c, l, made, remade⟩ | ⟨fails, state⟩ := remake_cases disk (transport C w) cfg
      ⟨⟨tls, h.env⟩, h.disk⟩
    · refine .inl ⟨c, l.tls, ⟨l.env, (save disk c h.disk).2⟩, Yields.bind_iff.mpr
        ⟨(c, l.tls), _, onSession_yields.mpr ?_, rfl, rfl⟩, .inr ⟨rfl, ⟨l, made⟩, rfl⟩⟩
      rw [Yields, miss]
      exact remade
    · rw [← miss] at fails state
      obtain ⟨⟨c, tls'⟩, t, l, made, _⟩ | ⟨_, fails', state', _⟩ := Act.bind_cases
        (x := (onSession tls (loadOrCalibrate disk (transport C w) cfg) :
          Act String (Heard S) (Host S D) (Calibration × Tls)))
        (f := fun (calib, tls) => Act.ret ((⟨cfg, calib, blob⟩ : Handle), tls)) h
      · exact absurd (onSession_yields.mp (Yields.iff_run.mpr ⟨l, made⟩)).1 (fails c)
      · refine .inr ⟨fails', ?_⟩
        rw [calibrated, state']
        exact state

variable (disk devices) in
theorem openSensor_cases (start : Start S) (d : D) :
    (∃ handle tls, (openSensor C P w disk devices start ⟨start.env, d⟩).out = .ok (handle, tls) ∧
      (∃ l l', Yields (Sensor.probe (transport C w) devices) l handle.cfg l') ∧
      Came C P w disk devices start d handle
        (openSensor C P w disk devices start ⟨start.env, d⟩).state.disk) ∨
    ((∀ opened, (openSensor C P w disk devices start ⟨start.env, d⟩).out ≠ .ok opened) ∧
      (openSensor C P w disk devices start ⟨start.env, d⟩).state.disk = d) := by
  have whole : openSensor C P w disk devices start =
      ((bringUp C P w devices start : Act String (Heard S) (Host S D) _) >>= fun p =>
        calibrated disk C w p.1 p.2.1 p.2.2) := rfl
  have kept := bringUp_disk (C := C) (P := P) (w := w) devices start ⟨start.env, d⟩
  rw [whole]
  obtain ⟨⟨blob, cfg, tls⟩, ⟨env, d'⟩, l, up, run⟩ | ⟨_, fails, state, _⟩ := Act.bind_cases
    (x := (bringUp C P w devices start : Act String (Heard S) (Host S D) _))
    (f := fun p => calibrated disk C w p.1 p.2.1 p.2.2) ⟨start.env, d⟩
  · rw [up] at kept
    obtain rfl : d' = d := kept
    have up := Yields.iff_run.mpr ⟨l, up⟩
    rw [run]
    obtain ⟨calib, tls', h', ⟨out, state⟩, source⟩ | fails := calibrated_cases (C := C)
      (w := w) disk blob cfg tls ⟨env, d'⟩
    · refine .inl ⟨⟨cfg, calib, blob⟩, tls', out, bringUp_probed up, ?_⟩
      dsimp only
      rw [state]
      obtain ⟨hit, same⟩ | ⟨miss, ⟨l', made⟩, saved⟩ := source
      · rw [same]
        exact .cached hit
      · rw [saved]
        exact .measured miss ⟨blob, tls, env, l', up, made⟩
    · exact .inr fails
  · refine .inr ⟨fails, ?_⟩
    rw [state, kept]

end Opening

section Starts

variable {C : Crypto.Primitives} {P : Curve} {w : Usb.World S} {disk : Disk D}
  {devices : List Sensor.DeviceInfo}

variable (C P w disk devices) in
/-- The daemon started again and again on one machine, with whatever sensor each start finds there.
Only the disk goes on from one start to the next. -/
def starts (d : D) : Machine D (Start S) (Outcome String (Handle × Tls)) where
  init := d
  step d start :=
    let r := openSensor C P w disk devices start ⟨start.env, d⟩
    some (r.state.disk, [r.out])

variable (disk devices) in
theorem starts_once (d : D) (start : Start S) : (starts C P w disk devices d).Run
    [⟨d, start, (openSensor C P w disk devices start ⟨start.env, d⟩).state.disk,
      [(openSensor C P w disk devices start ⟨start.env, d⟩).out]⟩]
    (openSensor C P w disk devices start ⟨start.env, d⟩).state.disk :=
  .step .init rfl

theorem starts_again {d s : D} {moves} (run : (starts C P w disk devices d).Run moves s)
    (start : Start S) : (starts C P w disk devices d).Run
      (moves ++ [⟨s, start, (openSensor C P w disk devices start ⟨start.env, s⟩).state.disk,
        [(openSensor C P w disk devices start ⟨start.env, s⟩).out]⟩])
      (openSensor C P w disk devices start ⟨start.env, s⟩).state.disk :=
  .step run rfl

/-- Some start measured this calibration. -/
def Measured (C : Crypto.Primitives) (P : Curve) (w : Usb.World S)
    (devices : List Sensor.DeviceInfo)
    (moves : List (Machine.Move D (Start S) (Outcome String (Handle × Tls)))) (c : Calibration) :
    Prop :=
  ∃ move ∈ moves, ∃ cfg, Measures C P w devices move.label move.before cfg c

theorem Measured.append
    {moves more : List (Machine.Move D (Start S) (Outcome String (Handle × Tls)))}
    {c : Calibration} (h : Measured C P w devices moves c) :
    Measured C P w devices (moves ++ more) c := by
  obtain ⟨move, mem, made⟩ := h
  exact ⟨move, List.mem_append_left _ mem, made⟩

/-- What a start measures of a type-1 sensor is of one size, and of a type-2 sensor is nothing. -/
theorem Measures.size {start : Start S} {d : D} {cfg : Sensor.Probed} {c : Calibration}
    (h : Measures C P w devices start d cfg c) :
    cfg.sensorType = 0x199 ∧ c.calibData.length = calibrationSize ∨
      cfg.sensorType = 0xdb ∧ c.calibData = [] := by
  obtain ⟨blob, tls, env, l, up, made⟩ := h
  obtain ⟨_, _, probed⟩ := bringUp_probed up
  obtain ⟨⟨values, data, family⟩, three, type⟩ | ⟨_, none, type⟩ := probe_family probed
  · rw [family, three] at made
    have few : ([] : List Bytes).length + (3 : UInt32).toNat ≤ 3 := by decide
    obtain ⟨zero, _⟩ | ⟨frames, folded⟩ := calibrateFrom_accumulated few (.inl ⟨rfl, rfl⟩) made
    · exact absurd zero (by decide)
    · exact .inl ⟨type, folded.length⟩
  · rw [none] at made
    obtain ⟨rfl, _⟩ := Yields.ret_iff.mp made
    exact .inr ⟨type, rfl⟩

theorem load_eq_some {cfg : SensorConfig} {d : D} {c : Calibration} :
    load disk cfg d = some c ↔ disk.read d = .ok c.calibData ∧
      c.calibData.length = (cfg.typeInfo.linesPerCalibrationData * cfg.bytesPerLine).toNat := by
  obtain ⟨data⟩ := c
  unfold load
  cases disk.read d with
  | error e => simp
  | ok b =>
    dsimp only
    split
    case isTrue size =>
      simp only [Option.some.injEq, Calibration.mk.injEq, Except.ok.injEq]
      constructor
      · rintro rfl
        exact ⟨rfl, size⟩
      · rintro ⟨rfl, _⟩
        rfl
    case isFalse other =>
      simp only [reduceCtorEq, Except.ok.injEq, false_iff, not_and]
      rintro rfl
      exact other

theorem save_reads (keeping : Keeping disk) {c : Calibration} {d : D} {b : Bytes}
    (read : disk.read (save disk c d).2 = .ok b) :
    disk.read d = .ok b ∨ ∃ n, b = c.calibData.take n := by
  have created := keeping.created d
  unfold save at read
  rcases made : disk.createDirAll d with ⟨r, d1⟩
  rw [made] at read created
  cases r with
  | error e => exact .inl (created ▸ read)
  | ok u =>
    dsimp only at read created
    cases result : (disk.write c.calibData d1).1 with
    | ok u =>
      rw [keeping.written _ _ result] at read
      exact .inr ⟨c.calibData.length, by rw [List.take_length]; exact (Except.ok.inj read).symm⟩
    | error e =>
      obtain same | ⟨e', gone⟩ | ⟨n, front⟩ := keeping.torn _ _ _ result
      · rw [same, created] at read
        exact .inl read
      · rw [gone] at read
        cases read
      · rw [front] at read
        exact .inr ⟨n, (Except.ok.inj read).symm⟩

/-- What the file holds is what it held at first, or the front of what a start measured. -/
theorem starts_file (keeping : Keeping disk) {d last : D} {moves}
    (run : (starts C P w disk devices d).Run moves last) (b : Bytes)
    (read : disk.read last = .ok b) :
    disk.read d = .ok b ∨ ∃ c n, Measured C P w devices moves c ∧ b = c.calibData.take n := by
  refine run.history_of (p := fun _ => True) (I := fun moves d' => ∀ b, disk.read d' = .ok b →
    disk.read d = .ok b ∨ ∃ c n, Measured C P w devices moves c ∧ b = c.calibData.take n)
    (fun b read => .inl read) ?_ (fun _ _ => trivial) b read
  intro moves s start t events before _ taken b read
  obtain ⟨after, _⟩ := Prod.mk.inj (Option.some.inj taken)
  have earlier : disk.read s = .ok b → disk.read d = .ok b ∨ ∃ c n,
      Measured C P w devices (moves ++ [⟨s, start, t, events⟩]) c ∧ b = c.calibData.take n := by
    intro old
    obtain first | ⟨c, n, measured, front⟩ := before b old
    · exact .inl first
    · exact .inr ⟨c, n, measured.append, front⟩
  obtain ⟨handle, tls, _, _, came⟩ | ⟨_, same⟩ := openSensor_cases (C := C) (P := P) (w := w)
    disk devices start s
  · rw [after] at came
    cases came with
    | cached hit => exact earlier read
    | measured miss made =>
      obtain old | ⟨n, front⟩ := save_reads keeping read
      · exact earlier old
      · exact .inr ⟨_, n, ⟨_, List.mem_append_right _ (List.mem_singleton_self _), _, made⟩, front⟩
  · rw [after] at same
    exact earlier (same ▸ read)

/-- What is as large as a calibration and the front of one is that calibration. -/
theorem Measured.whole {moves : List (Machine.Move D (Start S) (Outcome String (Handle × Tls)))}
    {c : Calibration} {b : Bytes} {n : Nat} {cfg : SensorConfig} (supported : Sensor.Supported cfg)
    (size : b.length = (cfg.typeInfo.linesPerCalibrationData * cfg.bytesPerLine).toNat)
    (measured : Measured C P w devices moves c) (front : b = c.calibData.take n) :
    b = c.calibData := by
  have large : calibrationSize ≤ b.length := by
    rw [size]
    cases supported with
    | type1 values data => exact show calibrationSize ≤ ((112 : UInt32) * 0x78).toNat by decide
    | type2 values data => exact show calibrationSize ≤ ((144 : UInt32) * 0x98).toNat by decide
  obtain ⟨move, _, cfg', made⟩ := measured
  have small : c.calibData.length ≤ calibrationSize := by
    obtain ⟨_, full⟩ | ⟨_, none⟩ := made.size
    · exact Nat.le_of_eq full
    · rw [none]
      exact Nat.zero_le _
  have cut : b.length ≤ n := by
    rw [front, List.length_take]
    exact Nat.min_le_left _ _
  rw [front, List.take_of_length_le (by omega)]

/-! A type-1 sensor paired with this machine, and a disk with a calibration. -/

section Seen

/-- A record that this machine made, of a key block with the vendor's point. -/
def vendorRecord : Bytes :=
  match Provision.encryptKey plainPrimitives
    (HostKeys.derive plainPrimitives "20HRCTO1WW" "PF0XKNNA") (Vector.replicate 32 1).toList
    (Vector.replicate 32 2).toList (Vector.replicate 32 3).toList (Vector.replicate 16 9) >>=
      fun privBlob => Provision.makeTlsFlash plainPrimitives privBlob [0x17, 0, 0, 0]
        Pairing.vendorBlock with
  | .ok record => record
  | .error _ => []

def devices190 : List Sensor.DeviceInfo := [⟨0x0190, 0x0199, 0x4a, 0xff, "57K0 FM-3367-001"⟩]

def holding (record : Bytes) : Usb.World Unit := fun q s =>
  match q with
  | .cmd (0x19 :: _) => (.ok [0, 0], s)
  | .cmd (0x43 :: _) => (.ok [0, 0], s)
  | .cmd (0x06 :: _) => (.ok [0, 0], s)
  | .cmd (0x40 :: _) => (.ok ([0, 0] ++ Bytes.le32 0x1000 ++ [0, 0] ++ record), s)
  | .cmd (0x75 :: _) => (.ok [0, 0, 0, 0, 0, 0, 0x4a, 0, 0x90, 0x01], s)
  | q => Sensor.sensor71 [(3, [0, 0, 0, 0, 9])] q s

def pairedSensor : Usb.World Unit := holding vendorRecord

def oneFile : Disk Bytes := ⟨.ok, fun d => (.ok (), d), fun b _ => (.ok (), b)⟩

theorem oneFile_keeping : Keeping oneFile where
  created := fun _ => rfl
  written := fun _ _ _ => rfl
  torn := fun _ _ _ result => nomatch result

def oldFile : Bytes := List.replicate calibrationSize 0

def plainAuthority : Authority := ⟨[], fun _ _ _ => true⟩

def vendorBlobs : DeviceBlobs :=
  ⟨⟨[6, 2, 0], .inr rfl⟩, ⟨[6, 2, 1], .inr rfl⟩, ⟨[6, 2, 2], rfl⟩, ⟨[6, 2, 3], rfl⟩⟩

def coldStart : Start (Far Unit) where
  env := ⟨.clear, fun _ => 0, ()⟩
  vid := 0x138a
  pid := 0x0097
  blobs := some vendorBlobs
  identity := .ok ("20HRCTO1WW", "PF0XKNNA")
  rng := fun _ => 0

abbrev coldOpen (d : Bytes) :
    Result String (Heard (Far Unit)) (Host (Far Unit) Bytes) (Handle × Tls) :=
  openSensor plainPrimitives Pairing.vendorCurve (far plainPrimitives plainAuthority pairedSensor)
    oneFile devices190 coldStart ⟨coldStart.env, d⟩

def opensType1 (r : Result String (Heard (Far Unit)) (Host (Far Unit) Bytes) (Handle × Tls)) :
    Bool :=
  match r.out with
  | .ok (handle, _) => handle.cfg.sensorType = 0x199
  | _ => false

theorem opensType1_value {r} (h : opensType1 r = true) :
    ∃ handle tls, r.out = .ok (handle, tls) ∧ handle.cfg.sensorType = 0x199 := by
  unfold opensType1 at h
  split at h
  · exact ⟨_, _, ‹_›, of_decide_eq_true h⟩
  · cases h

theorem coldOpen_twice : opensType1 (coldOpen oldFile) = true ∧
    opensType1 (coldOpen (coldOpen oldFile).state.disk) = true := by
  decide +kernel

end Seen

/-- In every run of starts, whatever the sensors say and however writes of the cache fail, a handle
works with a calibration that this start or one before it measured as it is, or with the file that
was there before them; and with one of its sensor's size, or with none where a type-2 sensor
has no calibration to cache. -/
theorem calibration_history (keeping : Keeping disk) {d last : D} {front back moves}
    {move : Machine.Move D (Start S) (Outcome String (Handle × Tls))}
    (run : (starts C P w disk devices d).Run moves last) (split : moves = front ++ move :: back)
    {handle : Handle} {tls : Tls} (opened : move.events = [.ok (handle, tls)]) :
    (disk.read d = .ok handle.calib.calibData ∨
      Measured C P w devices (front ++ [move]) handle.calib) ∧
    (handle.calib.calibData.length =
        (handle.cfg.typeInfo.linesPerCalibrationData * handle.cfg.bytesPerLine).toNat ∨
      handle.cfg.sensorType = 0xdb ∧ handle.calib.calibData = []) := by
  subst split
  obtain ⟨before, taken⟩ := run.move
  obtain ⟨_, events⟩ := Prod.mk.inj (Option.some.inj taken)
  rw [opened] at events
  obtain ⟨handle', tls', out, ⟨l, l', probed⟩, came⟩ | ⟨fails, _⟩ := openSensor_cases (C := C)
    (P := P) (w := w) disk devices move.label move.before
  · rw [out] at events
    cases events
    generalize (openSensor C P w disk devices move.label ⟨move.label.env, move.before⟩).state.disk =
      d' at came
    cases came with
    | cached hit =>
      obtain ⟨read, size⟩ := load_eq_some.mp hit
      refine ⟨?_, .inl size⟩
      obtain first | ⟨c, n, measured, part⟩ := starts_file keeping before _ read
      · exact .inl first
      · have same := measured.whole (Sensor.probe_supported probed) size part
        have whole : c = handle.calib := congrArg Calibration.mk same.symm
        exact .inr (whole ▸ measured.append)
    | measured miss made =>
      refine ⟨.inr ⟨move, List.mem_append_right _ (List.mem_singleton_self _), _, made⟩, ?_⟩
      obtain ⟨⟨values, data, family⟩, _, type⟩ | ⟨_, _, type⟩ := probe_family probed
      · obtain ⟨_, full⟩ | ⟨other, _⟩ := made.size
        · refine .inl ?_
          rw [full, family]
          exact show calibrationSize = ((112 : UInt32) * 0x78).toNat by decide
        · rw [type] at other
          exact absurd other (by decide)
      · obtain ⟨other, _⟩ | none := made.size
        · rw [type] at other
          exact absurd other (by decide)
        · exact .inr none
  · exact absurd (List.cons.inj events).1 (fails _)

theorem calibration_history_cold : ∃ handle tls, (coldOpen oldFile).out = .ok (handle, tls) ∧
    (handle.calib.calibData.length =
        (handle.cfg.typeInfo.linesPerCalibrationData * handle.cfg.bytesPerLine).toNat ∨
      handle.cfg.sensorType = 0xdb ∧ handle.calib.calibData = []) := by
  obtain ⟨handle, tls, out, _⟩ := opensType1_value coldOpen_twice.1
  have run := starts_once (C := plainPrimitives) (P := Pairing.vendorCurve)
    (w := far plainPrimitives plainAuthority pairedSensor) oneFile devices190 oldFile coldStart
  exact ⟨handle, tls, out, (calibration_history oneFile_keeping run (List.nil_append _).symm
    (congrArg (fun o => [o]) out)).2⟩

structure Writable (disk : Disk D) : Prop where
  created : ∀ d, (disk.createDirAll d).1 = .ok ()
  written : ∀ b d, (disk.write b d).1 = .ok ()

theorem save_read (keeping : Keeping disk) (writable : Writable disk) (c : Calibration) (d : D) :
    disk.read (save disk c d).2 = .ok c.calibData := by
  have created := writable.created d
  unfold save
  rcases made : disk.createDirAll d with ⟨r, d1⟩
  rw [made] at created
  obtain rfl : r = .ok () := created
  exact keeping.written _ _ (writable.written _ _)

theorem load_type1 {cfg : SensorConfig} {values : Bytes} {data : Option Bytes} {d : D} {b : Bytes}
    (family : cfg = Sensor.config199 values data) (read : disk.read d = .ok b)
    (size : b.length = calibrationSize) : load disk cfg d = some ⟨b⟩ := by
  refine load_eq_some.mpr ⟨read, ?_⟩
  rw [family]
  exact size.trans (show calibrationSize = ((112 : UInt32) * 0x78).toNat by decide)

/-- What the starts so far handed out is what the next one will. -/
def Settled (disk : Disk D)
    (moves : List (Machine.Move D (Start S) (Outcome String (Handle × Tls)))) (d : D) : Prop :=
  ∀ move ∈ moves, ∀ handle tls, move.events = [.ok (handle, tls)] →
    disk.read d = .ok handle.calib.calibData ∧ handle.calib.calibData.length = calibrationSize

theorem Settled.snoc {moves : List (Machine.Move D (Start S) (Outcome String (Handle × Tls)))}
    {s t : D} {start : Start S} {events : List (Outcome String (Handle × Tls))}
    (before : Settled disk moves t) (last : ∀ handle tls, events = [.ok (handle, tls)] →
      disk.read t = .ok handle.calib.calibData ∧ handle.calib.calibData.length = calibrationSize) :
    Settled disk (moves ++ [⟨s, start, t, events⟩]) t := by
  intro move mem handle tls opened
  obtain mem | mem := List.mem_append.mp mem
  · exact before move mem handle tls opened
  · obtain rfl := List.mem_singleton.mp mem
    exact last handle tls opened

theorem starts_settled (keeping : Keeping disk) (writable : Writable disk) {d last : D} {moves}
    (run : (starts C P w disk devices d).Run moves last)
    (type1 : ∀ move ∈ moves, ∀ handle tls, move.events = [.ok (handle, tls)] →
      handle.cfg.sensorType = 0x199) : Settled disk moves last := by
  refine run.history_of (p := fun move => ∀ handle tls, move.events = [.ok (handle, tls)] →
    handle.cfg.sensorType = 0x199) (I := Settled disk) (fun _ none => absurd none List.not_mem_nil)
    ?_ type1
  intro moves s start t events before type taken
  obtain ⟨after, events'⟩ := Prod.mk.inj (Option.some.inj taken)
  obtain ⟨handle, tls, out, ⟨_, _, probed⟩, came⟩ | ⟨fails, same⟩ := openSensor_cases (C := C)
    (P := P) (w := w) disk devices start s
  · rw [out] at events'
    rw [after] at came
    have isType1 := type handle tls events'.symm
    obtain ⟨⟨values, data, family⟩, _⟩ | ⟨_, _, other⟩ := probe_family probed
    · cases came with
      | cached hit =>
        refine before.snoc fun handle' tls' opened => ?_
        obtain ⟨read, size⟩ := load_eq_some.mp hit
        cases events'.trans opened
        rw [family] at size
        exact ⟨read, size.trans (show ((112 : UInt32) * 0x78).toNat = calibrationSize by decide)⟩
      | measured miss made =>
        -- a handle handed out before would have been a cache to load
        refine Settled.snoc (fun move mem handle' tls' opened => ?_) fun handle' tls' opened => ?_
        · obtain ⟨read, size⟩ := before move mem handle' tls' opened
          rw [load_type1 family read size] at miss
          cases miss
        · cases events'.trans opened
          refine ⟨save_read keeping writable _ _, ?_⟩
          obtain ⟨_, size⟩ | ⟨other, _⟩ := made.size
          · exact size
          · rw [isType1] at other
            exact absurd other (by decide)
    · rw [isType1] at other
      exact absurd other (by decide)
  · rw [after] at same
    refine Settled.snoc (same ▸ before) fun handle tls opened => ?_
    exact absurd (List.cons.inj (events'.trans opened)).1 (fails _)

/-- On a disk that can be written to, type-1 sensors are calibrated once: every start that opens
one, of all the starts of a run, works with the same calibration. -/
theorem calibrated_once (keeping : Keeping disk) (writable : Writable disk) {d last : D} {moves}
    (run : (starts C P w disk devices d).Run moves last)
    (type1 : ∀ move ∈ moves, ∀ handle tls, move.events = [.ok (handle, tls)] →
      handle.cfg.sensorType = 0x199)
    {move move' : Machine.Move D (Start S) (Outcome String (Handle × Tls))} (mem : move ∈ moves)
    (mem' : move' ∈ moves) {handle handle' : Handle} {tls tls' : Tls}
    (opened : move.events = [.ok (handle, tls)]) (opened' : move'.events = [.ok (handle', tls')]) :
    handle'.calib = handle.calib := by
  have settled := starts_settled keeping writable run type1
  have read := (settled move mem handle tls opened).1
  have read' := (settled move' mem' handle' tls' opened').1
  exact congrArg Calibration.mk (Except.ok.inj (read'.symm.trans read))

theorem starts_twice (disk : Disk D) (devices : List Sensor.DeviceInfo) (d : D) (start : Start S) :
    ∃ moves last move move', (starts C P w disk devices d).Run moves last ∧ move ∈ moves ∧
      move' ∈ moves ∧ (∀ m ∈ moves, m = move ∨ m = move') ∧
      move.events = [(openSensor C P w disk devices start ⟨start.env, d⟩).out] ∧
      move'.events = [(openSensor C P w disk devices start ⟨start.env,
        (openSensor C P w disk devices start ⟨start.env, d⟩).state.disk⟩).out] := by
  refine ⟨_, _, _, _, starts_again (starts_once disk devices d start) start,
    List.mem_append_left _ (List.mem_singleton_self _),
    List.mem_append_right _ (List.mem_singleton_self _), fun m mem => ?_, rfl, rfl⟩
  obtain mem | mem := List.mem_append.mp mem
  · exact .inl (List.mem_singleton.mp mem)
  · exact .inr (List.mem_singleton.mp mem)

theorem calibrated_once_cold : ∃ handle tls handle' tls',
    (coldOpen oldFile).out = .ok (handle, tls) ∧
    (coldOpen (coldOpen oldFile).state.disk).out = .ok (handle', tls') ∧
    handle'.calib = handle.calib := by
  obtain ⟨handle, tls, out, type⟩ := opensType1_value coldOpen_twice.1
  obtain ⟨handle', tls', out', type'⟩ := opensType1_value coldOpen_twice.2
  obtain ⟨moves, last, move, move', run, mem, mem', only, first, second⟩ :=
    starts_twice (C := plainPrimitives) (P := Pairing.vendorCurve)
      (w := far plainPrimitives plainAuthority pairedSensor) oneFile devices190 oldFile coldStart
  have opened := out
  have opened' := out'
  unfold coldOpen at opened opened'
  rw [opened] at first
  rw [opened'] at second
  refine ⟨handle, tls, handle', tls', out, out', calibrated_once oneFile_keeping
    ⟨fun _ => rfl, fun _ _ => rfl⟩ run (fun m found h t opened => ?_) mem mem' first second⟩
  obtain rfl | rfl := only m found
  · cases first.symm.trans opened
    exact type
  · cases second.symm.trans opened
    exact type'

end Starts

end ValidityFprintd.Device
