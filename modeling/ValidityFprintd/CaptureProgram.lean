import ValidityFprintd.Timeslot

/-! The capture command: the sensor's capture program, patched for a mode. -/

namespace ValidityFprintd
open Effect Timeslot

inductive CaptureMode where
  | calibrate
  | identify
  | enroll
  deriving DecidableEq

/-- The geometry of a sensor family; `calibrationBlob` is the decoded blob. -/
structure SensorTypeInfo where
  repeatMultiplier : UInt32
  linesPerCalibrationData : UInt32
  lineWidth : UInt32
  calibrationBlob : Bytes

structure SensorConfig where
  typeInfo : SensorTypeInfo
  captureProg : Bytes
  linesPerFrame : UInt32
  bytesPerLine : UInt32
  keyCalibrationLine : UInt32
  calibrationFrames : UInt32
  factoryCalibrationValues : Bytes
  factoryCalibData : Option Bytes
  lineUpdateType1 : Bool

structure Calibration where
  calibData : Bytes

namespace Calibration

def chunkReplyConfig : UInt16 := 0x17

def chunkWtf4e : UInt16 := 0x4e

def chunkFingerDetect : UInt16 := 0x26

def chunkImageRecon : UInt16 := 0x2e

def chunkInterleave : UInt16 := 0x44

def chunkLineUpdate : UInt16 := 0x30

def chunkLineUpdateTransform : UInt16 := 0x43

def regCalibration : UInt32 := 0x8000203c

def regCalibrationAlt : UInt32 := 0x800020fc

def identify4e : Bytes :=
  [0xfb, 0xb2, 0x0f, 0x00, 0x00, 0x00, 0x0f, 0x00, 0x30, 0x00, 0x00, 0x00, 0x87, 0x00, 0x02, 0x00,
    0x67, 0x00, 0x0a, 0x00, 0x01, 0x80, 0x00, 0x00, 0x0a, 0x02, 0x00, 0x00, 0x0b, 0x19, 0x00,
    0x00, 0x88, 0x13, 0xb8, 0x0b, 0x01, 0x09, 0x10, 0x00]

def identify2e : Bytes :=
  [0x02, 0x00, 0x18, 0x00, 0x02, 0x00, 0x00, 0x00, 0x70, 0x00, 0x70, 0x00, 0x4d, 0x01, 0x00, 0x00,
    0xa0, 0x00, 0x8c, 0x00, 0x3c, 0x32, 0x32, 0x1e, 0x3c, 0x0a, 0x02, 0x02]

def enroll26 : Bytes :=
  [0xfb, 0xb2, 0x0f, 0x00, 0x00, 0x00, 0x0f, 0x00, 0x30, 0x00, 0x00, 0x00, 0x87, 0x00, 0x02, 0x00,
    0x67, 0x00, 0x0a, 0x00, 0x01, 0x80, 0x00, 0x00, 0x0a, 0x02, 0x00, 0x00, 0x0b, 0x19, 0x00,
    0x00, 0x50, 0xc3, 0x60, 0xea, 0x01, 0x09, 0x10, 0x00]

def enroll2e : Bytes :=
  [0x02, 0x00, 0x18, 0x00, 0x23, 0x00, 0x00, 0x00, 0x70, 0x00, 0x70, 0x00, 0x4d, 0x01, 0x00, 0x00,
    0xa0, 0x00, 0x8c, 0x00, 0x3c, 0x32, 0x32, 0x1e, 0x3c, 0x0a, 0x02, 0x02]

def t2Identify4e : Bytes :=
  [0xfb, 0xb2, 0x0f, 0x00, 0x00, 0x00, 0x0f, 0x00, 0x30, 0x00, 0x00, 0x00, 0x60, 0x01, 0x02, 0x00,
    0x40, 0x01, 0x0a, 0x00, 0x01, 0x80, 0x00, 0x00, 0x0a, 0x02, 0x00, 0x00, 0x0b, 0x19, 0x00,
    0x00, 0x88, 0x13, 0xb8, 0x0b, 0x01, 0x09, 0x10, 0x00]

def t2Identify2e : Bytes :=
  [0x02, 0x00, 0x18, 0x00, 0x02, 0x00, 0x00, 0x00, 0x90, 0x00, 0x90, 0x00, 0x4d, 0x01, 0x00, 0x00,
    0x90, 0x01, 0x7c, 0x01, 0x3c, 0x32, 0x32, 0x32, 0x64, 0x0a, 0x02, 0x01]

def t2Enroll26 : Bytes :=
  [0xfb, 0xb2, 0x0f, 0x00, 0x00, 0x00, 0x0f, 0x00, 0x30, 0x00, 0x00, 0x00, 0x60, 0x01, 0x02, 0x00,
    0x40, 0x01, 0x0a, 0x00, 0x01, 0x80, 0x00, 0x00, 0x0a, 0x02, 0x00, 0x00, 0x0b, 0x19, 0x00,
    0x00, 0x50, 0xc3, 0x60, 0xea, 0x01, 0x09, 0x10, 0x00]

def t2Enroll2e : Bytes :=
  [0x02, 0x00, 0x18, 0x00, 0x23, 0x00, 0x00, 0x00, 0x90, 0x00, 0x90, 0x00, 0x4d, 0x01, 0x00, 0x00,
    0x90, 0x01, 0x7c, 0x01, 0x3c, 0x32, 0x32, 0x32, 0x64, 0x0a, 0x02, 0x01]

def widthOf : Nat → UInt8 → Nat
  | 0, _ => 0
  | fuel + 1, span => if 0 < span then widthOf fuel (span >>> 1) + 1 else 0

def setBit (out : Bytes) (pos : Nat) : Bytes :=
  out.modify (pos / 8) fun x => x ||| UInt8.ofNat (2 ^ (pos % 8))

def packValue (u j : Nat) (val : UInt8) (out : Bytes) : Bytes :=
  (List.range u).foldl
    (fun out bit => if val.toNat.testBit bit then setBit out (j * u + bit) else out) out

/-- A dense little-endian bit stream of the values over their minimum: its width, the
minimum and the bytes. -/
def bitpack (b : Bytes) : UInt8 × UInt8 × Bytes :=
  match b.min?, b.max? with
  | some m, some top =>
    let u := widthOf 8 (top - m)
    if u = 0 then (0, m, [])
    else
      let zeros := List.replicate ((u * b.length + 7) / 8) 0
      (UInt8.ofNat u, m, b.zipIdx.foldl (fun out (v, j) => packValue u j (v - m) out) zeros)
  | _, _ => (0, 0, [])

structure Line where
  mask : UInt32
  flags : UInt32
  data : Bytes
  v0 : UInt8
  v1 : UInt8
  v2 : UInt16
  deriving DecidableEq

def Line.transformIndex (l : Line) : UInt32 := (l.flags &&& 0x00f00000) >>> 0x14

/-- The operand of the instruction at `pc`, in a transform slot. -/
def anchorFlags (pc : Nat) (slot kind : UInt32) : UInt32 :=
  let operand : UInt32 := UInt32.ofNat pc + 1
  operand ||| slot <<< 0x14 ||| kind

/-- Scale the sampling of the table, giving up at any opcode that is not known. -/
def patchTimeslotFrom (incAddress : Bool) (mult : UInt32) : Nat → Bytes → Nat → Bytes
  | 0, b, _ => b
  | fuel + 1, b, i =>
    if i + 3 < b.length then
      match b[i]?, b[i + 1]?, b[i + 2]? with
      | some x, some y, some z =>
        if x &&& 0xf8 = 0x10 then
          let b :=
            if 1 < z then
              let scaled := b.set (i + 2) (z * mult.toUInt8)
              if incAddress then scaled.set (i + 1) (y + 1) else scaled
            else b
          patchTimeslotFrom incAddress mult fuel b (i + 3)
        else if x = 0 then patchTimeslotFrom incAddress mult fuel b (i + 1)
        else if x = 7 then patchTimeslotFrom incAddress mult fuel b (i + 2)
        else b
      | _, _, _ => b
    else b

def patchTimeslotTable (b : Bytes) (incAddress : Bool) (mult : UInt32) : Bytes :=
  patchTimeslotFrom incAddress mult b.length b 0

/-- Go through the instructions from `pc` on, to the first that ends the table. -/
def scanTable {α : Type} (f : α → Nat → Insn → α) (b : Bytes) : Nat → Nat → α → Outcome String α
  | 0, pc, acc => if pc < b.length then .stuck else .ok acc
  | fuel + 1, pc, acc =>
    if pc < b.length then do
      let insn ← decodeInsn (b.drop pc)
      if insn.op = 1 ∨ insn.op = 2 ∨ insn.op = 4 then .ok acc
      else scanTable f b fuel (pc + insn.size) (f acc pc insn)
    else .ok acc

/-- Point the calibration register at the trim value for the middle of the sensor. -/
def patchTimeslotAgain (b : Bytes) (cfg : SensorConfig) : Outcome String Bytes := do
  let target ← scanTable (fun target _ insn => if insn.op = 11 then insn.operands[1]? else target)
    b b.length 0 none
  match target with
  | none => .ok b
  | some target => do
    let found ← scanTable (fun found pc insn =>
      if insn.op = opRegisterWrite ∧ insn.operands.head? = some regCalibration then some pc
      else found) b b.length target.toNat none
    match found with
    | none => .ok b
    | some found => do
      let trim ← Outcome.ofOption "key calibration line is outside the trim table"
        cfg.factoryCalibrationValues[cfg.keyCalibrationLine.toNat]?
      if found + 1 < b.length then .ok (b.set (found + 1) trim) else .panic

/-- Bytes per calibration line; a geometry without lines divides by zero. -/
def bytesPerCalibrationLine (calib : Calibration) (cfg : SensorConfig) : Outcome String Nat :=
  if cfg.typeInfo.linesPerCalibrationData = 0 then .panic
  else .ok (calib.calibData.length / cfg.typeInfo.linesPerCalibrationData.toNat)

def getKeyLine (calib : Calibration) (cfg : SensorConfig) : Outcome String Bytes :=
  let width := cfg.typeInfo.lineWidth.toNat
  if calib.calibData.isEmpty then .ok (List.replicate width 0)
  else do
    let bpcl ← bytesPerCalibrationLine calib cfg
    let off := 8 + bpcl * cfg.keyCalibrationLine.toNat
    let key := Bytes.padTo width ((Bytes.range? calib.calibData off (off + width)).getD [])
    -- the firmware reserves the value 5
    .ok (key.map fun v => if v = 5 then v - 1 else v)

def patchedTable (mode : CaptureMode) (cfg : SensorConfig) (body : Bytes) :
    Outcome String Bytes :=
  let patched := patchTimeslotTable body true cfg.typeInfo.repeatMultiplier
  if mode = .calibrate then .ok patched else patchTimeslotAgain patched cfg

/-- Patch the timeslot chunks, and return the last table with them. -/
def patchTables (mode : CaptureMode) (cfg : SensorConfig) (place : Bytes → Outcome String Bytes) :
    List Chunk → Bytes → Outcome String (List Chunk × Bytes)
  | [], tst => .ok ([], tst)
  | c :: cs, tst =>
    if c.kind ≠ chunkTimeslotTable then do
      let (rest, tst) ← patchTables mode cfg place cs tst
      .ok (c :: rest, tst)
    else do
      let patched ← patchedTable mode cfg c.body
      let body ← place patched
      let (rest, tst) ← patchTables mode cfg place cs patched
      .ok (⟨c.kind, body⟩ :: rest, tst)

def modeChunks (mode : CaptureMode) (id4e id2e enr26 enr2e : Bytes) : List Chunk :=
  match mode with
  | .identify => [⟨chunkWtf4e, id4e⟩, ⟨chunkImageRecon, id2e⟩]
  | .enroll => [⟨chunkFingerDetect, enr26⟩, ⟨chunkImageRecon, enr2e⟩]
  | .calibrate => []

/-- The sensor reads the tables as dword arrays. -/
def padDword (data : Bytes) : Bytes :=
  if data.length % 4 = 0 then data else Bytes.padTo (data.length + (4 - data.length % 4)) data

def lineHeads (lines : List Line) : Bytes :=
  Bytes.le32 (UInt32.ofNat lines.length) ++
    lines.flatMap fun l => Bytes.le32 l.mask ++ Bytes.le32 l.flags

/-- Per-pixel calibration, transposed into stripes of four columns. -/
def stripes (calibData : Bytes) (bpcl : Nat) : List Line :=
  (List.range 28).map fun k =>
    { mask := 0xffffffff
      flags := UInt32.ofNat (4 * k) ||| 0x85000000
      data := (List.range 112).flatMap fun j =>
        let p := 8 + j * bpcl + 4 * k
        Bytes.padTo 4 ((Bytes.range? calibData p (p + 4)).getD [])
      v0 := 0
      v1 := 0
      v2 := 0 }

def lineUpdateType1 (calib : Calibration) (mode : CaptureMode) (chunks : List Chunk)
    (cfg : SensorConfig) : Outcome String (List Chunk) := do
  let width := cfg.typeInfo.lineWidth.toNat
  let (chunks, tst) ← patchTables mode cfg (fun patched => do
    let key ← getKeyLine calib cfg
    .ok (key ++ patched.drop width)) chunks []
  Outcome.bailIf (tst.isEmpty = true) "capture program has no timeslot table chunk"
  let enableRx ← findNthInsn tst 6 2
  let (pc, _) ← Outcome.ofOption "timeslot table has no second Enable Rx" enableRx
  -- transform slots 0 and 1 are reserved
  let blob : Line :=
    { mask := 0xff
      flags := anchorFlags pc 2 0x07000000
      data := cfg.typeInfo.calibrationBlob
      v0 := 0xf
      v1 := 0
      v2 := 0 }
  let write ← findNthRegwrite tst regCalibration 1
  let (pc, _) ← Outcome.ofOption "timeslot table has no calibration register write" write
  let (u, m, packed) := bitpack cfg.factoryCalibrationValues
  let trims : Line :=
    { mask := 0xff
      flags := anchorFlags pc 3 0x07000000
      data := packed
      v0 := (u - 1) ||| 8
      v1 := m
      v2 := 0 }
  let pixels ←
    if calib.calibData.isEmpty then .ok []
    else do
      let bpcl ← bytesPerCalibrationLine calib cfg
      .ok (stripes calib.calibData bpcl)
  let lines := (blob :: trims :: pixels).map fun l => { l with data := padDword l.data }
  let lineUpdate := lineHeads lines ++
    (lines.filter fun l => l.transformIndex ≤ 1).flatMap Line.data
  let transform := (lines.filter fun l => 1 < l.transformIndex).flatMap fun l =>
    [l.v0, l.v1] ++ Bytes.le16 l.v2 ++ l.data
  .ok (chunks ++ [⟨chunkReplyConfig, []⟩] ++
    modeChunks mode identify4e identify2e enroll26 enroll2e ++
    [⟨chunkInterleave, Bytes.le32 1⟩, ⟨chunkLineUpdate, lineUpdate⟩,
      ⟨chunkLineUpdateTransform, transform⟩])

def anchored (anchor : Option (Nat × Nat)) (data : Bytes) : Outcome String Line := do
  let (pc, _) ← Outcome.ofOption "timeslot table is missing an expected anchor" anchor
  .ok { mask := 0xff
        flags := anchorFlags pc 0 0x03000000
        data := padDword data
        v0 := 0
        v1 := 0
        v2 := 0 }

def lineUpdateType2 (mode : CaptureMode) (chunks : List Chunk) (cfg : SensorConfig) :
    Outcome String (List Chunk) := do
  let (chunks, tst) ← patchTables mode cfg (fun patched => .ok patched) chunks []
  Outcome.bailIf (tst.isEmpty = true) "capture program has no timeslot table chunk"
  let factoryCalibData ← Outcome.ofOption
    ("type-2 capture needs factory calibration data (subtag 7), " ++
      "which this sensor did not report") cfg.factoryCalibData
  let enableRx ← findNthInsn tst 6 2
  let alt ← findNthRegwrite tst regCalibrationAlt 1
  let write ← findNthRegwrite tst regCalibration 1
  let blob ← anchored enableRx cfg.typeInfo.calibrationBlob
  let factory ← anchored alt factoryCalibData
  let trims ← anchored write cfg.factoryCalibrationValues
  let lines := [blob, factory, trims]
  .ok (chunks ++ [⟨chunkReplyConfig, []⟩] ++
    modeChunks mode t2Identify4e t2Identify2e t2Enroll26 t2Enroll2e ++
    [⟨chunkLineUpdate, lineHeads lines ++ lines.flatMap Line.data⟩])

def buildCmd02 (calib : Calibration) (mode : CaptureMode) (cfg : SensorConfig) :
    Outcome String Bytes := do
  let program ← splitChunks cfg.captureProg
  let chunks ←
    (if cfg.lineUpdateType1 then lineUpdateType1 calib mode program cfg
      else lineUpdateType2 mode program cfg)
  let reqLines : UInt16 :=
    if mode = .calibrate then (cfg.calibrationFrames * cfg.linesPerFrame + 1).toUInt16 else 0
  .ok (0x02 :: (Bytes.le16 cfg.bytesPerLine.toUInt16 ++ Bytes.le16 reqLines ++
    mergeChunks chunks))

theorem buildCmd02_head {calib : Calibration} {mode : CaptureMode} {cfg : SensorConfig}
    {cmd : Bytes} (h : buildCmd02 calib mode cfg = .ok cmd) : ∃ rest, cmd = 0x02 :: rest := by
  unfold buildCmd02 at h
  obtain ⟨program, _, h⟩ := Outcome.bind_eq_ok.mp h
  obtain ⟨chunks, _, h⟩ := Outcome.bind_eq_ok.mp h
  exact ⟨_, (Outcome.ok.inj h).symm⟩

end Calibration

end ValidityFprintd
