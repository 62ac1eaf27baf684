import ValidityFprintd.Capture

/-! Calibration: frames without a finger, averaged and folded into the data that later
capture commands carry. It reads image data only. -/

namespace ValidityFprintd
open Effect

namespace Calibration

/-- `x.clamp(-128, 127) as u8`. -/
def clip (x : Int) : UInt8 := UInt8.ofNat ((max (-128) (min x 127)) % 256).toNat

/-- Rescale a raw calibration sample. The source divides floats and truncates; no quotient of
a byte is near enough to an integer to be rounded past it. -/
def scale (x : UInt8) : UInt8 := clip (Int.tdiv (((x.toNat : Int) - 0x80) * 10) 34)

def add (l r : UInt8) : UInt8 := clip (l.toInt8.toInt + r.toInt8.toInt)

def column (lines : List Bytes) (col : Nat) : Nat :=
  (lines.filterMap fun l => l[col]?).foldl (fun sum v => sum + v.toNat) 0

/-- Average interleaved calibration lines down to one frame. Chunks of no width and averages
over no frame panic. -/
def average (raw : Bytes) (cfg : SensorConfig) : Outcome String Bytes :=
  let frameSize := (cfg.linesPerFrame * cfg.bytesPerLine).toNat
  let width := cfg.bytesPerLine.toNat
  let frames := cfg.calibrationFrames.toNat
  if cfg.typeInfo.linesPerCalibrationData = 0 then .panic
  else
    let interleave := (cfg.linesPerFrame / cfg.typeInfo.linesPerCalibrationData).toNat
    if 1 < interleave then do
      -- the first frame is discarded while the sensor settles
      let base := if 1 < frames then frameSize else 0
      let frame ← Outcome.ofOption "calibration data shorter than one frame"
        (Bytes.range? raw base (base + frameSize))
      if width = 0 then .panic
      else .ok <| (Bytes.chunks (interleave * width) frame).flatMap fun group =>
        let lines := Bytes.chunks width group
        (List.range width).map fun col => UInt8.ofNat (column lines col / lines.length)
    else do
      let base := if 1 < frames then frameSize * 2 else 0
      let frames := if 1 < frames then frames - 2 else frames
      let kept ← Outcome.ofOption "calibration data shorter than expected"
        (Bytes.range? raw base (base + frameSize * frames))
      if frameSize = 0 ∨ frames = 0 then .panic
      else .ok <| (List.range frameSize).map fun col =>
        UInt8.ofNat (column (Bytes.chunks frameSize kept) col / frames)

/-- Fold a calibration frame into the accumulated data. The first 8 bytes of a line are a
header, which is never scaled or combined. -/
def processCalibrationResults (calib : Calibration) (cooked : Bytes) (cfg : SensorConfig) :
    Outcome String Calibration :=
  let bpl := cfg.bytesPerLine.toNat
  if bpl = 0 then .panic
  else
    let frame := (Bytes.chunks bpl cooked).flatMap fun line =>
      line.take 8 ++ (line.drop 8).map scale
    if calib.calibData.isEmpty then .ok ⟨frame⟩
    else .ok ⟨((Bytes.chunks bpl calib.calibData).zip (Bytes.chunks bpl frame)).flatMap
      fun (ll, rr) => ll.take 8 ++ List.zipWith add (ll.drop 8) (rr.drop (min ll.length 8))⟩

section Device

variable {S : Type} (w : Usb.World S) (cfg : SensorConfig)

def blankFrame (calib : Calibration) (c : String) : Usb.Drv S Bytes := do
  let cmd ← Act.ofOutcome (buildCmd02 calib .calibrate cfg)
  Usb.exchange w cmd c
  let raw ← w.ask .readData
  let raw ← Act.lift raw
  Act.ofOutcome (average raw cfg)

theorem blankFrame_yields {calib : Calibration} {cmd raw rsp img : Bytes} {c : String} {s t u : S}
    (built : buildCmd02 calib .calibrate cfg = .ok cmd) (answered : w (.cmd cmd) s = (.ok rsp, t))
    (accepted : Usb.checkStatus rsp = .ok ()) (read : w .readData t = (.ok raw, u))
    (averaged : average raw cfg = .ok img) : Yields (blankFrame w cfg calib c) s img u := by
  refine Yields.bind_iff.mpr ⟨cmd, s, Yields.ofOutcome_iff.mpr ⟨built, rfl⟩, ?_⟩
  have sent : Yields (Usb.exchange w cmd c) s () t :=
    Yields.bind_iff.mpr ⟨rsp, t, Usb.request_yields.mpr ⟨answered, accepted⟩,
      Yields.ret_iff.mpr ⟨rfl, rfl⟩⟩
  refine Yields.bind_iff.mpr ⟨(), t, sent, ?_⟩
  refine Yields.bind_iff.mpr ⟨.ok raw, u, World.ask_yields.mpr read, ?_⟩
  refine Yields.bind_iff.mpr ⟨raw, u, Yields.lift_iff.mpr ⟨rfl, rfl⟩, ?_⟩
  exact Yields.ofOutcome_iff.mpr ⟨averaged, rfl⟩

def calibrateFrom : Nat → Nat → Calibration → Usb.Drv S Calibration
  | 0, _, calib => Act.ret calib
  | n + 1, i, calib => do
    let cooked ← blankFrame w cfg calib s!"calibration iteration {i}"
    let calib ← Act.ofOutcome (processCalibrationResults calib cooked cfg)
    calibrateFrom n (i + 1) calib

def calibrate (iterations : UInt32) (calib : Calibration) : Usb.Drv S Calibration :=
  calibrateFrom w cfg iterations.toNat 0 calib

end Device

end Calibration

end ValidityFprintd
