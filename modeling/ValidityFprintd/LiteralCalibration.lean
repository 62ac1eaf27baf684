import Mathlib.Algebra.GroupWithZero.Nat
import ValidityFprintd.LiteralReplies
import ValidityFprintd.SensorFamily
import ValidityFprintd.Calibrate

/-! The calibration arithmetic as the source writes it, in words of 32 bits and sizes of 64. For
the sensors that probing supports no product, sum or quotient of it panics, whatever image the
sensor returns. -/

namespace ValidityFprintd.Literal
open Effect

/-- `b.chunks(n)`, which panics for chunks of no length. -/
def chunksOf (b : Bytes) (n : Nat) : Outcome String (List Bytes) :=
  if n = 0 then .panic else .ok (Bytes.chunks n b)

theorem chunksOf_eq {b : Bytes} {n : Nat} (hn : 0 < n) : chunksOf b n = .ok (Bytes.chunks n b) :=
  if_neg (Nat.ne_of_gt hn)

section Columns

/-- The sum of a column, over the lines that reach so far, in 32 bits. -/
def column (lines : List Bytes) (col : Nat) : Outcome String UInt32 :=
  (lines.filterMap fun l => l[col]?).foldlM (fun sum v => Checked.add32 sum v.toUInt32) 0

def mean (lines : List Bytes) (count col : Nat) : Outcome String UInt8 := do
  let sum ← column lines col
  let quotient ← Checked.div32 sum (UInt32.ofNat count)
  .ok quotient.toUInt8

variable {lines : List Bytes} {col count : Nat}

theorem foldl_bytes (vs : List UInt8) (n : Nat) :
    vs.foldl (fun sum v => sum + v.toNat) n = n + (vs.map UInt8.toNat).sum := by
  induction vs generalizing n with
  | nil => rfl
  | cons v vs ih => rw [List.foldl_cons, ih, List.map_cons, List.sum_cons, Nat.add_assoc]

theorem foldlM_add32 (vs : List UInt8) (sum : UInt32) :
    vs.foldlM (fun sum v => (Checked.add32 sum v.toUInt32 : Outcome String UInt32)) sum =
      if sum.toNat + (vs.map UInt8.toNat).sum < 2 ^ 32 then
        .ok (UInt32.ofNat (sum.toNat + (vs.map UInt8.toNat).sum))
      else .panic := by
  induction vs generalizing sum with
  | nil =>
    have word := sum.toNat_lt
    rw [List.map_nil, List.sum_nil, Nat.add_zero, if_pos word, UInt32.ofNat_toNat]
    rfl
  | cons v vs ih =>
    have word := v.toNat_toUInt32
    rw [List.foldlM_cons, List.map_cons, List.sum_cons, ← Nat.add_assoc]
    by_cases room : sum.toNat + v.toNat < 2 ^ 32
    · have next : (sum + v.toUInt32).toNat = sum.toNat + v.toNat := by
        rw [UInt32.toNat_add]
        omega
      rw [Checked.add32_eq (by omega), Outcome.ok_bind, ih, next]
    · rw [Checked.add32, if_neg (by omega), Outcome.panic_bind, if_neg (by omega)]

theorem column_sum (lines : List Bytes) (col : Nat) :
    Calibration.column lines col = ((lines.filterMap fun l => l[col]?).map UInt8.toNat).sum :=
  (foldl_bytes _ 0).trans (Nat.zero_add _)

theorem column_le (lines : List Bytes) (col : Nat) :
    Calibration.column lines col ≤ 255 * lines.length := by
  have each : ∀ vs : List UInt8, (vs.map UInt8.toNat).sum ≤ 255 * vs.length := by
    intro vs
    induction vs with
    | nil => exact Nat.le_refl 0
    | cons v vs ih =>
      have byte := v.toNat_lt
      rw [List.map_cons, List.sum_cons, List.length_cons]
      omega
  have few : (lines.filterMap fun l => l[col]?).length ≤ lines.length :=
    List.length_filterMap_le _ _
  have bound := each (lines.filterMap fun l => l[col]?)
  rw [column_sum]
  omega

theorem mean_ite (some' : 0 < count) (small : count < 2 ^ 32) :
    mean lines count col = if Calibration.column lines col < 2 ^ 32 then
      .ok (UInt8.ofNat (Calibration.column lines col / count)) else .panic := by
  have divisor : (UInt32.ofNat count).toNat = count := by
    rw [UInt32.toNat_ofNat']
    omega
  have nonzero : UInt32.ofNat count ≠ 0 := by
    intro zero
    rw [zero, UInt32.toNat_zero] at divisor
    omega
  rw [mean, column, foldlM_add32, UInt32.toNat_zero, Nat.zero_add, ← column_sum]
  split
  case isTrue fits =>
    have value : (UInt32.ofNat (Calibration.column lines col)).toNat =
        Calibration.column lines col := by
      rw [UInt32.toNat_ofNat']
      omega
    rw [Outcome.ok_bind, Checked.div32_eq nonzero, Outcome.ok_bind]
    refine congrArg Outcome.ok (UInt8.toNat_inj.mp ?_)
    rw [UInt32.toNat_toUInt8, UInt32.toNat_div, divisor, value, UInt8.toNat_ofNat']
  case isFalse => rfl

theorem mean_eq (few : 255 * lines.length < 2 ^ 32) (some' : 0 < count) (small : count < 2 ^ 32) :
    mean lines count col = .ok (UInt8.ofNat (Calibration.column lines col / count)) :=
  (mean_ite some' small).trans (if_pos (Nat.lt_of_le_of_lt (column_le lines col) few))

end Columns

section Averages

/-- Many lines a calibration line: they are averaged within a frame. -/
def averageLines (raw : Bytes) (frameSize interleave width frames : Nat) :
    Outcome String Bytes := do
  -- the first frame is discarded while the sensor settles
  let base := if 1 < frames then frameSize else 0
  let stop ← Checked.add base frameSize
  let frame ← Outcome.ofOption "calibration data shorter than one frame"
    (Bytes.range? raw base stop)
  let _ ← Checked.div frameSize interleave
  let size ← Checked.mul interleave width
  let groups ← chunksOf frame size
  let out ← Outcome.each (fun group => do
    let lines ← chunksOf group width
    Outcome.each (mean lines lines.length) (List.range width)) groups
  .ok out.flatten

/-- One line a calibration line: the frames are averaged. -/
def averageFrames (raw : Bytes) (frameSize frames : Nat) : Outcome String Bytes := do
  let (frames, base) ←
    if 1 < frames then do
      let frames ← Checked.sub frames 2
      let base ← Checked.mul frameSize 2
      .ok (frames, base)
    else .ok (frames, 0)
  let size ← Checked.mul frameSize frames
  let stop ← Checked.add base size
  let kept ← Outcome.ofOption "calibration data shorter than expected"
    (Bytes.range? raw base stop)
  let kept ← chunksOf kept frameSize
  Outcome.each (mean kept frames) (List.range frameSize)

def average (raw : Bytes) (cfg : SensorConfig) : Outcome String Bytes := do
  let frameSize ← Checked.mul32 cfg.linesPerFrame cfg.bytesPerLine
  let interleave ← Checked.div32 cfg.linesPerFrame cfg.typeInfo.linesPerCalibrationData
  if 1 < interleave.toNat then
    averageLines raw frameSize.toNat interleave.toNat cfg.bytesPerLine.toNat
      cfg.calibrationFrames.toNat
  else averageFrames raw frameSize.toNat cfg.calibrationFrames.toNat

theorem averageLines_eq {raw : Bytes} {frameSize interleave width frames : Nat}
    (small : frameSize < 2 ^ 20) (narrow : interleave * width < 2 ^ 20) (many : 0 < interleave)
    (wide : 0 < width) :
    averageLines raw frameSize interleave width frames = (do
      let base := if 1 < frames then frameSize else 0
      let frame ← Outcome.ofOption "calibration data shorter than one frame"
        (Bytes.range? raw base (base + frameSize))
      .ok <| (Bytes.chunks (interleave * width) frame).flatMap fun group =>
        let lines := Bytes.chunks width group
        (List.range width).map fun col =>
          UInt8.ofNat (Calibration.column lines col / lines.length)) := by
  have base : (if 1 < frames then frameSize else 0) ≤ frameSize := by
    split
    · exact Nat.le_refl _
    · exact Nat.zero_le _
  have group : 0 < interleave * width := Nat.mul_pos many wide
  rw [averageLines, Checked.add_eq (by omega), Outcome.ok_bind]
  refine Checked.bind_congr fun frame _ => ?_
  rw [Checked.div_eq (by omega), Outcome.ok_bind, Checked.mul_eq (by omega), Outcome.ok_bind,
    chunksOf_eq group, Outcome.ok_bind, Outcome.each_ok fun part mem => ?_, Outcome.ok_bind]
  · rw [List.flatMap_def]
  · obtain ⟨some', fits⟩ := Bytes.chunks_sound group frame part mem
    have few := Bytes.chunks_length_le wide part
    have line := List.length_pos_iff.mpr (Bytes.chunks_ne_nil wide some')
    rw [chunksOf_eq wide, Outcome.ok_bind]
    exact Outcome.each_ok fun col _ => mean_eq (by omega) line (by omega)

theorem averageFrames_eq {raw : Bytes} {frameSize frames : Nat} (small : frameSize < 2 ^ 20)
    (some' : 0 < frameSize) (settled : 2 < frames) (few : frames < 2 ^ 4) :
    averageFrames raw frameSize frames = (do
      let kept ← Outcome.ofOption "calibration data shorter than expected"
        (Bytes.range? raw (frameSize * 2) (frameSize * 2 + frameSize * (frames - 2)))
      .ok <| (List.range frameSize).map fun col =>
        UInt8.ofNat (Calibration.column (Bytes.chunks frameSize kept) col / (frames - 2))) := by
  have product : frameSize * (frames - 2) ≤ 2 ^ 20 * 2 ^ 4 := Nat.mul_le_mul (by omega) (by omega)
  rw [averageFrames, if_pos (by omega), Checked.sub_eq (by omega), Outcome.ok_bind,
    Checked.mul_eq (by omega), Outcome.ok_bind, Outcome.ok_bind]
  dsimp only
  rw [Checked.mul_eq (by omega), Outcome.ok_bind, Checked.add_eq (by omega), Outcome.ok_bind]
  refine Checked.bind_congr fun kept sliced => ?_
  have size := Bytes.range?_length (Outcome.ofOption_eq_ok.mp sliced)
  have lines := Bytes.chunks_length_le some' kept
  rw [chunksOf_eq some', Outcome.ok_bind]
  exact Outcome.each_ok fun col _ => mean_eq (by omega) (by omega) (by omega)

/-- On the supported sensors the source's words hold every number of an average. -/
theorem average_eq {cfg : SensorConfig} (supported : Sensor.Supported cfg) (raw : Bytes) :
    average raw cfg = Calibration.average raw cfg := by
  cases supported with
  | type1 values data =>
    have size : (Checked.mul32 224 0x78 : Outcome String UInt32) = .ok 26880 :=
      Checked.mul32_eq (by decide)
    have interleave : (Checked.div32 224 112 : Outcome String UInt32) = .ok 2 :=
      Checked.div32_eq (by decide)
    unfold average Sensor.config199
    dsimp only
    rw [size, interleave, Outcome.ok_bind, Outcome.ok_bind, if_pos (by decide),
      averageLines_eq (by decide) (by decide) (by decide) (by decide)]
    unfold Calibration.average
    dsimp only
    rw [if_pos (show 1 < UInt32.toNat 3 by decide), if_neg (by decide), if_pos (by decide)]
    rfl
  | type2 values data =>
    have size : (Checked.mul32 144 0x98 : Outcome String UInt32) = .ok 21888 :=
      Checked.mul32_eq (by decide)
    have interleave : (Checked.div32 144 144 : Outcome String UInt32) = .ok 1 :=
      Checked.div32_eq (by decide)
    unfold average Sensor.configDb
    dsimp only
    rw [size, interleave, Outcome.ok_bind, Outcome.ok_bind, if_neg (by decide),
      averageFrames_eq (by decide) (by decide) (by decide) (by decide)]
    unfold Calibration.average
    dsimp only
    rw [if_neg (by decide), if_neg (by decide)]
    rfl

end Averages

section Results

/-- A line's header is kept, and its samples are rescaled. -/
def scaledLine (line : Bytes) : Outcome String Bytes := do
  let split := min line.length 8
  let header ← Checked.sliceTo line split
  let samples ← Checked.sliceFrom line split
  .ok (header ++ samples.map Calibration.scale)

def combinedLine (lines : Bytes × Bytes) : Outcome String Bytes := do
  let (ll, rr) := lines
  let split := min ll.length 8
  let header ← Checked.sliceTo ll split
  let left ← Checked.sliceFrom ll split
  let right ← Checked.sliceFrom rr (min split rr.length)
  .ok (header ++ List.zipWith Calibration.add left right)

def processCalibrationResults (calib : Calibration) (cooked : Bytes) (cfg : SensorConfig) :
    Outcome String Calibration := do
  let bpl := cfg.bytesPerLine.toNat
  let lines ← chunksOf cooked bpl
  let scaled ← Outcome.each scaledLine lines
  let frame := scaled.flatten
  if calib.calibData.isEmpty then .ok ⟨frame⟩
  else do
    let prev ← chunksOf calib.calibData bpl
    let next ← chunksOf frame bpl
    let combined ← Outcome.each combinedLine (prev.zip next)
    .ok ⟨combined.flatten⟩

theorem take_min (b : Bytes) (n : Nat) : b.take (min b.length n) = b.take n := by
  rcases Nat.le_total b.length n with short | long
  · rw [Nat.min_eq_left short, List.take_length, List.take_of_length_le short]
  · rw [Nat.min_eq_right long]

theorem drop_min (b : Bytes) (n : Nat) : b.drop (min b.length n) = b.drop n := by
  rcases Nat.le_total b.length n with short | long
  · rw [Nat.min_eq_left short, List.drop_length, List.drop_eq_nil_of_le short]
  · rw [Nat.min_eq_right long]

theorem scaledLine_eq (line : Bytes) :
    scaledLine line = .ok (line.take 8 ++ (line.drop 8).map Calibration.scale) := by
  rw [scaledLine, Checked.sliceTo_eq (Nat.min_le_left _ _), Outcome.ok_bind,
    Checked.sliceFrom_eq (Nat.min_le_left _ _), Outcome.ok_bind, take_min, drop_min]

theorem combinedLine_eq (ll rr : Bytes) :
    combinedLine (ll, rr) = .ok
      (ll.take 8 ++ List.zipWith Calibration.add (ll.drop 8) (rr.drop (min ll.length 8))) := by
  unfold combinedLine
  dsimp only
  rw [Checked.sliceTo_eq (Nat.min_le_left _ _), Outcome.ok_bind,
    Checked.sliceFrom_eq (Nat.min_le_left _ _), Outcome.ok_bind,
    Checked.sliceFrom_eq (Nat.min_le_right _ _), Outcome.ok_bind, take_min, drop_min,
    Nat.min_comm (min ll.length 8), drop_min]

theorem processCalibrationResults_eq {cfg : SensorConfig} (wide : 0 < cfg.bytesPerLine.toNat)
    (calib : Calibration) (cooked : Bytes) :
    processCalibrationResults calib cooked cfg =
      Calibration.processCalibrationResults calib cooked cfg := by
  unfold processCalibrationResults Calibration.processCalibrationResults
  dsimp only
  rw [chunksOf_eq wide, Outcome.ok_bind, Outcome.each_ok fun line _ => scaledLine_eq line,
    Outcome.ok_bind, if_neg (Nat.ne_of_gt wide), chunksOf_eq wide, Outcome.ok_bind,
    chunksOf_eq wide, Outcome.ok_bind, Outcome.each_ok fun pair _ => combinedLine_eq pair.1 pair.2,
    Outcome.ok_bind]
  simp only [List.flatMap_def]

end Results

end ValidityFprintd.Literal
