import ValidityFprintd.Anchors
import ValidityFprintd.Lines
import ValidityFprintd.LiteralCalibration

/-! What averaging makes of a raw image of any geometry: the mean of every column, as long as its
sum fits in 32 bits. -/

namespace ValidityFprintd.Literal
open Effect

def samples (raw : Bytes) (start stride m : Nat) : List Nat :=
  (List.range m).map fun t => (raw.getD (start + t * stride) 0).toNat

section Tables

variable {b raw : Bytes} {start stop stride width m i k col : Nat}

theorem samples_length : (samples raw start stride m).length = m := by
  rw [samples, List.length_map, List.length_range]

theorem sum_le_of_bytes {l : List Nat} (bytes : ∀ x ∈ l, x ≤ 255) : l.sum ≤ 255 * l.length := by
  induction l with
  | nil => exact Nat.le_refl 0
  | cons x l ih =>
    obtain ⟨here, rest⟩ := List.forall_mem_cons.mp bytes
    have bound := ih rest
    rw [List.sum_cons, List.length_cons]
    omega

theorem samples_sum_le : (samples raw start stride m).sum ≤ 255 * m := by
  have bound := sum_le_of_bytes (l := samples raw start stride m) fun x mem => by
    obtain ⟨t, _, rfl⟩ := List.mem_map.mp mem
    have byte := (raw.getD (start + t * stride) 0).toNat_lt
    omega
  rwa [samples_length] at bound

theorem column_lines (size : b.length = m * width) (hc : col < width) :
    Calibration.column ((List.range m).map (Bytes.line b width)) col =
      (samples b col width m).sum := by
  have cells : ((List.range m).map (Bytes.line b width)).filterMap (fun l => l[col]?) =
      (List.range m).map fun t => b.getD (col + t * width) 0 := by
    rw [List.filterMap_map, ← List.filterMap_eq_map]
    refine List.filterMap_congr fun t mem => ?_
    have inside := Bytes.line_inside size (List.mem_range.mp mem)
    show (Bytes.line b width t)[col]? = some (b.getD (col + t * width) 0)
    rw [Bytes.line_getElem? hc, List.getD_eq_getElem?_getD, Nat.add_comm,
      List.getElem?_eq_getElem (by omega), Option.getD_some]
  rw [column_sum, cells, List.map_map]
  rfl

theorem samples_slice (inside : ∀ t < m, start + (col + t * stride) < stop) :
    samples ((raw.take stop).drop start) col stride m = samples raw (start + col) stride m := by
  refine List.map_congr_left fun t mem => ?_
  rw [List.getD_eq_getElem?_getD, List.getElem?_drop,
    List.getElem?_take_of_lt (inside t (List.mem_range.mp mem)), ← List.getD_eq_getElem?_getD,
    Nat.add_assoc]

theorem samples_line (inside : ∀ t < m, col + t * stride < width) :
    samples (Bytes.line b width i) col stride m = samples b (i * width + col) stride m := by
  refine List.map_congr_left fun t mem => ?_
  rw [List.getD_eq_getElem?_getD, Bytes.line_getElem? (inside t (List.mem_range.mp mem)),
    ← List.getD_eq_getElem?_getD, Nat.add_assoc]

end Tables

section Averages

variable {raw : Bytes} {frameSize k width frames lines : Nat}

theorem cell_inside {m col t : Nat} (ht : t < m) (hc : col < width) :
    col + t * width < m * width := by
  have rows : (t + 1) * width ≤ m * width := Nat.mul_le_mul_right width ht
  rw [Nat.succ_mul] at rows
  omega

theorem samples_group {start stop i col : Nat}
    (length : ((raw.take stop).drop start).length = lines * (k * width)) (hi : i < lines)
    (hc : col < width) :
    samples (Bytes.line ((raw.take stop).drop start) (k * width) i) col width k =
      samples raw (start + (i * (k * width) + col)) width k := by
  have row : ∀ t < k, col + t * width < k * width := fun t ht => cell_inside ht hc
  have rows := Bytes.line_inside length hi
  rw [samples_line row, samples_slice fun t ht => ?_]
  have inside := row t ht
  rw [List.length_drop, List.length_take] at rows
  omega

theorem groupMeans_ite {group : Bytes} (some' : 0 < k) (wide : 0 < width) (few : k < 2 ^ 32)
    (size : group.length = k * width) :
    (do let lines ← chunksOf group width
        Outcome.each (mean lines lines.length) (List.range width)) =
      if ∀ col ∈ List.range width, (samples group col width k).sum < 2 ^ 32 then
        .ok ((List.range width).map fun col =>
          UInt8.ofNat ((samples group col width k).sum / k))
      else .panic := by
  rw [chunksOf_eq wide, Outcome.ok_bind, Bytes.chunks_lines wide size, List.length_map,
    List.length_range]
  refine Outcome.each_ite fun col mem => ?_
  rw [mean_ite some' few, column_lines size (List.mem_range.mp mem)]

theorem averageLines_ite (settled : 1 < frames) (some' : 0 < k) (wide : 0 < width)
    (many : 0 < lines) (size : frameSize = lines * (k * width)) (small : frameSize < 2 ^ 32)
    (long : 2 * frameSize ≤ raw.length) :
    averageLines raw frameSize k width frames =
      if ∀ i ∈ List.range lines, ∀ col ∈ List.range width,
        (samples raw (frameSize + (i * (k * width) + col)) width k).sum < 2 ^ 32 then
        .ok ((List.range lines).flatMap fun i => (List.range width).map fun col =>
          UInt8.ofNat ((samples raw (frameSize + (i * (k * width) + col)) width k).sum / k))
      else .panic := by
  have group : 0 < k * width := Nat.mul_pos some' wide
  have one : k * width ≤ frameSize := by
    rw [size]
    exact Nat.le_mul_of_pos_left _ many
  have few : k ≤ k * width := Nat.le_mul_of_pos_right k wide
  have cut : Bytes.range? raw frameSize (frameSize + frameSize) =
      some ((raw.take (frameSize + frameSize)).drop frameSize) :=
    if_pos ⟨Nat.le_add_right _ _, by omega⟩
  have length : ((raw.take (frameSize + frameSize)).drop frameSize).length =
      lines * (k * width) := by
    rw [List.length_drop, List.length_take, ← size]
    omega
  rw [averageLines, if_pos settled, Checked.add_eq (by omega), Outcome.ok_bind, cut,
    Outcome.ofOption, Outcome.ok_bind, Checked.div_eq (by omega), Outcome.ok_bind,
    Checked.mul_eq (by omega), Outcome.ok_bind, chunksOf_eq group, Outcome.ok_bind,
    Bytes.chunks_lines group length]
  have sized : ∀ part ∈ (List.range lines).map
      (Bytes.line ((raw.take (frameSize + frameSize)).drop frameSize) (k * width)),
      part.length = k * width := by
    intro part mem
    obtain ⟨i, hi, rfl⟩ := List.mem_map.mp mem
    exact Bytes.line_length length (List.mem_range.mp hi)
  have groups := Outcome.each_ite fun part mem =>
    groupMeans_ite some' wide (by omega) (sized part mem)
  have same : ∀ i ∈ List.range lines, ∀ col ∈ List.range width,
      samples (Bytes.line ((raw.take (frameSize + frameSize)).drop frameSize) (k * width) i)
          col width k = samples raw (frameSize + (i * (k * width) + col)) width k :=
    fun i hi col hc => samples_group length (List.mem_range.mp hi) (List.mem_range.mp hc)
  rw [groups]
  simp only [List.forall_mem_map]
  by_cases fits : ∀ i ∈ List.range lines, ∀ col ∈ List.range width,
      (samples raw (frameSize + (i * (k * width) + col)) width k).sum < 2 ^ 32
  · rw [if_pos fits, if_pos fun i hi col hc => same i hi col hc ▸ fits i hi col hc,
      Outcome.ok_bind, List.flatMap_def, List.map_map]
    refine congrArg (fun rows => Outcome.ok (List.flatten rows)) ?_
    refine List.map_congr_left fun i hi => ?_
    exact List.map_congr_left fun col hc => by rw [same i hi col hc]
  · rw [if_neg fits, if_neg fun all => fits fun i hi col hc => same i hi col hc ▸ all i hi col hc,
      Outcome.panic_bind]

theorem averageFrames_kept (settled : 3 ≤ frames) (few : frames < 2 ^ 32)
    (small : frameSize < 2 ^ 32) : averageFrames raw frameSize frames = (do
      let kept ← Outcome.ofOption "calibration data shorter than expected"
        (Bytes.range? raw (frameSize * 2) (frameSize * frames))
      let kept ← chunksOf kept frameSize
      Outcome.each (mean kept (frames - 2)) (List.range frameSize)) := by
  have product : frameSize * frames < 2 ^ 64 :=
    Nat.lt_of_lt_of_le (Nat.mul_lt_mul'' small few) (by decide)
  have whole : frameSize * 2 + frameSize * (frames - 2) = frameSize * frames := by
    rw [← Nat.mul_add]
    congr 1
    omega
  rw [averageFrames, if_pos (by omega), Checked.sub_eq (by omega), Outcome.ok_bind,
    Checked.mul_eq (by omega), Outcome.ok_bind, Outcome.ok_bind]
  dsimp only
  rw [Checked.mul_eq (by omega), Outcome.ok_bind, Checked.add_eq (by omega), Outcome.ok_bind,
    whole]

theorem averageFrames_ite (settled : 3 ≤ frames) (few : frames < 2 ^ 32) (some' : 0 < frameSize)
    (small : frameSize < 2 ^ 32) (long : frames * frameSize ≤ raw.length) :
    averageFrames raw frameSize frames =
      if ∀ p ∈ List.range frameSize,
        (samples raw (2 * frameSize + p) frameSize (frames - 2)).sum < 2 ^ 32 then
        .ok ((List.range frameSize).map fun p =>
          UInt8.ofNat ((samples raw (2 * frameSize + p) frameSize (frames - 2)).sum /
            (frames - 2)))
      else .panic := by
  rw [Nat.mul_comm] at long
  have skipped : frameSize * 2 ≤ frameSize * frames := Nat.mul_le_mul_left frameSize (by omega)
  have cut : Bytes.range? raw (frameSize * 2) (frameSize * frames) =
      some ((raw.take (frameSize * frames)).drop (frameSize * 2)) := if_pos ⟨skipped, long⟩
  have length : ((raw.take (frameSize * frames)).drop (frameSize * 2)).length =
      (frames - 2) * frameSize := by
    rw [List.length_drop, List.length_take, Nat.min_eq_left long, ← Nat.mul_sub,
      Nat.mul_comm frameSize]
  rw [averageFrames_kept settled few small, cut, Outcome.ofOption, Outcome.ok_bind,
    chunksOf_eq some', Outcome.ok_bind, Bytes.chunks_lines some' length]
  refine Outcome.each_ite fun p mem => ?_
  have inside := List.mem_range.mp mem
  rw [mean_ite (by omega) (by omega), column_lines length inside, samples_slice fun t ht => ?_,
    Nat.mul_comm frameSize 2]
  have cell := cell_inside ht inside
  rw [← length, List.length_drop, List.length_take] at cell
  omega

theorem averageLines_short (settled : 1 < frames) (small : frameSize < 2 ^ 32)
    (short : raw.length < 2 * frameSize) :
    averageLines raw frameSize k width frames =
      .err "calibration data shorter than one frame" := by
  have cut : Bytes.range? raw frameSize (frameSize + frameSize) = none := if_neg (by omega)
  rw [averageLines, if_pos settled, Checked.add_eq (by omega), Outcome.ok_bind, cut,
    Outcome.ofOption, Outcome.err_bind]

theorem averageFrames_short (settled : 3 ≤ frames) (few : frames < 2 ^ 32)
    (small : frameSize < 2 ^ 32) (short : raw.length < frames * frameSize) :
    averageFrames raw frameSize frames = .err "calibration data shorter than expected" := by
  rw [Nat.mul_comm] at short
  have cut : Bytes.range? raw (frameSize * 2) (frameSize * frames) = none := if_neg (by omega)
  rw [averageFrames_kept settled few small, cut, Outcome.ofOption, Outcome.err_bind]

end Averages

/-- A geometry of `k` lines to a calibration line, and of frames small enough for 32 bits. -/
structure Geometry (cfg : SensorConfig) (k : Nat) : Prop where
  width : 1 ≤ cfg.bytesPerLine.toNat
  lines : 1 ≤ cfg.typeInfo.linesPerCalibrationData.toNat
  interleave : 1 ≤ k
  frame : cfg.linesPerFrame.toNat = k * cfg.typeInfo.linesPerCalibrationData.toNat
  frames : 3 ≤ cfg.calibrationFrames.toNat
  product : cfg.linesPerFrame.toNat * cfg.bytesPerLine.toNat < 2 ^ 32

def frameBytes (cfg : SensorConfig) : Nat := cfg.linesPerFrame.toNat * cfg.bytesPerLine.toNat

def framesNeeded (cfg : SensorConfig) (k : Nat) : Nat :=
  if 1 < k then 2 else cfg.calibrationFrames.toNat

/-- What is averaged into column `col` of line `i`: `k` lines of the second frame, or that line of
every frame from the third on. -/
def averaged (cfg : SensorConfig) (k : Nat) (raw : Bytes) (i col : Nat) : List Nat :=
  if 1 < k then
    samples raw (frameBytes cfg + (i * (k * cfg.bytesPerLine.toNat) + col)) cfg.bytesPerLine.toNat k
  else
    samples raw (2 * frameBytes cfg + (i * cfg.bytesPerLine.toNat + col)) (frameBytes cfg)
      (cfg.calibrationFrames.toNat - 2)

def Fits (cfg : SensorConfig) (k : Nat) (raw : Bytes) : Prop :=
  ∀ i < cfg.typeInfo.linesPerCalibrationData.toNat, ∀ col < cfg.bytesPerLine.toNat,
    (averaged cfg k raw i col).sum < 2 ^ 32

/-- The mean of every column, rounded down. -/
structure Averaged (cfg : SensorConfig) (k : Nat) (raw out : Bytes) : Prop where
  length : out.length =
    cfg.typeInfo.linesPerCalibrationData.toNat * cfg.bytesPerLine.toNat
  mean : ∀ i < cfg.typeInfo.linesPerCalibrationData.toNat, ∀ col < cfg.bytesPerLine.toNat,
    ∃ x, out[i * cfg.bytesPerLine.toNat + col]? = some x ∧
      x.toNat = (averaged cfg k raw i col).sum / (averaged cfg k raw i col).length

section Geometries

variable {cfg : SensorConfig} {k : Nat} {raw : Bytes}

theorem Geometry.frameBytes_eq (g : Geometry cfg k) : frameBytes cfg =
    cfg.typeInfo.linesPerCalibrationData.toNat * (k * cfg.bytesPerLine.toNat) := by
  rw [frameBytes, g.frame, Nat.mul_comm k, Nat.mul_assoc]

theorem Geometry.frameBytes_pos (g : Geometry cfg k) : 0 < frameBytes cfg := by
  rw [g.frameBytes_eq]
  exact Nat.mul_pos g.lines (Nat.mul_pos g.interleave g.width)

theorem average_branch (g : Geometry cfg k) : average raw cfg =
    if 1 < k then
      averageLines raw (frameBytes cfg) k cfg.bytesPerLine.toNat cfg.calibrationFrames.toNat
    else averageFrames raw (frameBytes cfg) cfg.calibrationFrames.toNat := by
  have size : (cfg.linesPerFrame * cfg.bytesPerLine).toNat = frameBytes cfg := by
    rw [UInt32.toNat_mul, Nat.mod_eq_of_lt g.product, frameBytes]
  have nonzero : cfg.typeInfo.linesPerCalibrationData ≠ 0 := by
    intro zero
    have some' := g.lines
    rw [zero] at some'
    exact absurd some' (by decide)
  have interleave : (cfg.linesPerFrame / cfg.typeInfo.linesPerCalibrationData).toNat = k := by
    rw [UInt32.toNat_div, g.frame, Nat.mul_div_cancel _ g.lines]
  rw [average, Checked.mul32_eq g.product, Outcome.ok_bind, Checked.div32_eq nonzero,
    Outcome.ok_bind, size, interleave]

theorem averaged_length (cfg : SensorConfig) (k : Nat) (raw : Bytes) (i col : Nat) :
    (averaged cfg k raw i col).length = if 1 < k then k else cfg.calibrationFrames.toNat - 2 := by
  unfold averaged
  split
  · exact samples_length
  · exact samples_length

theorem averaged_sum_le (cfg : SensorConfig) (k : Nat) (raw : Bytes) (i col : Nat) :
    (averaged cfg k raw i col).sum ≤ 255 * (averaged cfg k raw i col).length := by
  unfold averaged
  split
  · rw [samples_length]
    exact samples_sum_le
  · rw [samples_length]
    exact samples_sum_le

theorem mean_averaged (cfg : SensorConfig) (k : Nat) (raw : Bytes) (i col : Nat) :
    (UInt8.ofNat ((averaged cfg k raw i col).sum / (averaged cfg k raw i col).length)).toNat =
      (averaged cfg k raw i col).sum / (averaged cfg k raw i col).length := by
  have bound := averaged_sum_le cfg k raw i col
  rw [Nat.mul_comm] at bound
  exact UInt8.toNat_ofNat_of_lt (Nat.lt_succ_of_le (Nat.div_le_of_le_mul bound))

theorem averageLines_fits (g : Geometry cfg k) (many : 1 < k)
    (long : 2 * frameBytes cfg ≤ raw.length) :
    averageLines raw (frameBytes cfg) k cfg.bytesPerLine.toNat cfg.calibrationFrames.toNat =
      if ∀ i ∈ List.range cfg.typeInfo.linesPerCalibrationData.toNat,
        ∀ col ∈ List.range cfg.bytesPerLine.toNat,
          (averaged cfg k raw i col).sum < 2 ^ 32 then
        .ok ((List.range cfg.typeInfo.linesPerCalibrationData.toNat).flatMap fun i =>
          (List.range cfg.bytesPerLine.toNat).map fun col =>
            UInt8.ofNat ((averaged cfg k raw i col).sum / k))
      else .panic := by
  have settled := g.frames
  simp only [averaged, if_pos many]
  exact averageLines_ite (by omega) g.interleave g.width g.lines g.frameBytes_eq g.product long

theorem averageFrames_fits (g : Geometry cfg k)
    (long : cfg.calibrationFrames.toNat * frameBytes cfg ≤ raw.length) :
    averageFrames raw (frameBytes cfg) cfg.calibrationFrames.toNat =
      if ∀ p ∈ List.range (frameBytes cfg), (samples raw (2 * frameBytes cfg + p) (frameBytes cfg)
        (cfg.calibrationFrames.toNat - 2)).sum < 2 ^ 32 then
        .ok ((List.range (frameBytes cfg)).map fun p =>
          UInt8.ofNat ((samples raw (2 * frameBytes cfg + p) (frameBytes cfg)
            (cfg.calibrationFrames.toNat - 2)).sum / (cfg.calibrationFrames.toNat - 2)))
      else .panic :=
  averageFrames_ite g.frames cfg.calibrationFrames.toNat_lt g.frameBytes_pos g.product long

theorem Geometry.place (g : Geometry cfg k) (one : ¬ 1 < k) {p : Nat} :
    p < frameBytes cfg ↔ ∃ i < cfg.typeInfo.linesPerCalibrationData.toNat,
      ∃ col < cfg.bytesPerLine.toNat, p = i * cfg.bytesPerLine.toNat + col := by
  have width := g.width
  have some' := g.interleave
  have size := g.frameBytes_eq
  rw [show k = 1 by omega, Nat.one_mul] at size
  rw [size]
  constructor
  · intro inside
    refine ⟨p / cfg.bytesPerLine.toNat, ?_, p % cfg.bytesPerLine.toNat, Nat.mod_lt p width, ?_⟩
    · exact (Nat.div_lt_iff_lt_mul width).mpr inside
    · exact (Nat.div_add_mod' p _).symm
  · rintro ⟨i, hi, col, hc, rfl⟩
    rw [Nat.add_comm]
    exact cell_inside hi hc

theorem average_fits (g : Geometry cfg k) (long : framesNeeded cfg k * frameBytes cfg ≤ raw.length)
    (fits : Fits cfg k raw) : ∃ out, average raw cfg = .ok out ∧ Averaged cfg k raw out := by
  have settled := g.frames
  rw [average_branch g]
  unfold framesNeeded at long
  by_cases many : 1 < k
  · rw [if_pos many] at long ⊢
    rw [averageLines_fits g many long, if_pos fun i hi col hc =>
      fits i (List.mem_range.mp hi) col (List.mem_range.mp hc)]
    have rows : ∀ i < cfg.typeInfo.linesPerCalibrationData.toNat,
        ((List.range cfg.bytesPerLine.toNat).map fun col =>
          UInt8.ofNat ((averaged cfg k raw i col).sum / k)).length = cfg.bytesPerLine.toNat := by
      intro i _
      rw [List.length_map, List.length_range]
    refine ⟨_, rfl, Bytes.rows_length rows, fun i hi col hc =>
      ⟨_, ?_, mean_averaged cfg k raw i col⟩⟩
    rw [Bytes.rows_getElem? rows hi hc, List.getElem?_map, List.getElem?_range hc,
      averaged_length, if_pos many]
    rfl
  · rw [if_neg many] at long ⊢
    rw [averageFrames_fits g long, if_pos fun p hp => ?_]
    · refine ⟨_, rfl, ?_, fun i hi col hc => ⟨_, ?_, mean_averaged cfg k raw i col⟩⟩
      · have some' := g.interleave
        rw [List.length_map, List.length_range, g.frameBytes_eq, show k = 1 by omega, Nat.one_mul]
      · have inside := (g.place many).mpr ⟨i, hi, col, hc, rfl⟩
        rw [List.getElem?_map, List.getElem?_range inside, averaged_length, if_neg many, averaged,
          if_neg many]
        rfl
    · obtain ⟨i, hi, col, hc, rfl⟩ := (g.place many).mp (List.mem_range.mp hp)
      have fit := fits i hi col hc
      rwa [averaged, if_neg many] at fit

theorem average_panics (g : Geometry cfg k)
    (long : framesNeeded cfg k * frameBytes cfg ≤ raw.length) (spills : ¬ Fits cfg k raw) :
    average raw cfg = .panic := by
  rw [average_branch g]
  unfold framesNeeded at long
  by_cases many : 1 < k
  · rw [if_pos many] at long ⊢
    rw [averageLines_fits g many long, if_neg fun all => spills fun i hi col hc =>
      all i (List.mem_range.mpr hi) col (List.mem_range.mpr hc)]
  · rw [if_neg many] at long ⊢
    rw [averageFrames_fits g long, if_neg fun all => spills fun i hi col hc => ?_]
    have inside := (g.place many).mpr ⟨i, hi, col, hc, rfl⟩
    rw [averaged, if_neg many]
    exact all _ (List.mem_range.mpr inside)

theorem average_short (g : Geometry cfg k)
    (short : raw.length < framesNeeded cfg k * frameBytes cfg) :
    ∃ e, average raw cfg = .err e := by
  have settled := g.frames
  rw [average_branch g]
  unfold framesNeeded at short
  split
  case isTrue many =>
    rw [if_pos many] at short
    exact ⟨_, averageLines_short (by omega) g.product short⟩
  case isFalse one =>
    rw [if_neg one] at short
    exact ⟨_, averageFrames_short settled cfg.calibrationFrames.toNat_lt g.product short⟩

theorem average_eq_ok_iff (g : Geometry cfg k) : (∃ out, average raw cfg = .ok out) ↔
    framesNeeded cfg k * frameBytes cfg ≤ raw.length ∧ Fits cfg k raw := by
  constructor
  · rintro ⟨out, averages⟩
    have long : framesNeeded cfg k * frameBytes cfg ≤ raw.length := by
      by_contra short
      obtain ⟨e, fails⟩ := average_short g (Nat.not_le.mp short)
      cases averages.symm.trans fails
    refine ⟨long, ?_⟩
    by_contra spills
    cases averages.symm.trans (average_panics g long spills)
  · rintro ⟨long, fits⟩
    obtain ⟨out, averages, _⟩ := average_fits g long fits
    exact ⟨out, averages⟩

/-- The average is exact: there is one as soon as the raw image is long enough and no column's sum
is cut off, and it is the mean of every column. -/
theorem average_exact (g : Geometry cfg k) (raw : Bytes) :
    ((∃ out, average raw cfg = .ok out) ↔
      framesNeeded cfg k * frameBytes cfg ≤ raw.length ∧ Fits cfg k raw) ∧
    (∀ out, average raw cfg = .ok out → Averaged cfg k raw out) ∧
    (raw.length < framesNeeded cfg k * frameBytes cfg → ∃ e, average raw cfg = .err e) ∧
    ((if 1 < k then k else cfg.calibrationFrames.toNat - 2) ≤ 16843009 → Fits cfg k raw) := by
  refine ⟨average_eq_ok_iff g, fun out averages => ?_, average_short g, fun few i _ col _ => ?_⟩
  · obtain ⟨long, fits⟩ := (average_eq_ok_iff g).mp ⟨out, averages⟩
    obtain ⟨out', averages', all⟩ := average_fits g long fits
    rwa [Outcome.ok.inj (averages.symm.trans averages')]
  · have bound := averaged_sum_le cfg k raw i col
    rw [averaged_length] at bound
    omega

end Geometries

section Seen

def pairedConfig : SensorConfig := { Calibration.tinyConfig with linesPerFrame := 4 }

theorem average_exact_paired : ∃ out,
    average [0, 0, 0, 0, 0, 0, 0, 0, 1, 2, 4, 4, 255, 0, 255, 1] pairedConfig = .ok out ∧
      Averaged pairedConfig 2 [0, 0, 0, 0, 0, 0, 0, 0, 1, 2, 4, 4, 255, 0, 255, 1] out := by
  have paired : Geometry pairedConfig 2 :=
    ⟨by decide, by decide, by decide, by decide, by decide, by decide⟩
  obtain ⟨ok, exact', _, fits⟩ := average_exact paired
    [0, 0, 0, 0, 0, 0, 0, 0, 1, 2, 4, 4, 255, 0, 255, 1]
  obtain ⟨out, averages⟩ := ok.mpr ⟨by decide, fits (by decide)⟩
  exact ⟨out, averages, exact' out averages⟩

/-- Frames of one calibration line of one byte, from a line taken 2 ^ 25 times. -/
def deepConfig : SensorConfig :=
  { Calibration.tinyConfig with
    typeInfo := { Calibration.tinyConfig.typeInfo with linesPerCalibrationData := 1 }
    linesPerFrame := 33554432
    bytesPerLine := 1 }

theorem deepConfig_geometry : Geometry deepConfig 33554432 :=
  ⟨by decide, by decide, by decide, by decide, by decide, by decide⟩

theorem samples_replicate {n start stride m : Nat} {x : UInt8}
    (inside : ∀ t < m, start + t * stride < n) :
    samples (List.replicate n x) start stride m = List.replicate m x.toNat := by
  refine List.eq_replicate_iff.mpr ⟨samples_length, fun y mem => ?_⟩
  obtain ⟨t, ht, rfl⟩ := List.mem_map.mp mem
  rw [List.getD_eq_getElem?_getD,
    List.getElem?_replicate_of_lt (inside t (List.mem_range.mp ht)), Option.getD_some]

/-- Two frames, no product of which is too large: the sum of the only column is. -/
theorem average_exact_deep : Geometry deepConfig 33554432 ∧
    2 * frameBytes deepConfig = (List.replicate 67108864 (0xff : UInt8)).length ∧
      average (List.replicate 67108864 0xff) deepConfig = .panic := by
  have frame : frameBytes deepConfig = 33554432 := by decide
  have length : (List.replicate 67108864 (0xff : UInt8)).length = 67108864 := List.length_replicate
  refine ⟨deepConfig_geometry, by rw [frame, length],
    average_panics deepConfig_geometry ?_ fun fits => ?_⟩
  · have two : framesNeeded deepConfig 33554432 = 2 := if_pos (by decide)
    refine Nat.le_of_eq ?_
    rw [two, frame, length]
  · have width : deepConfig.bytesPerLine.toNat = 1 := by decide
    have fit := fits 0 (by decide) 0 (by decide)
    rw [averaged, if_pos (by decide), frame, width, samples_replicate fun t ht => by omega,
      List.sum_replicate_nat] at fit
    revert fit
    decide

end Seen

end ValidityFprintd.Literal
