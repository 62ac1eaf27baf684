import Mathlib.Algebra.BigOperators.Group.List.Basic
import Mathlib.Algebra.Ring.Int.Defs
import ValidityFprintd.Anchors
import ValidityFprintd.Calibrate
import ValidityFprintd.Lines

/-! Calibration frames folded into one: the sums stay within a signed byte, so that nothing is
lost to saturation and the order of the frames does not matter. -/

namespace ValidityFprintd.Calibration
open Effect

/-- A raw sample's offset from the middle of its range, rescaled and truncated. -/
def rescaled (x : UInt8) : Int := Int.tdiv (10 * ((x.toNat : Int) - 128)) 34

def signed (x : UInt8) : Int := x.toInt8.toInt

section Samples

theorem clip_signed {x : Int} (low : -128 ≤ x) (high : x ≤ 127) : signed (clip x) = x := by
  have each : ∀ k : Fin 256, signed (clip ((k : Nat) - 128)) = (k : Nat) - 128 := by
    decide +kernel
  have value := each ⟨(x + 128).toNat, by omega⟩
  rwa [show (((x + 128).toNat : Nat) : Int) - 128 = x by omega] at value

theorem scale_signed : ∀ x : UInt8, signed (scale x) = rescaled x :=
  Bytes.forall_byte (by decide +kernel)

theorem rescaled_small : ∀ x : UInt8, -37 ≤ rescaled x ∧ rescaled x ≤ 37 :=
  Bytes.forall_byte (by decide +kernel)

theorem signed_inj {x y : UInt8} (h : signed x = signed y) : x = y :=
  congrArg Int8.toUInt8 (Int8.toInt.inj h)

theorem add_signed {l r : UInt8} (low : -128 ≤ signed l + signed r)
    (high : signed l + signed r ≤ 127) : signed (add l r) = signed l + signed r :=
  clip_signed low high

end Samples

def total (frames : List Bytes) (p : Nat) : Int :=
  (frames.map fun f => rescaled (f.getD p 0)).sum

/-- `m` lines that some frames have been folded into: the first one's headers, and the sums of
the samples. -/
structure Accumulated (width m : Nat) (frames : List Bytes) (data : Bytes) : Prop where
  length : data.length = m * width
  header : ∀ i < m, ∀ k < 8, ∃ first, frames.head? = some first ∧
    data[i * width + k]? = first[i * width + k]?
  sample : ∀ i < m, ∀ k < width, 8 ≤ k → ∃ x, data[i * width + k]? = some x ∧
    signed x = total frames (i * width + k)

section Rows

variable {width m i k : Nat} {a b : Bytes}

theorem header_getElem? {rest : Bytes} (long : 8 ≤ a.length) :
    (a.take 8 ++ rest)[k]? = if k < 8 then a[k]? else rest[k - 8]? := by
  have head : (a.take 8).length = 8 := by
    rw [List.length_take, Nat.min_eq_left long]
  split
  case isTrue inside =>
    rw [List.getElem?_append_left (by omega), List.getElem?_take_of_lt inside]
  case isFalse behind => rw [List.getElem?_append_right (by omega), head]

theorem rescaled_frame (wide : 8 ≤ width) (size : b.length = m * width) :
    Accumulated width m [b] ((Bytes.chunks width b).flatMap fun line =>
      line.take 8 ++ (line.drop 8).map scale) := by
  have rows : ∀ i < m, ((b.line width i).take 8 ++ ((b.line width i).drop 8).map scale).length =
      width := by
    intro i hi
    have length := Bytes.line_length size hi
    rw [List.length_append, List.length_map, List.length_take, List.length_drop]
    omega
  rw [Bytes.chunks_lines (by omega) size, List.flatMap_map]
  refine ⟨Bytes.rows_length rows, fun i hi k hk => ⟨b, rfl, ?_⟩, fun i hi k hk behind => ?_⟩
  · have length := Bytes.line_length size hi
    rw [Bytes.rows_getElem? rows hi (by omega), header_getElem? (by omega), if_pos hk,
      Bytes.line_getElem? (by omega)]
  · have length := Bytes.line_length size hi
    have inside := Bytes.line_inside size hi
    have there : b[i * width + k]? = some b[i * width + k] := List.getElem?_eq_getElem (by omega)
    refine ⟨scale b[i * width + k], ?_, ?_⟩
    · rw [Bytes.rows_getElem? rows hi hk, header_getElem? (by omega), if_neg (by omega),
        List.getElem?_map, List.getElem?_drop, Nat.add_sub_cancel' behind,
        Bytes.line_getElem? hk, there]
      rfl
    · rw [scale_signed, total, List.map_singleton, List.sum_singleton, List.getD_eq_getElem?_getD,
        there, Option.getD_some]

theorem total_small (frames : List Bytes) (p : Nat) :
    -(37 * (frames.length : Int)) ≤ total frames p ∧ total frames p ≤ 37 * frames.length := by
  induction frames with
  | nil => exact ⟨Int.le_refl 0, Int.le_refl 0⟩
  | cons f frames ih =>
    have few := rescaled_small (f.getD p 0)
    rw [total, List.map_cons, List.sum_cons, ← total, List.length_cons]
    omega

theorem total_append (frames frames' : List Bytes) (p : Nat) :
    total (frames ++ frames') p = total frames p + total frames' p := by
  rw [total, List.map_append, List.sum_append, ← total, ← total]

theorem Accumulated.combine {frames : List Bytes} {next : Bytes} (wide : 8 ≤ width)
    (h : Accumulated width m frames a) (h' : Accumulated width m [b] next)
    (few : frames.length ≤ 2) :
    Accumulated width m (frames ++ [b])
      (((Bytes.chunks width a).zip (Bytes.chunks width next)).flatMap fun (ll, rr) =>
        ll.take 8 ++ List.zipWith add (ll.drop 8) (rr.drop (min ll.length 8))) := by
  have rows : ∀ i < m, ((a.line width i).take 8 ++ List.zipWith add ((a.line width i).drop 8)
      ((next.line width i).drop (min (a.line width i).length 8))).length = width := by
    intro i hi
    have left := Bytes.line_length h.length hi
    have right := Bytes.line_length h'.length hi
    rw [List.length_append, List.length_zipWith, List.length_take, List.length_drop,
      List.length_drop]
    omega
  rw [Bytes.chunks_lines (by omega) h.length, Bytes.chunks_lines (by omega) h'.length,
    List.zip_map', List.flatMap_map]
  refine ⟨Bytes.rows_length rows, fun i hi k hk => ?_, fun i hi k hk behind => ?_⟩
  · obtain ⟨first, head, same⟩ := h.header i hi k hk
    have length := Bytes.line_length h.length hi
    refine ⟨first, ?_, ?_⟩
    · rw [List.head?_append, head, Option.some_or]
    · rw [Bytes.rows_getElem? rows hi (by omega), header_getElem? (by omega), if_pos hk,
        Bytes.line_getElem? (by omega), same]
  · obtain ⟨x, left, value⟩ := h.sample i hi k hk behind
    obtain ⟨y, right, value'⟩ := h'.sample i hi k hk behind
    have length := Bytes.line_length h.length hi
    have eight : min (a.line width i).length 8 = 8 := by omega
    refine ⟨add x y, ?_, ?_⟩
    · rw [Bytes.rows_getElem? rows hi hk, header_getElem? (by omega), if_neg (by omega), eight,
        List.getElem?_zipWith, List.getElem?_drop, List.getElem?_drop, Nat.add_sub_cancel' behind,
        Bytes.line_getElem? hk, Bytes.line_getElem? hk, left, right]
    · have before := total_small frames (i * width + k)
      have here := total_small [b] (i * width + k)
      rw [List.length_singleton] at here
      rw [add_signed (by omega) (by omega), value, value', total_append]

end Rows

section Fold

variable {cfg : SensorConfig} {calib : Calibration} {frames later : List Bytes} {cooked : Bytes}
  {m : Nat}

theorem processCalibrationResults_accumulated (wide : 8 ≤ cfg.bytesPerLine.toNat)
    (size : cooked.length = m * cfg.bytesPerLine.toNat) (few : frames.length ≤ 2)
    (h : frames = [] ∧ calib.calibData = [] ∨
      Accumulated cfg.bytesPerLine.toNat m frames calib.calibData) :
    ∃ out, processCalibrationResults calib cooked cfg = .ok out ∧
      Accumulated cfg.bytesPerLine.toNat m (frames ++ [cooked]) out.calibData := by
  have first := rescaled_frame wide size
  unfold processCalibrationResults
  dsimp only
  rw [if_neg (by omega)]
  obtain ⟨rfl, empty⟩ | h := h
  · rw [empty]
    exact ⟨_, rfl, first⟩
  · split
    case isTrue empty =>
      -- no lines at all: every frame is empty
      have none : m * cfg.bytesPerLine.toNat = 0 := by
        rw [← h.length, List.isEmpty_iff.mp empty, List.length_nil]
      obtain rfl : m = 0 := (Nat.mul_eq_zero.mp none).resolve_right (by omega)
      exact ⟨_, rfl, first.length, fun i hi => absurd hi (Nat.not_lt_zero i),
        fun i hi => absurd hi (Nat.not_lt_zero i)⟩
    case isFalse => exact ⟨_, rfl, h.combine wide first few⟩

def processAll (cfg : SensorConfig) (frames : List Bytes) : Outcome String Calibration :=
  frames.foldlM (fun calib cooked => processCalibrationResults calib cooked cfg) ⟨[]⟩

theorem foldlM_accumulated (wide : 8 ≤ cfg.bytesPerLine.toNat)
    (whole : ∀ f ∈ later, f.length = m * cfg.bytesPerLine.toNat)
    (few : frames.length + later.length ≤ 3) (some' : frames ++ later ≠ [])
    (h : frames = [] ∧ calib.calibData = [] ∨
      Accumulated cfg.bytesPerLine.toNat m frames calib.calibData) :
    ∃ out, later.foldlM (fun calib cooked => processCalibrationResults calib cooked cfg) calib =
        .ok out ∧
      Accumulated cfg.bytesPerLine.toNat m (frames ++ later) out.calibData := by
  induction later generalizing frames calib with
  | nil =>
    rw [List.append_nil] at some' ⊢
    exact ⟨calib, rfl, h.resolve_left fun none => some' none.1⟩
  | cons cooked later ih =>
    obtain ⟨size, whole⟩ := List.forall_mem_cons.mp whole
    rw [List.length_cons] at few
    obtain ⟨calib', done, next⟩ := processCalibrationResults_accumulated wide size (by omega) h
    obtain ⟨out, folded, all⟩ := ih whole
      (by rw [List.length_append, List.length_singleton]; omega) (by simp) (.inr next)
    rw [List.append_assoc] at all
    refine ⟨out, ?_, all⟩
    rw [List.foldlM_cons, done, Outcome.ok_bind, folded]

theorem processAll_accumulated (wide : 8 ≤ cfg.bytesPerLine.toNat) (some' : frames ≠ [])
    (few : frames.length ≤ 3) (whole : ∀ f ∈ frames, f.length = m * cfg.bytesPerLine.toNat) :
    ∃ out, processAll cfg frames = .ok out ∧
      Accumulated cfg.bytesPerLine.toNat m frames out.calibData := by
  have small : ([] : List Bytes).length + frames.length ≤ 3 := by
    rw [List.length_nil]
    omega
  exact foldlM_accumulated wide whole small some' (.inl ⟨rfl, rfl⟩)

/-- Three frames at most add up to what their samples do, in whichever order they come. -/
theorem processAll_sums (wide : 8 ≤ cfg.bytesPerLine.toNat) (some' : frames ≠ [])
    (few : frames.length ≤ 3) (whole : ∀ f ∈ frames, f.length = m * cfg.bytesPerLine.toNat) :
    ∃ out, processAll cfg frames = .ok out ∧
      Accumulated cfg.bytesPerLine.toNat m frames out.calibData ∧
      ∀ frames', frames'.Perm frames → ∃ out', processAll cfg frames' = .ok out' ∧
        out'.calibData.length = out.calibData.length ∧
        ∀ i < m, ∀ k < cfg.bytesPerLine.toNat, 8 ≤ k →
          out'.calibData[i * cfg.bytesPerLine.toNat + k]? =
            out.calibData[i * cfg.bytesPerLine.toNat + k]? := by
  obtain ⟨out, done, all⟩ := processAll_accumulated wide some' few whole
  refine ⟨out, done, all, fun frames' perm => ?_⟩
  have some'' : frames' ≠ [] := fun none => some' (List.nil_perm.mp (none ▸ perm))
  obtain ⟨out', done', all'⟩ := processAll_accumulated wide some''
    (by rw [perm.length_eq]; exact few) fun f mem => whole f (perm.mem_iff.mp mem)
  refine ⟨out', done', all'.length.trans all.length.symm, fun i hi k hk behind => ?_⟩
  obtain ⟨x, there, value⟩ := all.sample i hi k hk behind
  obtain ⟨y, there', value'⟩ := all'.sample i hi k hk behind
  have same : total frames' (i * cfg.bytesPerLine.toNat + k) =
      total frames (i * cfg.bytesPerLine.toNat + k) := (perm.map _).sum_eq
  rw [there, there', signed_inj (value'.trans (same.trans value.symm))]

/-- Two frames of one line with two samples each, the sum of which is negative in one place. -/
theorem processAll_sums_two : ∃ out,
    processAll { tinyConfig with bytesPerLine := 10 }
      [[1, 2, 3, 4, 5, 6, 7, 8, 0, 200], [9, 9, 9, 9, 9, 9, 9, 9, 0, 129]] = .ok out ∧
    Accumulated 10 1 [[1, 2, 3, 4, 5, 6, 7, 8, 0, 200], [9, 9, 9, 9, 9, 9, 9, 9, 0, 129]]
      out.calibData := by
  have whole : ∀ f ∈ ([[1, 2, 3, 4, 5, 6, 7, 8, 0, 200], [9, 9, 9, 9, 9, 9, 9, 9, 0, 129]] :
      List Bytes), f.length = 1 * ({ tinyConfig with bytesPerLine := 10 } :
        SensorConfig).bytesPerLine.toNat := by decide
  obtain ⟨out, done, all, _⟩ := processAll_sums (by decide) (by decide) (by decide) whole
  exact ⟨out, done, all⟩

end Fold

end ValidityFprintd.Calibration
