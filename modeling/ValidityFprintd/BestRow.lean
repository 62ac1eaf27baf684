import ValidityFprintd.BestFit
import ValidityFprintd.Sensor

/-! The choice of a capture program from any table: of the rows for this ROM and sensor, the first
one closest to the ROM's version. -/

namespace ValidityFprintd.Sensor

/-- The scan of `capture_prog`, over any table. -/
def bestRow (table : List SensorCaptureProg) (rom : RomInfo) (sensorType a0 a1 : UInt32) :
    Option (SensorCaptureProg × UInt32) :=
  table.foldl (fun best row =>
    if applies rom sensorType a0 a1 row then
      if scoreOf best < metric row rom then some (row, metric row rom) else best
    else best) none

/-- `capture_prog` with `table` in place of `CAPTURE_PROG_TABLE`. -/
def captureProgFrom (table : List SensorCaptureProg) (rom : RomInfo) (sensorType a0 a1 : UInt32) :
    Option Bytes :=
  (bestRow table rom sensorType a0 a1).map fun (row, _) => row.blobs.flatten

theorem captureProg_eq_from (rom : RomInfo) (sensorType a0 a1 : UInt32) :
    captureProg rom sensorType a0 a1 = captureProgFrom captureProgTable rom sensorType a0 a1 :=
  rfl

/-- The row whose blobs are the program. -/
def rowUsed (table : List SensorCaptureProg) (rom : RomInfo) (sensorType a0 a1 : UInt32) :
    Option SensorCaptureProg :=
  (bestRow table rom sensorType a0 a1).map Prod.fst

/-- Every field that a row is asked for is the one asked for, or left open. -/
def Answers (rom : RomInfo) (sensorType a0 a1 : UInt32) (row : SensorCaptureProg) : Prop :=
  (row.major = rom.major ∨ row.major = 0xffff) ∧
    (row.devType = sensorType ∨ row.devType = 0xffff) ∧
    (row.a0 = a0 ∨ row.a0 = 0xffff) ∧ (row.a1 = a1 ∨ row.a1 = 0xffff)

/-- How close one field of a row is: exact, by wildcard, or not at all. -/
def fieldCloseness (expected actual : UInt32) : Nat :=
  if expected = actual then 2 else if expected = 0xffff then 1 else 0

/-- How close a row is to the ROM's version, the most significant field first. -/
def closeness (row : SensorCaptureProg) (rom : RomInfo) : List Nat :=
  [fieldCloseness row.major rom.major, fieldCloseness row.minor rom.minor,
    fieldCloseness row.build rom.build, fieldCloseness row.u1 rom.u1]

section Rows

variable {table : List SensorCaptureProg} {row other : SensorCaptureProg} {rom : RomInfo}
  {sensorType a0 a1 : UInt32}

theorem applies_iff :
    applies rom sensorType a0 a1 row = true ↔ Answers rom sensorType a0 a1 row := by
  rw [applies, decide_eq_true_iff, Answers, wildcard, or_comm (a := row.major = rom.major),
    or_comm (a := row.devType = sensorType), or_comm (a := row.a0 = a0),
    or_comm (a := row.a1 = a1)]

theorem fuzzy_toNat (expected actual : UInt32) :
    (fuzzy expected actual).toNat = fieldCloseness expected actual := by
  rw [fuzzy, fieldCloseness, wildcard]
  split
  · rfl
  · split <;> rfl

theorem fieldCloseness_lt (expected actual : UInt32) : fieldCloseness expected actual < 2 ^ 2 := by
  rw [fieldCloseness]
  split
  · decide
  · split <;> decide

theorem closeness_lt : ∀ d ∈ closeness row rom, d < 2 ^ 2 := by
  simp only [closeness, List.forall_mem_cons]
  exact ⟨fieldCloseness_lt .., fieldCloseness_lt .., fieldCloseness_lt .., fieldCloseness_lt ..,
    fun _ mem => absurd mem List.not_mem_nil⟩

/-- As long as there is room for two more bits, one more figure is packed. -/
theorem shiftIn_fuzzy {m : UInt32} {digits : List Nat} (packed : m.toNat = BestFit.pack 2 digits)
    (small : ∀ d ∈ digits, d < 2 ^ 2) (short : digits.length ≤ 15) (expected actual : UInt32) :
    (m <<< 2 ||| fuzzy expected actual).toNat =
      BestFit.pack 2 (digits ++ [fieldCloseness expected actual]) := by
  have room : m.toNat <<< 2 < 2 ^ 32 := by
    have below := BestFit.pack_lt (by decide) small
    have top : (2 ^ 2) ^ digits.length ≤ (2 ^ 2) ^ 15 := Nat.pow_le_pow_right (by decide) short
    rw [Nat.shiftLeft_eq]
    omega
  rw [UInt32.toNat_or, UInt32.toNat_shiftLeft, show (2 : UInt32).toNat % 32 = 2 from rfl,
    Nat.mod_eq_of_lt room, packed, fuzzy_toNat, BestFit.pack_concat]

theorem metric_toNat (row : SensorCaptureProg) (rom : RomInfo) :
    (metric row rom).toNat = BestFit.pack 2 (closeness row rom) := by
  have small := @closeness_lt row rom
  have major : (fuzzy row.major rom.major).toNat =
      BestFit.pack 2 [fieldCloseness row.major rom.major] := by
    rw [fuzzy_toNat, BestFit.pack, List.foldl_cons, Nat.zero_shiftLeft, Nat.zero_or]
    rfl
  have minor := shiftIn_fuzzy major (fun d mem => small d (List.mem_of_mem_take (i := 1) mem))
    (by simp) row.minor rom.minor
  have build := shiftIn_fuzzy minor (fun d mem => small d (List.mem_of_mem_take (i := 2) mem))
    (by simp) row.build rom.build
  exact shiftIn_fuzzy build (fun d mem => small d (List.mem_of_mem_take (i := 3) mem)) (by simp)
    row.u1 rom.u1

/-- Of two rows the one with the higher metric is the closer, and conversely. -/
theorem metric_lt_iff (other row : SensorCaptureProg) :
    metric other rom < metric row rom ↔ closeness other rom < closeness row rom := by
  rw [UInt32.lt_iff_toNat_lt, metric_toNat, metric_toNat]
  exact BestFit.pack_lt_pack_iff (by decide) rfl closeness_lt closeness_lt

theorem metric_pos (ok : applies rom sensorType a0 a1 row = true) : 0 < metric row rom := by
  have major : 0 < fieldCloseness row.major rom.major := by
    rw [fieldCloseness]
    rcases (applies_iff.mp ok).1 with same | same
    · rw [if_pos same]
      decide
    · rw [if_pos same]
      split <;> decide
  have more : [0, 0, 0, 0] < closeness row rom := List.cons_lt_cons_iff.mpr (.inl major)
  have small : ∀ d ∈ [0, 0, 0, 0], d < 2 ^ 2 := by decide
  have length : [0, 0, 0, 0].length = (closeness row rom).length := rfl
  have above := (BestFit.pack_lt_pack_iff Nat.two_pos length small closeness_lt).mpr more
  rw [UInt32.lt_iff_toNat_lt, metric_toNat]
  exact Nat.lt_of_le_of_lt (Nat.zero_le _) above

/-- The scan finds the first of the closest rows that apply. -/
theorem bestRow_eq : bestRow table rom sensorType a0 a1 =
    (BestFit.firstBest (applies rom sensorType a0 a1) (closeness · rom) table).map
      fun row => (row, metric row rom) := by
  rw [← BestFit.foldl_hold metric_lt_iff (fun _ => metric_pos), bestRow]
  congr
  funext best row
  cases best <;> rfl

theorem rowUsed_eq : rowUsed table rom sensorType a0 a1 =
    BestFit.firstBest (applies rom sensorType a0 a1) (closeness · rom) table := by
  rw [rowUsed, bestRow_eq, Option.map_map]
  exact Option.map_id'

theorem captureProgFrom_eq : captureProgFrom table rom sensorType a0 a1 =
    (rowUsed table rom sensorType a0 a1).map fun row => row.blobs.flatten := by
  rw [captureProgFrom, rowUsed, Option.map_map]
  rfl

theorem rowUsed_eq_some_iff : rowUsed table rom sensorType a0 a1 = some row ↔
    ∃ before after, table = before ++ row :: after ∧ Answers rom sensorType a0 a1 row ∧
      (∀ other ∈ before, Answers rom sensorType a0 a1 other →
        closeness other rom < closeness row rom) ∧
      ∀ other ∈ after, Answers rom sensorType a0 a1 other →
        closeness other rom ≤ closeness row rom := by
  rw [rowUsed_eq, BestFit.firstBest_eq_some_iff]
  simp only [applies_iff]

theorem rowUsed_isSome_iff : (rowUsed table rom sensorType a0 a1).isSome = true ↔
    ∃ row ∈ table, Answers rom sensorType a0 a1 row := by
  rw [rowUsed_eq, BestFit.firstBest_isSome_iff]
  simp only [applies_iff]

theorem closeness_le_used (used : rowUsed table rom sensorType a0 a1 = some row)
    (mem : other ∈ table) (ok : Answers rom sensorType a0 a1 other) :
    closeness other rom ≤ closeness row rom := by
  rw [rowUsed_eq] at used
  exact BestFit.le_firstBest used mem (applies_iff.mpr ok)

end Rows

/-- The best-fitting row wins: there is a program as soon as some row answers the query; the row
used is the first of the closest ones; and no row is used where another that answers is closer in
some field and as close in those before it. -/
theorem captureProgFrom_bestFit (table : List SensorCaptureProg) (rom : RomInfo)
    (sensorType a0 a1 : UInt32) :
    ((captureProgFrom table rom sensorType a0 a1).isSome = true ↔
      ∃ row ∈ table, Answers rom sensorType a0 a1 row) ∧
    captureProgFrom table rom sensorType a0 a1 =
      (rowUsed table rom sensorType a0 a1).map (fun row => row.blobs.flatten) ∧
    (∀ row, rowUsed table rom sensorType a0 a1 = some row ↔
      ∃ before after, table = before ++ row :: after ∧ Answers rom sensorType a0 a1 row ∧
        (∀ other ∈ before, Answers rom sensorType a0 a1 other →
          closeness other rom < closeness row rom) ∧
        ∀ other ∈ after, Answers rom sensorType a0 a1 other →
          closeness other rom ≤ closeness row rom) ∧
    ∀ row ∈ table, Answers rom sensorType a0 a1 row → ∀ other i,
      (closeness other rom).take i = (closeness row rom).take i →
      (closeness other rom).getD i 0 < (closeness row rom).getD i 0 →
      rowUsed table rom sensorType a0 a1 ≠ some other := by
  refine ⟨?_, captureProgFrom_eq, fun _ => rowUsed_eq_some_iff, ?_⟩
  · rw [captureProgFrom_eq, Option.isSome_map, rowUsed_isSome_iff]
  · intro row mem ok other i same less used
    have closer : closeness other rom < closeness row rom := BestFit.lt_of_take_eq rfl same less
    exact absurd (closeness_le_used used mem ok) (not_le.mpr closer)

end ValidityFprintd.Sensor
