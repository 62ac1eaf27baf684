import ValidityFprintd.Chunks
import ValidityFprintd.Listing

/-! The anchors of a line update: instructions found in one version of the timeslot table, and
read by the sensor in another, whose head is the calibration key line. -/

namespace ValidityFprintd.Calibration
open Effect Timeslot

/-- The table a program is sent with: the patched one behind the key line. -/
def placeKeyLine (calib : Calibration) (cfg : SensorConfig) (patched : Bytes) :
    Outcome String Bytes := do
  let key ← getKeyLine calib cfg
  .ok (key ++ patched.drop cfg.typeInfo.lineWidth.toNat)

section Tables

variable {mode : CaptureMode} {cfg : SensorConfig} {place : Bytes → Outcome String Bytes}
  {cs front back : List Chunk} {tst : Bytes}

end Tables

section Flags

theorem transformIndex_toNat (l : Line) :
    l.transformIndex.toNat = l.flags.toNat / 2 ^ 20 % 2 ^ 4 := by
  have mask : ((0x00f00000 : UInt32).toNat) >>> 20 = 2 ^ 4 - 1 := by decide
  have shift : (0x14 : UInt32).toNat % 32 = 20 := by decide
  rw [Line.transformIndex, UInt32.toNat_shiftRight, UInt32.toNat_and, shift,
    Nat.shiftRight_and_distrib, mask, Nat.and_two_pow_sub_one_eq_mod, Nat.shiftRight_eq_div_pow]

end Flags

section Entries

def Line.pad (l : Line) : Line := { l with data := padDword l.data }

/-- The bytes of an entry in the transform chunk. -/
def Line.transformRow (l : Line) : Bytes := [l.v0, l.v1] ++ Bytes.le16 l.v2 ++ l.data

def blobEntry (cfg : SensorConfig) (pc : Nat) : Line :=
  { mask := 0xff
    flags := anchorFlags pc 2 0x07000000
    data := cfg.typeInfo.calibrationBlob
    v0 := 0xf
    v1 := 0
    v2 := 0 }

def trimsEntry (cfg : SensorConfig) (pc : Nat) : Line :=
  let (u, m, packed) := bitpack cfg.factoryCalibrationValues
  { mask := 0xff
    flags := anchorFlags pc 3 0x07000000
    data := packed
    v0 := (u - 1) ||| 8
    v1 := m
    v2 := 0 }

def lineUpdateBody (lines : List Line) : Bytes :=
  lineHeads lines ++ (lines.filter fun l => l.transformIndex ≤ 1).flatMap Line.data

def transformBody (lines : List Line) : Bytes :=
  (lines.filter fun l => 1 < l.transformIndex).flatMap Line.transformRow

/-- The chunks a type-1 line update adds to the program. -/
def addedChunks (mode : CaptureMode) (lines : List Line) : List Chunk :=
  [⟨chunkReplyConfig, []⟩] ++ modeChunks mode identify4e identify2e enroll26 enroll2e ++
    [⟨chunkInterleave, Bytes.le32 1⟩, ⟨chunkLineUpdate, lineUpdateBody lines⟩,
      ⟨chunkLineUpdateTransform, transformBody lines⟩]

variable {calib : Calibration} {mode : CaptureMode} {program out : List Chunk}
  {cfg : SensorConfig}

/-- The stripes that are sent: none before the first calibration. -/
def Striped (calib : Calibration) (cfg : SensorConfig) (pixels : List Line) : Prop :=
  calib.calibData = [] ∧ pixels = [] ∨
    pixels = stripes calib.calibData
      (calib.calibData.length / cfg.typeInfo.linesPerCalibrationData.toNat)

theorem bytesPerCalibrationLine_eq {bpcl : Nat}
    (lines : bytesPerCalibrationLine calib cfg = .ok bpcl) :
    calib.calibData.length / cfg.typeInfo.linesPerCalibrationData.toNat = bpcl := by
  unfold bytesPerCalibrationLine at lines
  split at lines
  · cases lines
  · exact Outcome.ok.inj lines

theorem lineUpdateType1_eq_ok (update : lineUpdateType1 calib mode program cfg = .ok out) :
    ∃ patched tst pc size pc' size' pixels,
      patchTables mode cfg (placeKeyLine calib cfg) program [] = .ok (patched, tst) ∧
      findNthInsn tst 6 2 = .ok (some (pc, size)) ∧
      findNthRegwrite tst regCalibration 1 = .ok (some (pc', size')) ∧
      Striped calib cfg pixels ∧
      out = patched ++
        addedChunks mode ((blobEntry cfg pc :: trimsEntry cfg pc' :: pixels).map Line.pad) := by
  unfold lineUpdateType1 at update
  obtain ⟨⟨patched, tst⟩, tables, update⟩ := Outcome.bind_eq_ok.mp update
  obtain ⟨_, _, update⟩ := Outcome.bind_eq_ok.mp update
  obtain ⟨enableRx, found, update⟩ := Outcome.bind_eq_ok.mp update
  obtain ⟨⟨pc, size⟩, second, update⟩ := Outcome.bind_eq_ok.mp update
  obtain ⟨write, found', update⟩ := Outcome.bind_eq_ok.mp update
  obtain ⟨⟨pc', size'⟩, first, update⟩ := Outcome.bind_eq_ok.mp update
  obtain rfl := Outcome.ofOption_eq_ok.mp second
  obtain rfl := Outcome.ofOption_eq_ok.mp first
  have trims : trimsEntry cfg pc' =
      { mask := 0xff
        flags := anchorFlags pc' 3 0x07000000
        data := (bitpack cfg.factoryCalibrationValues).2.2
        v0 := ((bitpack cfg.factoryCalibrationValues).1 - 1) ||| 8
        v1 := (bitpack cfg.factoryCalibrationValues).2.1
        v2 := 0 } := rfl
  suffices written : ∃ pixels, Striped calib cfg pixels ∧
      out = patched ++
        addedChunks mode ((blobEntry cfg pc :: trimsEntry cfg pc' :: pixels).map Line.pad) by
    obtain ⟨pixels, sort, same⟩ := written
    exact ⟨patched, tst, pc, size, pc', size', pixels, tables, found, found', sort, same⟩
  rw [trims]
  by_cases none : calib.calibData.isEmpty = true
  · simp only [none, if_true, Outcome.ofOption, Outcome.ok_bind] at update
    refine ⟨[], .inl ⟨List.isEmpty_iff.mp none, rfl⟩, ?_⟩
    rw [← Outcome.ok.inj update, addedChunks]
    simp only [List.append_assoc]
    rfl
  · simp only [none, Bool.false_eq_true, if_false, Outcome.ofOption, Outcome.ok_bind] at update
    obtain ⟨bpcl, lines, update⟩ := Outcome.bind_eq_ok.mp update
    obtain rfl := bytesPerCalibrationLine_eq lines
    refine ⟨_, .inr rfl, ?_⟩
    rw [← Outcome.ok.inj update, addedChunks]
    simp only [List.append_assoc]
    rfl

theorem stripes_flags {calibData : Bytes} {bpcl : Nat} :
    ∀ l ∈ stripes calibData bpcl, ∃ column < 112, l.flags.toNat = column + 0x85 * 2 ^ 24 := by
  have low : ∀ k ∈ List.range 28,
      4 * k < 112 ∧ (UInt32.ofNat (4 * k) ||| 0x85000000).toNat = 4 * k + 0x85 * 2 ^ 24 := by
    decide
  intro l mem
  obtain ⟨k, inside, rfl⟩ := List.mem_map.mp mem
  exact ⟨4 * k, low k inside⟩

theorem anchorFlags_moved {l : Line} {pc : Nat} {slot kind : UInt32}
    (flags : l.flags = anchorFlags pc slot kind) (user : (slot <<< 0x14).toNat.testBit 21 = true) :
    1 < l.transformIndex := by
  have set : (l.flags.toNat / 2 ^ 20 % 2 ^ 4).testBit 1 = true := by
    rw [Nat.testBit_mod_two_pow, Nat.testBit_div_two_pow, flags, anchorFlags, UInt32.toNat_or,
      UInt32.toNat_or, Nat.testBit_or, Nat.testBit_or, user]
    simp
  have two := Nat.ge_two_pow_of_testBit set
  have one : (1 : UInt32).toNat = 1 := rfl
  rw [UInt32.lt_iff_toNat_lt, transformIndex_toNat, one]
  omega

theorem filter_direct {lines pixels : List Line} (moved : ∀ l ∈ lines, 1 < l.transformIndex)
    (kept : ∀ l ∈ pixels, l.transformIndex ≤ 1) :
    (lines ++ pixels).filter (fun l => l.transformIndex ≤ 1) = pixels := by
  rw [List.filter_append, List.filter_eq_nil_iff.mpr, List.filter_eq_self.mpr, List.nil_append]
  · exact fun l mem => decide_eq_true (kept l mem)
  · exact fun l mem => by simpa using moved l mem

theorem filter_transformed {lines pixels : List Line} (moved : ∀ l ∈ lines, 1 < l.transformIndex)
    (kept : ∀ l ∈ pixels, l.transformIndex ≤ 1) :
    (lines ++ pixels).filter (fun l => 1 < l.transformIndex) = lines := by
  rw [List.filter_append, List.filter_eq_self.mpr, List.filter_eq_nil_iff.mpr, List.append_nil]
  · exact fun l mem => by simpa using kept l mem
  · exact fun l mem => decide_eq_true (moved l mem)

theorem rd32_flags {lines : List Line} {l : Line} {data : Bytes} {i : Nat}
    (there : lines[i]? = some l) :
    Bytes.rd32 (ε := String) (lineHeads lines ++ data) (8 + 8 * i) = .ok l.flags := by
  obtain ⟨hi, same⟩ := List.getElem?_eq_some_iff.mp there
  have split : lines = lines.take i ++ l :: lines.drop (i + 1) := by
    rw [← same, ← List.drop_eq_getElem_cons hi, List.take_append_drop]
  have front : (lines.take i).length = i := by
    rw [List.length_take, Nat.min_eq_left (Nat.le_of_lt hi)]
  have size : ((lines.take i).flatMap fun l => Bytes.le32 l.mask ++ Bytes.le32 l.flags).length =
      8 * i := (Bytes.table_length (n := 8) (fun _ => rfl) _).trans (by rw [front])
  have rows : (lines.flatMap fun l => Bytes.le32 l.mask ++ Bytes.le32 l.flags) =
      ((lines.take i).flatMap fun l => Bytes.le32 l.mask ++ Bytes.le32 l.flags) ++
        (Bytes.le32 l.mask ++ Bytes.le32 l.flags ++
          (lines.drop (i + 1)).flatMap fun l => Bytes.le32 l.mask ++ Bytes.le32 l.flags) := by
    conv_lhs => rw [split]
    rw [List.flatMap_append, List.flatMap_cons]
  refine Bytes.rd32_at (Bytes.le32 (UInt32.ofNat lines.length) ++
      ((lines.take i).flatMap fun l => Bytes.le32 l.mask ++ Bytes.le32 l.flags) ++
      Bytes.le32 l.mask)
    (((lines.drop (i + 1)).flatMap fun l => Bytes.le32 l.mask ++ Bytes.le32 l.flags) ++ data) ?_ ?_
  · rw [lineHeads, rows]
    simp only [List.append_assoc]
  · simp only [List.length_append, Bytes.le32_length, size]
    omega

end Entries

section Anchored

variable {width n slot pc : Nat} {table key : Bytes} {p : Insn → Bool} {insn : Insn}

variable {calib : Calibration} {mode : CaptureMode} {cfg : SensorConfig} {out : List Chunk}
  {front back : List Chunk} {prog body : Bytes}

theorem entries_moved (cfg : SensorConfig) (pc pc' : Nat) :
    ∀ l ∈ [(blobEntry cfg pc).pad, (trimsEntry cfg pc').pad], 1 < l.transformIndex := by
  intro l mem
  rcases List.mem_pair.mp mem with rfl | rfl
  · have second : (blobEntry cfg pc).pad.flags = anchorFlags pc 2 0x07000000 := rfl
    exact anchorFlags_moved second (by decide)
  · have third : (trimsEntry cfg pc').pad.flags = anchorFlags pc' 3 0x07000000 := rfl
    exact anchorFlags_moved third (by decide)

theorem pixels_flags {pixels : List Line} (striped : Striped calib cfg pixels) :
    ∀ l ∈ pixels.map Line.pad, ∃ column < 112, l.flags.toNat = column + 0x85 * 2 ^ 24 := by
  intro l mem
  obtain ⟨pixel, inside, rfl⟩ := List.mem_map.mp mem
  obtain ⟨_, rfl⟩ | rfl := striped
  · cases inside
  · exact stripes_flags pixel inside

theorem column_transformIndex {l : Line}
    (flags : ∃ column < 112, l.flags.toNat = column + 0x85 * 2 ^ 24) : l.transformIndex ≤ 1 := by
  obtain ⟨column, small, flags⟩ := flags
  have index := transformIndex_toNat l
  have one : (1 : UInt32).toNat = 1 := rfl
  rw [UInt32.le_iff_toNat_le, index, flags, one]
  omega

/-- A line update ends with the two tables of its entries. -/
theorem lineUpdateType1_tables {program : List Chunk}
    (update : lineUpdateType1 calib mode program cfg = .ok out) :
    ∃ before pc pc' pixels, Striped calib cfg pixels ∧
      out = before ++
        [⟨chunkLineUpdate,
          lineHeads ((blobEntry cfg pc :: trimsEntry cfg pc' :: pixels).map Line.pad) ++
            (pixels.map Line.pad).flatMap Line.data⟩,
        ⟨chunkLineUpdateTransform,
          (blobEntry cfg pc).pad.transformRow ++ (trimsEntry cfg pc').pad.transformRow⟩] := by
  obtain ⟨patched, _, pc, _, pc', _, pixels, _, _, _, striped, rfl⟩ := lineUpdateType1_eq_ok update
  have moved := entries_moved cfg pc pc'
  have kept := fun l mem => column_transformIndex (pixels_flags striped l mem)
  have direct : lineUpdateBody ((blobEntry cfg pc :: trimsEntry cfg pc' :: pixels).map Line.pad) =
      lineHeads ((blobEntry cfg pc :: trimsEntry cfg pc' :: pixels).map Line.pad) ++
        (pixels.map Line.pad).flatMap Line.data :=
    congrArg (lineHeads _ ++ List.flatMap Line.data ·) (filter_direct moved kept)
  have transformed :
      transformBody ((blobEntry cfg pc :: trimsEntry cfg pc' :: pixels).map Line.pad) =
        (blobEntry cfg pc).pad.transformRow ++ (trimsEntry cfg pc').pad.transformRow :=
    (congrArg (List.flatMap Line.transformRow) (filter_transformed moved kept)).trans
      (congrArg ((blobEntry cfg pc).pad.transformRow ++ ·) (List.append_nil _))
  refine ⟨patched ++ ([⟨chunkReplyConfig, []⟩] ++
    modeChunks mode identify4e identify2e enroll26 enroll2e ++ [⟨chunkInterleave, Bytes.le32 1⟩]),
    pc, pc', pixels, striped, ?_⟩
  rw [addedChunks, direct, transformed]
  simp only [List.append_assoc, List.cons_append, List.nil_append]

section Seen

def tinyConfig : SensorConfig :=
  { typeInfo :=
      { repeatMultiplier := 2
        linesPerCalibrationData := 2
        lineWidth := 2
        calibrationBlob := [7] }
    captureProg := []
    linesPerFrame := 2
    bytesPerLine := 2
    keyCalibrationLine := 1
    calibrationFrames := 3
    factoryCalibrationValues := [1, 3]
    factoryCalibData := none
    lineUpdateType1 := true }

/-- Two zero bytes, Enable Rx twice and a write to the calibration register. -/
def tinyTable : Bytes := [0, 0, 6, 1, 6, 2, 0x4f, 5, 0]

end Seen

end Anchored

end ValidityFprintd.Calibration
