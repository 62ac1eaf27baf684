import Mathlib.Data.Nat.Size
import ValidityFprintd.Anchors

/-! How long the chunks of a capture command are: what both line updates append to the
program, counted byte for byte. -/

namespace ValidityFprintd.Calibration
open Effect Timeslot

/-- A length rounded up to whole dwords. -/
def dwords (n : Nat) : Nat := (n + 3) / 4 * 4

theorem padDword_length (data : Bytes) : (padDword data).length = dwords data.length := by
  unfold padDword dwords
  split
  · omega
  · rw [Bytes.padTo_length]
    omega

section Packed

theorem widthOf_le {fuel k : Nat} {span : UInt8} (enough : span.toNat < 2 ^ fuel) :
    widthOf fuel span ≤ k ↔ span.toNat < 2 ^ k := by
  induction fuel generalizing span k with
  | zero =>
    have none : span.toNat = 0 := by omega
    simp only [widthOf, none, Nat.zero_le, Nat.two_pow_pos]
  | succ fuel ih =>
    rw [widthOf]
    split
    case isTrue some =>
      have half : (span >>> 1).toNat = span.toNat / 2 := UInt8.toNat_shiftRight span 1
      have pos : 0 < span.toNat := UInt8.lt_iff_toNat_lt.mp some
      cases k with
      | zero => simp only [Nat.le_zero, Nat.succ_ne_zero, false_iff]; omega
      | succ k =>
        rw [Nat.succ_le_succ_iff, ih (by rw [half]; omega), half]
        omega
    case isFalse none =>
      have zero : span.toNat = 0 := by
        have bound := mt UInt8.lt_iff_toNat_lt.mpr none
        exact Nat.eq_zero_of_not_pos bound
      simp only [zero, Nat.zero_le, Nat.two_pow_pos]

theorem widthOf_eq (span : UInt8) : widthOf 8 span = Nat.size span.toNat := by
  have enough : span.toNat < 2 ^ 8 := span.toNat_lt
  apply Nat.le_antisymm
  · exact (widthOf_le enough).mpr (Nat.lt_size_self _)
  · exact Nat.size_le.mpr ((widthOf_le enough).mp (Nat.le_refl _))

theorem packValue_length (u j : Nat) (val : UInt8) (out : Bytes) :
    (packValue u j val out).length = out.length := by
  refine List.foldlRecOn (motive := fun b : Bytes => b.length = out.length) _ _ rfl ?_
  intro b held bit _
  split
  · rw [setBit, List.length_modify, held]
  · exact held

/-- The binary digits of the spread of some values. -/
def spreadBits (b : Bytes) : Nat :=
  match b.min?, b.max? with
  | some m, some top => Nat.size (top - m).toNat
  | _, _ => 0

theorem bitpack_length (b : Bytes) :
    (bitpack b).2.2.length = (spreadBits b * b.length + 7) / 8 := by
  unfold bitpack
  split
  · rename_i m top least most
    have spread : spreadBits b = widthOf 8 (top - m) := by
      rw [spreadBits, least, most, widthOf_eq]
    rw [spread]
    dsimp only
    split
    · rename_i flat
      rw [flat, Nat.zero_mul]
      rfl
    · refine List.foldlRecOn (motive := fun out : Bytes =>
        out.length = (widthOf 8 (top - m) * b.length + 7) / 8) _ _ List.length_replicate ?_
      intro out held v _
      exact (packValue_length _ _ _ _).trans held
  · rename_i empty
    cases b with
    | nil => rfl
    | cons x b => exact absurd rfl (empty _ _ rfl)

end Packed

section Tables

variable {mode : CaptureMode} {cfg : SensorConfig} {place : Bytes → Outcome String Bytes}
  {cs out : List Chunk} {tst tst' : Bytes} {width : Nat}

/-- A chunk of the program and the one sent in its place: only a timeslot table may differ. -/
def Kept (c c' : Chunk) : Prop := c'.kind = c.kind ∧ (c.kind ≠ chunkTimeslotTable → c' = c)

theorem patchTables_kept (patched : patchTables mode cfg place cs tst = .ok (out, tst')) :
    List.Forall₂ Kept cs out := by
  induction cs generalizing out tst tst' with
  | nil =>
    cases patched
    exact .nil
  | cons c cs ih =>
    rw [patchTables] at patched
    split at patched
    · obtain ⟨⟨rest, last⟩, next, patched⟩ := Outcome.bind_eq_ok.mp patched
      cases patched
      exact .cons ⟨rfl, fun _ => rfl⟩ (ih next)
    · rename_i timeslot
      obtain ⟨table, _, patched⟩ := Outcome.bind_eq_ok.mp patched
      obtain ⟨body, _, patched⟩ := Outcome.bind_eq_ok.mp patched
      obtain ⟨⟨rest, last⟩, next, patched⟩ := Outcome.bind_eq_ok.mp patched
      cases patched
      exact .cons ⟨rfl, fun other => absurd other timeslot⟩ (ih next)

theorem patchTables_fit (narrow : width < 65536)
    (placed : ∀ table body, place table = .ok body → body.length ≤ max width table.length)
    (fit : ∀ c ∈ cs, c.body.length < 65536) (last : tst.length < 65536)
    (patched : patchTables mode cfg place cs tst = .ok (out, tst')) :
    (∀ c ∈ out, c.body.length < 65536) ∧ tst'.length < 65536 := by
  induction cs generalizing out tst tst' with
  | nil =>
    cases patched
    exact ⟨fit, last⟩
  | cons c cs ih =>
    have here := fit c List.mem_cons_self
    have later := fun c' mem => fit c' (List.mem_cons_of_mem _ mem)
    rw [patchTables] at patched
    split at patched
    · obtain ⟨⟨rest, table'⟩, next, patched⟩ := Outcome.bind_eq_ok.mp patched
      cases patched
      obtain ⟨rests, table⟩ := ih later last next
      exact ⟨List.forall_mem_cons.mpr ⟨here, rests⟩, table⟩
    · obtain ⟨table, done, patched⟩ := Outcome.bind_eq_ok.mp patched
      obtain ⟨body, sent, patched⟩ := Outcome.bind_eq_ok.mp patched
      obtain ⟨⟨rest, table'⟩, next, patched⟩ := Outcome.bind_eq_ok.mp patched
      cases patched
      have size := patchedTable_length done
      have bound := placed table body sent
      obtain ⟨rests, searched⟩ := ih later (by omega) next
      exact ⟨List.forall_mem_cons.mpr ⟨by dsimp only; omega, rests⟩, searched⟩

end Tables

section Entries

variable {calib : Calibration} {mode : CaptureMode} {cfg : SensorConfig}
  {lines pixels : List Line}

theorem lineHeads_length (lines : List Line) : (lineHeads lines).length = 4 + 8 * lines.length := by
  have rows := Bytes.table_length (n := 8)
    (f := fun l : Line => Bytes.le32 l.mask ++ Bytes.le32 l.flags) (fun _ => rfl) lines
  rw [lineHeads, List.length_append, rows, Bytes.le32_length]

theorem column_length (calibData : Bytes) (p : Nat) :
    (Bytes.padTo 4 ((Bytes.range? calibData p (p + 4)).getD [])).length = 4 := by
  rw [Bytes.padTo_length]
  cases read : Bytes.range? calibData p (p + 4) with
  | none => rfl
  | some four =>
    obtain ⟨inside, same⟩ := Option.ite_none_right_eq_some.mp read
    rw [Option.getD_some, ← Option.some.inj same, List.length_drop, List.length_take]
    omega

theorem stripe_length {calibData : Bytes} {bpcl : Nat} :
    ∀ l ∈ stripes calibData bpcl, l.data.length = 448 := by
  intro l mem
  obtain ⟨k, _, rfl⟩ := List.mem_map.mp mem
  exact (Bytes.table_length (n := 4)
    (fun j => column_length calibData (8 + j * bpcl + 4 * k)) (List.range 112)).trans rfl

theorem stripes_pad (calibData : Bytes) (bpcl : Nat) :
    (stripes calibData bpcl).map Line.pad = stripes calibData bpcl := by
  refine (List.map_congr_left fun l mem => ?_).trans (List.map_id _)
  have whole : padDword l.data = l.data := by
    rw [padDword, stripe_length l mem]
    rfl
  rw [Line.pad, whole]
  rfl

theorem pixels_length (striped : Striped calib cfg pixels) :
    pixels.length ≤ 28 ∧ ((pixels.map Line.pad).flatMap Line.data).length ≤ 12544 := by
  obtain ⟨_, rfl⟩ | rfl := striped
  · exact ⟨Nat.zero_le _, Nat.zero_le _⟩
  · have count : (stripes calib.calibData
        (calib.calibData.length / cfg.typeInfo.linesPerCalibrationData.toNat)).length = 28 := by
      rw [stripes, List.length_map, List.length_range]
    rw [stripes_pad, List.length_flatMap, List.map_congr_left stripe_length, count]
    constructor
    · decide
    · rw [List.map_const', count]
      decide

theorem lineUpdateBody_length (moved : ∀ l ∈ lines, 1 < l.transformIndex)
    (two : lines.length = 2) (striped : Striped calib cfg pixels) :
    (lineUpdateBody (lines ++ pixels.map Line.pad)).length < 65536 := by
  obtain ⟨few, small⟩ := pixels_length striped
  have kept := fun l mem => column_transformIndex (pixels_flags striped l mem)
  rw [lineUpdateBody, filter_direct moved kept, List.length_append, lineHeads_length,
    List.length_append, List.length_map, two]
  omega

theorem transformBody_length {pc pc' : Nat}
    (moved : ∀ l ∈ [(blobEntry cfg pc).pad, (trimsEntry cfg pc').pad], 1 < l.transformIndex)
    (striped : Striped calib cfg pixels) :
    (transformBody ([(blobEntry cfg pc).pad, (trimsEntry cfg pc').pad] ++
        pixels.map Line.pad)).length =
      8 + dwords cfg.typeInfo.calibrationBlob.length +
        dwords (bitpack cfg.factoryCalibrationValues).2.2.length := by
  have kept := fun l mem => column_transformIndex (pixels_flags striped l mem)
  have row : ∀ l : Line, l.transformRow.length = 4 + l.data.length := by
    intro l
    simp only [Line.transformRow, List.length_append, List.length_cons, List.length_nil,
      Bytes.le16_length]
  have blob : (blobEntry cfg pc).pad.data.length =
      dwords cfg.typeInfo.calibrationBlob.length := padDword_length _
  have trims : (trimsEntry cfg pc').pad.data.length =
      dwords (bitpack cfg.factoryCalibrationValues).2.2.length := padDword_length _
  rw [transformBody, filter_transformed moved kept]
  simp only [List.flatMap_cons, List.flatMap_nil, List.append_nil, List.length_append, row, blob,
    trims]
  omega

end Entries

end ValidityFprintd.Calibration
