import ValidityFprintd.EnrollHistory
import ValidityFprintd.EnrollLoss

/-! The record of a finished finger, taken apart again by the lengths written into it. -/

namespace ValidityFprintd.Enroll
open Effect Db

/-- An entry of the given tag: its value, by its own length, and what follows it. -/
def readEntry (tag : UInt16) : Bytes → Option (Bytes × Bytes)
  | t0 :: t1 :: l0 :: l1 :: rest =>
    let len := (Bytes.fromLe16 l0 l1).toNat
    if Bytes.fromLe16 t0 t1 = tag ∧ len ≤ rest.length then some (rest.take len, rest.drop len)
    else none
  | _ => none

theorem readEntry_entry (tag : UInt16) {value : Bytes} (fits : value.length < 65536)
    (rest : Bytes) :
    readEntry tag (Bytes.le16 tag ++ Bytes.le16 (Bytes.len16 value) ++ value ++ rest) =
      some (value, rest) := by
  have shape : Bytes.le16 tag ++ Bytes.le16 (Bytes.len16 value) ++ value ++ rest =
      UInt8.ofNat tag.toNat :: UInt8.ofNat (tag.toNat / 256) ::
        UInt8.ofNat (Bytes.len16 value).toNat :: UInt8.ofNat ((Bytes.len16 value).toNat / 256) ::
          (value ++ rest) := by
    simp only [Bytes.le16, List.cons_append, List.nil_append]
  rw [shape, readEntry]
  simp only [Bytes.fromLe16_le16]
  simp only [Bytes.len16_toNat fits, List.take_left, List.drop_left]
  rw [if_pos ⟨trivial, by simp⟩]

/-- Subtype, template and template id of a finger's record. -/
def readFingerData : Bytes → Option (UInt16 × Bytes × Bytes)
  | s0 :: s1 :: k0 :: k1 :: i0 :: i1 :: z0 :: z1 :: rest =>
    let infoLen := (Bytes.fromLe16 i0 i1).toNat
    if Bytes.fromLe16 k0 k1 = 3 ∧ Bytes.fromLe16 z0 z1 = 0x20 ∧
        rest.drop infoLen = List.replicate 0x20 0 then do
      let (template, more) ← readEntry 1 (rest.take infoLen)
      let (tid, behind) ← readEntry 2 more
      if behind = [] then some (Bytes.fromLe16 s0 s1, template, tid) else none
    else none
  | _ => none

/-- The value of a creation command whose length field says how many bytes follow. -/
def creationValue : Bytes → Option Bytes
  | 0x47 :: _ :: _ :: _ :: _ :: _ :: _ :: l0 :: l1 :: value =>
    if (Bytes.fromLe16 l0 l1).toNat = value.length then some value else none
  | _ => none

theorem creationValue_recordCreation (parent kind storage : UInt16) {data : Bytes}
    (fits : data.length < 65536) : creationValue (recordCreation parent kind storage data) =
      some data := by
  simp only [recordCreation, Bytes.le16, List.cons_append, List.nil_append, creationValue,
    Bytes.fromLe16_le16]
  rw [if_pos (Bytes.len16_toNat fits)]

section Record

variable {template tid : Bytes}

theorem readFingerData_makeFingerData (subtype : UInt16)
    (fits : 8 + template.length + tid.length < 65536) :
    readFingerData (makeFingerData subtype template tid) = some (subtype, template, tid) := by
  let tinfo := Bytes.le16 1 ++ Bytes.le16 (Bytes.len16 template) ++ template ++
    Bytes.le16 2 ++ Bytes.le16 (Bytes.len16 tid) ++ tid
  have size : tinfo.length < 65536 := by
    simp only [tinfo, List.length_append, Bytes.le16_length]
    omega
  have shape : makeFingerData subtype template tid =
      UInt8.ofNat subtype.toNat :: UInt8.ofNat (subtype.toNat / 256) :: 3 :: 0 ::
        UInt8.ofNat (Bytes.len16 tinfo).toNat :: UInt8.ofNat ((Bytes.len16 tinfo).toNat / 256) ::
          0x20 :: 0 :: (tinfo ++ List.replicate 0x20 0) := by
    simp only [makeFingerData, tinfo, Bytes.le16, List.append_assoc, List.cons_append,
      List.nil_append]
    rfl
  have first : readEntry 1 tinfo = some (template,
      Bytes.le16 2 ++ Bytes.le16 (Bytes.len16 tid) ++ tid ++ []) := by
    have entry := readEntry_entry 1 (show template.length < 65536 by omega)
      (Bytes.le16 2 ++ Bytes.le16 (Bytes.len16 tid) ++ tid ++ [])
    simpa only [tinfo, List.append_assoc, List.append_nil] using entry
  rw [shape, readFingerData]
  simp only [Bytes.fromLe16_le16]
  simp only [Bytes.len16_toNat size, List.take_left, List.drop_left, first]
  rw [if_pos ⟨rfl, rfl, trivial⟩]
  show (readEntry 2 _).bind _ = _
  rw [readEntry_entry 2 (by omega)]
  rfl

end Record

variable {S : Type} {w : Usb.World S} {fuel : Nat} {s t : S}

/-- A template that came with its id is stored as it came, and the command that stores it says
how long its record is. -/
theorem finger_data_exact {blob : WriteEnable} {prev : Bytes} {records : Records}
    (run : Yields (appendNewImage w fuel blob prev) s records t) (complete : records.tid ≠ [])
    (subtype userDbid storage : UInt16) :
    readFingerData (makeFingerData subtype records.template records.tid) =
        some (subtype, records.template, records.tid) ∧
      creationValue (recordCreation userDbid recordFingerRequested storage
          (makeFingerData subtype records.template records.tid)) =
        some (makeFingerData subtype records.template records.tid) := by
  have size := Records.appendNewImage_size run
  rw [Records.recordsSize, if_neg complete, magicLen] at size
  refine ⟨readFingerData_makeFingerData subtype (by omega), creationValue_recordCreation _ _ _ ?_⟩
  rw [Records.makeFingerData_length]
  omega

def wholeTemplate : Bytes := [0, 0, 5, 0] ++ List.replicate 52 8 ++ [1, 2, 3, 4, 5]

def wholeTid : Bytes := [7, 0, 9] ++ List.replicate 13 6

def completing : Usb.World Unit
  | .cmd (0x6b :: _), s => (.ok ([0, 0] ++ Bytes.le16 133 ++ wholeTemplate ++
      ([3, 0, 16, 0] ++ List.replicate 52 0 ++ wholeTid)), s)
  | .cmd _, s => (.ok [0, 0], s)
  | .pollInterrupt, s => (.ok (some [0]), s)
  | .readData, s => (.ok [], s)
  | .now, s => (0, s)
  | .current, s => (1, s)
  | .onStage _ _, s => ((), s)

theorem finger_data_exact_full : ∃ records t,
    Yields (appendNewImage completing 1 smallRequest.blob []) () records t ∧
    readFingerData (makeFingerData 2 records.template records.tid) =
      some (2, wholeTemplate, wholeTid) := by
  have run : Yields (appendNewImage completing 1 smallRequest.blob []) ()
      ⟨[], wholeTemplate, wholeTid⟩ _ := ⟨by decide +kernel, rfl⟩
  exact ⟨_, _, run, (finger_data_exact run (by decide) 2 11 3).1⟩

end ValidityFprintd.Enroll
