import ValidityFprintd.FlashReader
import ValidityFprintd.TlsOpen

/-! Two checks of the stored baseline: one looks at the fields of the record's header, the other
encodes the body anew and compares the records. -/

namespace ValidityFprintd.Baseline
open Effect Crypto Flash

variable {S : Type} {C : Primitives} {w : Usb.World S} {content : Nat → UInt8}
  {granted : Nat → Nat → Prop} {s t : S}

/-! What partition 6 holds. -/

def header (content : Nat → UInt8) : Bytes := window content 0 0x44

def storedMagic (content : Nat → UInt8) : UInt16 := Bytes.fromLe16 (content 0) (content 1)

def storedLength (content : Nat → UInt8) : UInt16 := Bytes.fromLe16 (content 2) (content 3)

def storedBody (content : Nat → UInt8) : Bytes := window content 0x44 (storedLength content).toNat

/-- The record is there to be read: its magic word, and the blocks its length asks for. -/
structure Present (content : Nat → UInt8) (granted : Nat → Nat → Prop) : Prop where
  head : granted 0 0x44
  magic : storedMagic content = cleanSlateMagic
  body : Spans granted 0x44 (storedLength content).toNat

theorem present_iff {P : Prop} : (granted 0 0x44 ∧ storedMagic content = cleanSlateMagic ∧
    Spans granted 0x44 (storedLength content).toNat ∧ P) ↔ Present content granted ∧ P :=
  ⟨fun ⟨head, magic, body, p⟩ => ⟨⟨head, magic, body⟩, p⟩,
    fun ⟨present, p⟩ => ⟨present.head, present.magic, present.body, p⟩⟩

def Sealed (C : Primitives) (content : Nat → UInt8) : Prop :=
  window content 4 0x20 = (C.sha256 (storedBody content)).toList ∧
    window content 0x24 0x20 = List.replicate 0x20 0

theorem header_fields : header content =
    Bytes.le16 (storedMagic content) ++ Bytes.le16 (storedLength content) ++
      window content 4 0x20 ++ window content 0x24 0x20 := by
  have split : header content = window content 0 2 ++ window content 2 2 ++
      window content 4 0x20 ++ window content 0x24 0x20 := by
    rw [header, window_add (n := 0x24) 0x20, window_add (n := 4) 0x20, window_add (n := 2) 2]
  rw [split, storedMagic, storedLength, Bytes.le16_fromLe16, Bytes.le16_fromLe16]
  rfl

theorem header_length : (header content).length = 0x44 := window_length

theorem header_reserved : ((header content).take 0x44).drop 0x24 = window content 0x24 0x20 := by
  have front : (Bytes.le16 (storedMagic content) ++ Bytes.le16 (storedLength content) ++
      window content 4 0x20).length = 0x24 := by
    simp only [List.length_append, Bytes.le16_length, window_length]
  rw [List.take_of_length_le (Nat.le_of_eq header_length), header_fields, List.drop_left' front]

theorem header_digest : ((header content).take 0x24).drop 4 = window content 4 0x20 := by
  have front : (Bytes.le16 (storedMagic content) ++ Bytes.le16 (storedLength content) ++
      window content 4 0x20).length = 0x24 := by
    simp only [List.length_append, Bytes.le16_length, window_length]
  rw [header_fields, List.take_left' front]
  rfl

theorem header_magic : (Bytes.rd16 (header content) 0 : Outcome String UInt16) =
    .ok (storedMagic content) := rfl

theorem header_len : (Bytes.rd16 (header content) 2 : Outcome String UInt16) =
    .ok (storedLength content) := rfl

theorem storedLength_toUInt32 : (storedLength content).toUInt32.toNat =
    (storedLength content).toNat := UInt16.toNat_toUInt32 _

theorem body_room : (0x44 : UInt32).toNat +
    ((storedLength content).toUInt32.toNat + 0xfff) / 0x1000 * 0x1000 < 4294967296 := by
  have small := (storedLength content).toNat_lt
  have start : (0x44 : UInt32).toNat = 0x44 := rfl
  rw [storedLength_toUInt32, start]
  omega

theorem body_yields (h : Reader w partitionCalibration (fun _ => content) granted)
    (body : Spans granted 0x44 (storedLength content).toNat) (s : S) :
    ∃ t, Yields (readFlashAll w partitionCalibration 0x44 (storedLength content).toUInt32) s
      (storedBody content) t := by
  obtain ⟨t, all, _⟩ := h.readFlashAll (s := s) body_room (by rwa [storedLength_toUInt32])
  rw [storedLength_toUInt32] at all
  exact ⟨t, all⟩

theorem body_of_yields (h : Strict w partitionCalibration (fun _ => content) granted) {b : Bytes}
    (run : Yields (readFlashAll w partitionCalibration 0x44 (storedLength content).toUInt32) s
      b t) : Spans granted 0x44 (storedLength content).toNat ∧ b = storedBody content := by
  obtain ⟨ok, whole⟩ := h.readFlashAll body_room run
  rw [storedLength_toUInt32] at ok whole
  exact ⟨ok, whole⟩

section Readers

variable (h : Strict w partitionCalibration (fun _ => content) granted)

include h

theorem headed_iff {α : Type} {f : Bytes → Usb.Drv S α} {a : α} {P : Prop}
    (rest : ∀ u, (∃ t, Yields (f (header content)) u a t) ↔ P) :
    (∃ t, Yields (readFlash w partitionCalibration 0 0x44 >>= f) s a t) ↔ granted 0 0x44 ∧ P := by
  constructor
  · rintro ⟨t, run⟩
    obtain ⟨head, u, first, run⟩ := Yields.bind_iff.mp run
    obtain ⟨ok, rfl, _⟩ := h.readFlash first
    exact ⟨ok, (rest u).mp ⟨t, run⟩⟩
  · rintro ⟨ok, held⟩
    have head : granted (0 : UInt32).toNat (0x44 : UInt32).toNat := ok
    obtain ⟨u, first, _⟩ := h.toReader.readFlash (s := s) head
    obtain ⟨t, run⟩ := (rest u).mpr held
    exact ⟨t, Yields.bind_iff.mpr ⟨_, u, first, run⟩⟩

theorem bodied_iff {α : Type} {g : Bytes → α} {a : α} :
    (∃ t, Yields (readFlashAll w partitionCalibration 0x44 (storedLength content).toUInt32 >>=
      fun b => Act.ret (g b)) s a t) ↔
    Spans granted 0x44 (storedLength content).toNat ∧ g (storedBody content) = a := by
  constructor
  · rintro ⟨t, run⟩
    obtain ⟨body, _, read, run⟩ := Yields.bind_iff.mp run
    obtain ⟨blocks, rfl⟩ := body_of_yields h read
    exact ⟨blocks, (Yields.ret_iff.mp run).1⟩
  · rintro ⟨blocks, rfl⟩
    obtain ⟨t, read⟩ := body_yields h.toReader blocks s
    exact ⟨t, Yields.bind_iff.mpr ⟨_, t, read, Yields.ret_iff.mpr ⟨rfl, rfl⟩⟩⟩

theorem readStored_iff {stored : Bytes} : (∃ t, Yields (readStored w) s (some stored) t) ↔
    Present content granted ∧ stored = header content ++ storedBody content := by
  refine (headed_iff h fun u => ?_).trans present_iff
  show (∃ t, Yields (if (header content).length < _ then _ else _) _ _ t) ↔ _
  rw [header_length, if_neg (by decide), header_magic, Act.ofOutcome_ok_bind]
  by_cases magic : storedMagic content = cleanSlateMagic
  · rw [if_neg (not_not.mpr magic), header_len, Act.ofOutcome_ok_bind]
    refine (bodied_iff h).trans ?_
    rw [Option.some_inj, eq_comm (a := stored)]
    exact (and_iff_right magic).symm
  · rw [if_pos magic]
    exact ⟨fun ⟨_, ended, _⟩ => (nomatch ended), fun held => absurd held.1 magic⟩

theorem verifyRoundtrip_iff {rt : RoundTrip} : (∃ t, Yields (verifyRoundtrip C w) s rt t) ↔
    Present content granted ∧ rt = roundTrip C (header content ++ storedBody content) := by
  constructor
  · rintro ⟨t, run⟩
    obtain ⟨stored, u, first, run⟩ := Yields.bind_iff.mp run
    cases stored with
    | none => cases run.1
    | some stored =>
      obtain ⟨present, rfl⟩ := (readStored_iff h).mp ⟨u, first⟩
      exact ⟨present, (Yields.ret_iff.mp run).1.symm⟩
  · rintro ⟨present, rfl⟩
    obtain ⟨u, first⟩ := (readStored_iff h (s := s)).mpr ⟨present, rfl⟩
    exact ⟨u, Yields.bind_iff.mpr ⟨_, u, first, Yields.ret_iff.mpr ⟨rfl, rfl⟩⟩⟩

theorem checkCleanSlate_iff : (∃ t, Yields (checkCleanSlate C w) s true t) ↔
    Present content granted ∧ Sealed C content := by
  have zeros : (window content 0x24 0x20).any (fun b => b ≠ 0) = false ↔
      window content 0x24 0x20 = List.replicate 0x20 0 := by
    rw [List.any_eq_false, List.eq_replicate_iff]
    simp
  refine (headed_iff h fun u => ?_).trans present_iff
  show (∃ t, Yields (if (header content).length < _ then _ else _) _ _ t) ↔ _
  rw [header_length, if_neg (by decide), header_magic, Act.ofOutcome_ok_bind, header_len,
    Act.ofOutcome_ok_bind, header_reserved, header_digest]
  by_cases magic : storedMagic content = cleanSlateMagic
  · rw [if_neg (not_not.mpr magic)]
    by_cases clear : window content 0x24 0x20 = List.replicate 0x20 0
    · rw [zeros.mpr clear, if_neg Bool.false_ne_true]
      refine (bodied_iff h).trans ?_
      rw [decide_eq_true_iff, eq_comm]
      exact ⟨fun ⟨body, digest⟩ => ⟨magic, body, digest, clear⟩,
        fun ⟨_, body, digest, _⟩ => ⟨body, digest⟩⟩
    · rw [if_pos (Bool.of_not_eq_false (mt zeros.mp clear))]
      exact ⟨fun ⟨_, ended, _⟩ => (nomatch ended), fun held => absurd held.2.2.2 clear⟩
  · rw [if_pos magic]
    exact ⟨fun ⟨_, ended, _⟩ => (nomatch ended), fun held => absurd held.1 magic⟩

end Readers

theorem roundTrip_matches (magic : storedMagic content = cleanSlateMagic) :
    (roundTrip C (header content ++ storedBody content)).recordMatches = true ↔
      Sealed C content := by
  have body : (header content ++ storedBody content).drop bodyOffset.toNat = storedBody content :=
    List.drop_left' header_length
  have len : Bytes.len16 (storedBody content) = storedLength content := by
    rw [Bytes.len16, storedBody, window_length, UInt16.ofNat_toNat]
  have form : (roundTrip C (header content ++ storedBody content)).recordMatches =
      decide (encodeRecord C ((header content ++ storedBody content).drop bodyOffset.toNat) =
        header content ++ storedBody content) := rfl
  rw [form, decide_eq_true_eq, body, encodeRecord, len, header_fields, magic]
  constructor
  · intro same
    have fields := List.append_cancel_right same
    obtain ⟨front, reserved⟩ := List.append_inj' fields (by simp)
    exact ⟨(List.append_cancel_left front).symm, reserved.symm⟩
  · rintro ⟨digest, reserved⟩
    rw [digest, reserved]

/-- The two checks agree on whatever the partition holds. -/
theorem validators_agree_iff (h : Strict w partitionCalibration (fun _ => content) granted)
    (s s' s'' : S) : (∃ t, Yields (checkCleanSlate C w) s true t) ↔
      (∃ rec t, Yields (readStored w) s' (some rec) t) ∧
        ∃ rt t, Yields (verifyRoundtrip C w) s'' rt t ∧ rt.recordMatches = true := by
  rw [checkCleanSlate_iff h]
  constructor
  · rintro ⟨present, sealed⟩
    obtain ⟨t, found⟩ := (readStored_iff h (s := s')).mpr ⟨present, rfl⟩
    obtain ⟨u, checked⟩ := (verifyRoundtrip_iff h (s := s'')).mpr ⟨present, rfl⟩
    exact ⟨⟨_, t, found⟩, _, u, checked, (roundTrip_matches present.magic).mpr sealed⟩
  · rintro ⟨_, rt, t, checked, matches'⟩
    obtain ⟨present, rfl⟩ := (verifyRoundtrip_iff h).mp ⟨t, checked⟩
    exact ⟨present, (roundTrip_matches present.magic).mp matches'⟩

/-! A record that was written for an image. -/

section Encoded

variable {img : Bytes}

theorem encodeBody_length (img : Bytes) : (encodeBody img).length = img.length + 4 := by
  simp only [encodeBody, List.length_append, Bytes.le16_length]
  omega

theorem stored_of_held {body : Bytes} (fits : body.length < 65536)
    (held : ∀ i (hi : i < (encodeRecord C body).length), content i = (encodeRecord C body)[i]) :
    storedMagic content = cleanSlateMagic ∧ storedBody content = body ∧
      header content ++ storedBody content = encodeRecord C body ∧ Sealed C content := by
  have size := encodeRecord_length (C := C) body
  have head : header content = (encodeRecord C body).take 0x44 := by
    rw [header, window_eq (by omega) held, List.drop_zero]
  have front : (Bytes.le16 cleanSlateMagic ++ Bytes.le16 (Bytes.len16 body) ++
      (C.sha256 body).toList ++ List.replicate 0x20 0).length = 0x44 := by simp
  rw [encodeRecord, List.take_left' front, header_fields] at head
  obtain ⟨digested, reserved⟩ := List.append_inj' head (by simp)
  obtain ⟨words, digest⟩ := List.append_inj' digested (by simp)
  obtain ⟨magic, len⟩ := List.append_inj' words rfl
  have magic := Bytes.le16_inj magic
  have len : (storedLength content).toNat = body.length := by
    rw [Bytes.le16_inj len, Bytes.len16_toNat fits]
  have rest : storedBody content = body := by
    rw [storedBody, len, window_eq (by omega) held, encodeRecord, List.drop_left' front,
      List.take_length]
  have sealed : Sealed C content := ⟨by rw [digest, rest], reserved⟩
  refine ⟨magic, rest, ?_, sealed⟩
  rw [header_fields, words, rest, encodeRecord, digest, reserved]

theorem roundTrip_encoded (fits : img.length ≤ 65531) :
    roundTrip C (encodeRecord C (encodeBody img)) = ⟨true, true, img.length⟩ := by
  have front : (Bytes.le16 cleanSlateMagic ++ Bytes.le16 (Bytes.len16 (encodeBody img)) ++
      (C.sha256 (encodeBody img)).toList ++ List.replicate 0x20 0).length = 0x44 := by simp
  have body : (encodeRecord C (encodeBody img)).drop bodyOffset.toNat = encodeBody img := by
    rw [encodeRecord]
    exact List.drop_left' front
  have words : encodeBody img = UInt8.ofNat (Bytes.len16 img).toNat ::
      UInt8.ofNat ((Bytes.len16 img).toNat / 256) :: (img ++ [0, 0]) := rfl
  have last : (encodeBody img).drop ((encodeBody img).length - 2) = [0, 0] := by
    rw [encodeBody_length, encodeBody]
    exact List.drop_left' (by simp only [List.length_append, Bytes.le16_length]; omega)
  have size := encodeBody_length img
  rw [roundTrip, body, last, size, words]
  simp only [Bytes.fromLe16_le16]
  rw [Bytes.len16_toNat (by omega)]
  simp

end Encoded

/-- The two checks agree on whatever the partition holds, and both accept what was written for an
image. -/
theorem validators_agree (h : Strict w partitionCalibration (fun _ => content) granted) :
    (∀ s s' s'' : S, (∃ t, Yields (checkCleanSlate C w) s true t) ↔
      (∃ rec t, Yields (readStored w) s' (some rec) t) ∧
        ∃ rt t, Yields (verifyRoundtrip C w) s'' rt t ∧ rt.recordMatches = true) ∧
    ∀ img : Bytes, img.length ≤ 65531 → granted 0 0x44 → Spans granted 0x44 (img.length + 4) →
      (∀ i (hi : i < (encodeRecord C (encodeBody img)).length),
        content i = (encodeRecord C (encodeBody img))[i]) →
      ∀ s : S, (∃ t, Yields (checkCleanSlate C w) s true t) ∧
        (∃ t, Yields (readStored w) s (some (encodeRecord C (encodeBody img))) t) ∧
        ∃ t, Yields (verifyRoundtrip C w) s ⟨true, true, img.length⟩ t := by
  refine ⟨validators_agree_iff h, fun img fits head blocks held s => ?_⟩
  have size := encodeBody_length img
  obtain ⟨magic, body, whole, sealed⟩ := stored_of_held (by omega) held
  have len : (storedLength content).toNat = img.length + 4 := by
    rw [← size, ← body, storedBody, window_length]
  have present : Present content granted := ⟨head, magic, by rw [len]; exact blocks⟩
  refine ⟨(checkCleanSlate_iff h).mpr ⟨present, sealed⟩, ?_, ?_⟩
  · exact (readStored_iff h).mpr ⟨present, whole.symm⟩
  · rw [verifyRoundtrip_iff h, whole, roundTrip_encoded fits]
    exact ⟨present, rfl⟩

/-- The partition's bytes, on an erased flash behind them. -/
def heldBy (b : Bytes) (i : Nat) : UInt8 := b.getD i 0xff

/-- A sensor that reads such a flash, whatever the address. -/
def reading (b : Bytes) : Usb.World Unit
  | .cmd out, s =>
    match out with
    | 0x40 :: _ :: 1 :: _ :: _ :: a0 :: a1 :: a2 :: a3 :: s0 :: s1 :: s2 :: s3 :: [] =>
      let content := window (heldBy b) (Bytes.fromLe32 a0 a1 a2 a3).toNat
        (Bytes.fromLe32 s0 s1 s2 s3).toNat
      (.ok ([0, 0] ++ Bytes.le32 (Bytes.len32 content) ++ [0, 0] ++ content), s)
    | _ => (.ok [0, 0], s)
  | .pollInterrupt, s => (.ok none, s)
  | .readData, s => (.ok [], s)
  | .now, s => (0, s)
  | .current, s => (0, s)
  | .onStage _ _, s => ((), s)

theorem reading_strict (b : Bytes) :
    Strict (reading b) partitionCalibration (fun _ => heldBy b) fun _ _ => True where
  answers {addr n} s _ := by
    have answer : reading b (.cmd (readCommand partitionCalibration addr n)) s =
        (.ok ([0, 0] ++ Bytes.le32 (Bytes.len32 (window (heldBy b)
          (Bytes.fromLe32 _ _ _ _).toNat (Bytes.fromLe32 _ _ _ _).toNat)) ++ [0, 0] ++
          window (heldBy b) (Bytes.fromLe32 _ _ _ _).toNat (Bytes.fromLe32 _ _ _ _).toNat), s) :=
      rfl
    rw [Bytes.fromLe32_le32, Bytes.fromLe32_le32] at answer
    exact ⟨_, _, answer, ⟨0, 0, rfl⟩, rfl⟩
  refuses _ := trivial

theorem validators_agree_reading :
    ∃ t, Yields (checkCleanSlate Tls.plainPrimitives
      (reading (encodeRecord Tls.plainPrimitives (encodeBody [1, 2, 3])))) () true t :=
  ((validators_agree (reading_strict _)).2 [1, 2, 3] (by decide) trivial (fun _ _ => trivial)
    (fun i hi => by simp [heldBy, hi]) ()).1

end ValidityFprintd.Baseline
