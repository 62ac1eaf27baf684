import ValidityFprintd.Provision
import ValidityFprintd.TlsRoundTrip

/-! What provisioning writes to partition 1, opening a session reads back: the blocks of the
record in their order, and from them the host's key, the certificate and the sensor's point. -/

namespace ValidityFprintd.Pairing
open Effect Crypto Provision

/-- PKCS#7: `n` bytes each holding the value `n`. -/
def padPkcs7 (m : Bytes) : Bytes :=
  m ++ List.replicate (16 - m.length % 16) (UInt8.ofNat (16 - m.length % 16))

theorem padPkcs7_blocks (m : Bytes) : (padPkcs7 m).length % 16 = 0 := by
  simp only [padPkcs7, List.length_append, List.length_replicate]
  omega

theorem unpadPkcs7_padPkcs7 (m : Bytes) : unpadPkcs7 (padPkcs7 m) = .ok m := by
  obtain ⟨k, hk⟩ : ∃ k, 16 - m.length % 16 = k + 1 := ⟨15 - m.length % 16, by omega⟩
  have byte : (UInt8.ofNat (k + 1)).toNat = k + 1 := by
    rw [UInt8.toNat_ofNat']
    omega
  have padded : padPkcs7 m = m ++ List.replicate (k + 1) (UInt8.ofNat (k + 1)) := by
    rw [padPkcs7, hk]
  have last : (padPkcs7 m).getLast? = some (UInt8.ofNat (k + 1)) := by
    rw [padded, List.replicate_succ', ← List.append_assoc, List.getLast?_concat]
  have size : (padPkcs7 m).length = m.length + (k + 1) := by
    rw [padded, List.length_append, List.length_replicate]
  have nonzero : UInt8.ofNat (k + 1) ≠ 0 := by
    intro zero
    rw [zero] at byte
    cases byte
  unfold unpadPkcs7
  simp only [last, byte, size]
  rw [if_neg (by rw [not_or]; exact ⟨nonzero, by omega⟩), Nat.add_sub_cancel, padded,
    List.take_left]

variable {C : Primitives}

section Blocks

theorem parseFlashBlocks_block {id : UInt16} {body rest : Bytes} {blocks : List FlashBlock}
    (live : id ≠ blockEnd) (fits : body.length < 65536)
    (next : parseFlashBlocks C rest = .ok blocks) :
    parseFlashBlocks C (tlsFlashBlock C id body ++ rest) = .ok (⟨id, body⟩ :: blocks) := by
  have digest : ((C.sha256 body).toList).length = 32 := Vector.length_toList
  have shape : tlsFlashBlock C id body ++ rest =
      UInt8.ofNat id.toNat :: UInt8.ofNat (id.toNat / 256) ::
        UInt8.ofNat (Bytes.len16 body).toNat :: UInt8.ofNat ((Bytes.len16 body).toNat / 256) ::
          ((C.sha256 body).toList ++ (body ++ rest)) := by
    simp only [tlsFlashBlock, Bytes.le16, List.append_assoc, List.cons_append, List.nil_append]
  rw [shape, parseFlashBlocks]
  simp only [Bytes.fromLe16_le16, List.take_left' digest, List.drop_left' digest]
  simp only [Bytes.len16_toNat fits, List.take_left, List.drop_left, List.length_append, digest,
    next]
  rw [if_neg (by rw [not_or]; exact ⟨by omega, live⟩), if_neg (by omega), if_neg (by simp)]
  rfl

theorem parseFlashBlocks_tail (n : Nat) :
    parseFlashBlocks C (List.replicate n 0xff) = .ok [] := by
  match n with
  | 0 | 1 | 2 | 3 =>
    rw [parseFlashBlocks]
    intro i0 i1 s0 s1 tail
    simp [List.replicate_succ]
  | n + 4 =>
    simp only [List.replicate_succ]
    rw [parseFlashBlocks]
    exact if_pos (.inr rfl)

/-- Blocks one after another are read back, however much of the partition stays erased. -/
theorem parseFlashBlocks_blocks {blocks : List FlashBlock}
    (sound : ∀ b ∈ blocks, b.id ≠ blockEnd ∧ b.body.length < 65536) (n : Nat) :
    parseFlashBlocks C ((blocks.flatMap fun b => tlsFlashBlock C b.id b.body) ++
      List.replicate n 0xff) = .ok blocks := by
  induction blocks with
  | nil => exact parseFlashBlocks_tail n
  | cons b blocks ih =>
    rw [List.flatMap_cons, List.append_assoc]
    obtain ⟨live, fits⟩ := sound b List.mem_cons_self
    exact parseFlashBlocks_block live fits (ih fun b' mem => sound b' (List.mem_cons_of_mem b mem))

end Blocks

section Record

variable {privBlob cert ecdh rec : Bytes}

def tlsFlashBlocks (privBlob cert ecdh : Bytes) : List FlashBlock :=
  [⟨0, [0]⟩, ⟨4, privBlob⟩, ⟨3, cert⟩, ⟨5, crtHardcoded⟩, ⟨1, List.replicate 0x100 0⟩,
    ⟨2, List.replicate 0x100 0⟩, ⟨6, ecdh⟩]

/-- The record is its blocks and an erased tail. -/
theorem makeTlsFlash_ok : makeTlsFlash C privBlob cert ecdh = .ok rec ↔
    ∃ n, rec = ((tlsFlashBlocks privBlob cert ecdh).flatMap fun b => tlsFlashBlock C b.id b.body) ++
      List.replicate n 0xff ∧ rec.length = 0x1000 := by
  have whole : (tlsFlashBlocks privBlob cert ecdh).flatMap (fun b => tlsFlashBlock C b.id b.body) =
      tlsFlashBlock C 0 [0] ++ tlsFlashBlock C 4 privBlob ++ tlsFlashBlock C 3 cert ++
        tlsFlashBlock C 5 crtHardcoded ++ tlsFlashBlock C 1 (List.replicate 0x100 0) ++
        tlsFlashBlock C 2 (List.replicate 0x100 0) ++ tlsFlashBlock C 6 ecdh := by
    simp only [tlsFlashBlocks, List.flatMap_cons, List.flatMap_nil, List.append_nil,
      List.append_assoc]
  unfold makeTlsFlash
  rw [whole]
  generalize tlsFlashBlock C 0 [0] ++ tlsFlashBlock C 4 privBlob ++ tlsFlashBlock C 3 cert ++
    tlsFlashBlock C 5 crtHardcoded ++ tlsFlashBlock C 1 (List.replicate 0x100 0) ++
    tlsFlashBlock C 2 (List.replicate 0x100 0) ++ tlsFlashBlock C 6 ecdh = b
  dsimp only
  constructor
  · intro made
    split at made
    · cases made
    · cases made
      refine ⟨_, rfl, ?_⟩
      rw [List.length_append, List.length_replicate]
      omega
  · rintro ⟨n, rfl, size⟩
    rw [List.length_append, List.length_replicate] at size
    rw [if_neg (by omega), show 0x1000 - b.length = n by omega]

theorem mem_record_length {blocks : List FlashBlock} {b : FlashBlock} (mem : b ∈ blocks) :
    b.body.length ≤ (blocks.flatMap fun b => tlsFlashBlock C b.id b.body).length := by
  obtain ⟨front, back, rfl⟩ := List.append_of_mem mem
  rw [List.flatMap_append, List.flatMap_cons, List.length_append, List.length_append]
  simp only [tlsFlashBlock, List.length_append]
  omega

theorem tlsFlashBlocks_live {b : FlashBlock} (mem : b ∈ tlsFlashBlocks privBlob cert ecdh) :
    b.id ≠ blockEnd := by
  have ids : (tlsFlashBlocks privBlob cert ecdh).map (·.id) = [0, 4, 3, 5, 1, 2, 6] := rfl
  have live : ∀ i ∈ [(0 : UInt16), 4, 3, 5, 1, 2, 6], i ≠ blockEnd := by simp [blockEnd]
  rw [← ids] at live
  exact live b.id (List.mem_map_of_mem mem)

theorem record_blocks (made : makeTlsFlash C privBlob cert ecdh = .ok rec) :
    rec.length = 0x1000 ∧ parseFlashBlocks C rec = .ok (tlsFlashBlocks privBlob cert ecdh) := by
  obtain ⟨n, rfl, size⟩ := makeTlsFlash_ok.mp made
  refine ⟨size, parseFlashBlocks_blocks (fun b mem => ⟨tlsFlashBlocks_live mem, ?_⟩) n⟩
  have inside := mem_record_length (C := C) mem
  rw [List.length_append] at size
  omega

end Record

section Sealed

variable {keys : HostKeys} {x y d : Bytes32} {iv : Vector UInt8 16} {privBlob : Bytes}

theorem derive_key_length (name serial : String) :
    (HostKeys.derive C name serial).pskEncryptionKey.length = 32 := prf_length _ _ _ _

def keyPlain (x y d : Bytes32) : Bytes := x.toList.reverse ++ y.toList.reverse ++ d.toList.reverse

theorem keyPlain_length : (keyPlain x y d).length = 0x60 := by
  simp only [keyPlain, List.length_append, List.length_reverse, Vector.length_toList]

/-- What the MAC covers. -/
def sealedKey (C : Primitives) (keys : HostKeys) (x y d : Bytes32) (iv : Vector UInt8 16) : Bytes :=
  iv.toList ++ C.aesCbcEncrypt keys.pskEncryptionKey iv.toList (padPkcs7 (keyPlain x y d))

theorem encryptKey_run (key : keys.pskEncryptionKey.length = 32) :
    encryptKey C keys x.toList y.toList d.toList iv = .ok (2 :: (sealedKey C keys x y d iv ++
      (C.hmac keys.pskValidationKey (sealedKey C keys x y d iv)).toList)) := by
  have step : encryptKey C keys x.toList y.toList d.toList iv =
      (aesCbcEncryptRaw C keys.pskEncryptionKey iv.toList (padPkcs7 (keyPlain x y d)) >>= fun ct =>
        .ok ([0x02] ++ (iv.toList ++ ct) ++
          (C.hmac keys.pskValidationKey (iv.toList ++ ct)).toList)) := rfl
  rw [step, aesCbcEncryptRaw, if_neg (by simp [key]), if_neg (by simp [padPkcs7_blocks])]
  rfl

theorem reversed32_keyPlain (h : 0x40 + 32 ≤ (keyPlain x y d).length) :
    reversed32 (keyPlain x y d) 0x40 h = d := by
  ext i hi
  have front : (x.toList.reverse ++ y.toList.reverse).length = 0x40 := by
    simp only [List.length_append, List.length_reverse, Vector.length_toList]
  simp only [reversed32, Vector.getElem_ofFn, keyPlain]
  rw [List.getElem_append_right (by omega)]
  simp only [front, List.getElem_reverse, Vector.length_toList, Vector.getElem_toList]
  have index : 32 - 1 - (0x40 + (31 - i) - 0x40) = i := by omega
  simp only [index]

theorem inspectPairing_sealed (cbc : Tls.CbcInverts C) (key : keys.pskEncryptionKey.length = 32)
    (sealed : encryptKey C keys x.toList y.toList d.toList iv = .ok privBlob)
    {blocks : List FlashBlock}
    (found : blocks.find? (fun b => b.id = blockPriv) = some ⟨4, privBlob⟩) :
    inspectPairing C blocks keys = .ok (.pairedToThisHost d) := by
  rw [encryptKey_run key] at sealed
  obtain rfl := Except.ok.inj sealed
  have ivSize : iv.toList.length = 16 := Vector.length_toList
  have ctSize : (C.aesCbcEncrypt keys.pskEncryptionKey iv.toList
      (padPkcs7 (keyPlain x y d))).length = 0x70 := by
    rw [cbc.length _ _ _ key ivSize (padPkcs7_blocks _)]
    simp only [padPkcs7, List.length_append, List.length_replicate, keyPlain_length]
  have size : (sealedKey C keys x y d iv ++
      (C.hmac keys.pskValidationKey (sealedKey C keys x y d iv)).toList).length =
        (sealedKey C keys x y d iv).length + 32 := by
    rw [List.length_append, Vector.length_toList]
  have long : (sealedKey C keys x y d iv).length = 0x80 := by
    rw [sealedKey, List.length_append, ivSize, ctSize]
  have plain : aesCbcDecryptRaw C keys.pskEncryptionKey ((sealedKey C keys x y d iv).take 16)
      ((sealedKey C keys x y d iv).drop 16) = .ok (padPkcs7 (keyPlain x y d)) := by
    rw [sealedKey, List.take_left' ivSize, List.drop_left' ivSize, aesCbcDecryptRaw,
      if_neg (by simp [ctSize]), if_neg (by simp [key]),
      cbc.inverts _ _ _ key ivSize (padPkcs7_blocks _)]
  unfold inspectPairing
  simp only [found, List.all_cons, size, Nat.add_sub_cancel, List.take_left, List.drop_left]
  rw [if_neg (by simp), if_neg (by simp), if_neg (by omega), if_neg (by simp), plain]
  show (unpadPkcs7 (padPkcs7 (keyPlain x y d)) >>= fun plain => _) = _
  rw [unpadPkcs7_padPkcs7]
  show dite _ _ _ = _
  rw [dif_neg (by simp [keyPlain_length]), reversed32_keyPlain]

end Sealed

section Opening

variable {P : Curve} {privBlob cert ecdh : Bytes}

def ecdhPoint (ecdh : Bytes) : Bytes :=
  0x04 :: (((ecdh.drop 0x08).take 0x20).reverse ++ ((ecdh.drop 0x4c).take 0x20).reverse)

theorem ecdhPublicFromBlock_ok (long : 0x90 ≤ ecdh.length)
    (valid : P.isPoint (ecdhPoint ecdh) = true) :
    ecdhPublicFromBlock P ecdh = .ok (ecdhPoint ecdh) := by
  have point : pointFromLe ((ecdh.take 0x28).drop 0x08) ((ecdh.take 0x6c).drop 0x4c) =
      ecdhPoint ecdh := by
    rw [List.drop_take, List.drop_take]
    rfl
  unfold ecdhPublicFromBlock
  rw [if_neg (by omega), point, if_pos valid]

theorem buildMaterial_record {keys : HostKeys} {d : Bytes32} (long : 0x90 ≤ ecdh.length)
    (valid : P.isPoint (ecdhPoint ecdh) = true)
    (paired : inspectPairing C (tlsFlashBlocks privBlob cert ecdh) keys =
      .ok (.pairedToThisHost d)) :
    buildMaterial C P (tlsFlashBlocks privBlob cert ecdh) keys = .ok ⟨d, cert, ecdhPoint ecdh,
      verifyFwSignature P (ecdh.take 0x90) (ecdh.drop 0x90)⟩ := by
  have third : (tlsFlashBlocks privBlob cert ecdh).find? (fun b => b.id = blockCert) =
      some ⟨3, cert⟩ := rfl
  have last : (tlsFlashBlocks privBlob cert ecdh).find? (fun b => b.id = blockEcdh) =
      some ⟨6, ecdh⟩ := rfl
  unfold buildMaterial
  rw [paired]
  simp only [third, last, ecdhPublicFromBlock_ok long valid, bind, Except.bind]
  rw [if_neg (by omega)]

/-- Whatever record provisioning makes, a session is opened with the key, the certificate and
the point that went into it. -/
theorem pairing_read_back (cbc : Tls.CbcInverts C) (name serial : String) (x y d : Bytes32)
    (iv : Vector UInt8 16) {rec : Bytes} (long : 0x90 ≤ ecdh.length)
    (valid : P.isPoint (ecdhPoint ecdh) = true)
    (made : (encryptKey C (HostKeys.derive C name serial) x.toList y.toList d.toList iv >>=
      fun privBlob => makeTlsFlash C privBlob cert ecdh) = .ok rec) :
    rec.length = 0x1000 ∧ ∃ privBlob,
      encryptKey C (HostKeys.derive C name serial) x.toList y.toList d.toList iv = .ok privBlob ∧
      parseFlashBlocks C rec = .ok [⟨0, [0]⟩, ⟨4, privBlob⟩, ⟨3, cert⟩, ⟨5, crtHardcoded⟩,
        ⟨1, List.replicate 0x100 0⟩, ⟨2, List.replicate 0x100 0⟩, ⟨6, ecdh⟩] ∧
      ∀ blocks, parseFlashBlocks C rec = .ok blocks →
        inspectPairing C blocks (HostKeys.derive C name serial) = .ok (.pairedToThisHost d) ∧
        ∃ m, buildMaterial C P blocks (HostKeys.derive C name serial) = .ok m ∧
          m.privateKeyD = d ∧ m.tlsCert = cert ∧ m.ecdhPublic = ecdhPoint ecdh := by
  cases sealed : encryptKey C (HostKeys.derive C name serial) x.toList y.toList d.toList iv with
  | error e =>
    rw [sealed] at made
    cases made
  | ok privBlob =>
    rw [sealed] at made
    dsimp only [bind, Except.bind] at made
    obtain ⟨size, blocks⟩ := record_blocks made
    have paired : inspectPairing C (tlsFlashBlocks privBlob cert ecdh)
        (HostKeys.derive C name serial) = .ok (.pairedToThisHost d) :=
      inspectPairing_sealed cbc (derive_key_length name serial) sealed rfl
    refine ⟨size, privBlob, rfl, blocks, fun blocks' parsed => ?_⟩
    obtain rfl := Except.ok.inj (blocks.symm.trans parsed)
    exact ⟨paired, _, buildMaterial_record long valid paired, rfl, rfl, rfl⟩

end Opening

/-- A curve of which only the vendor's point is known, and the zero key's point is that one. -/
def vendorCurve : Curve where
  isPoint := fun p => p = encodedPoint fwPubkeyX fwPubkeyY
  verify := fun _ _ _ => false
  randomSecret := fun rng => (Vector.ofFn fun i => rng i, fun i => rng (i + 32))
  affine := fun _ => (some (Vector.replicate 32 1), some (Vector.replicate 32 2))

def vendorBlock : Bytes :=
  List.replicate 8 0 ++ fwPubkeyX.reverse ++ List.replicate 0x24 0 ++ fwPubkeyY.reverse ++
    List.replicate 0x24 0

theorem vendorBlock_recorded : (encryptKey Tls.plainPrimitives
    (HostKeys.derive Tls.plainPrimitives "20HRCTO1WW" "PF0XKNNA")
    (Vector.replicate 32 1).toList (Vector.replicate 32 2).toList (Vector.replicate 32 3).toList
    (Vector.replicate 16 9) >>= fun privBlob =>
      makeTlsFlash Tls.plainPrimitives privBlob [0x17, 0, 0, 0] vendorBlock).toBool = true := by
  decide +kernel

theorem pairing_read_back_vendor : ∃ rec : Bytes, rec.length = 0x1000 ∧
    ∃ blocks, parseFlashBlocks Tls.plainPrimitives rec = .ok blocks ∧
      inspectPairing Tls.plainPrimitives blocks
        (HostKeys.derive Tls.plainPrimitives "20HRCTO1WW" "PF0XKNNA") =
          .ok (.pairedToThisHost (Vector.replicate 32 3)) := by
  have recorded := vendorBlock_recorded
  revert recorded
  cases made : encryptKey Tls.plainPrimitives
    (HostKeys.derive Tls.plainPrimitives "20HRCTO1WW" "PF0XKNNA")
    (Vector.replicate 32 1).toList (Vector.replicate 32 2).toList (Vector.replicate 32 3).toList
    (Vector.replicate 16 9) >>= fun privBlob =>
      makeTlsFlash Tls.plainPrimitives privBlob [0x17, 0, 0, 0] vendorBlock with
  | error e =>
    intro no
    cases no
  | ok rec =>
    intro _
    obtain ⟨size, _, _, parsed, back⟩ := pairing_read_back (P := vendorCurve) Tls.plain_inverts
      "20HRCTO1WW" "PF0XKNNA" _ _ _ _ (by decide +kernel) (by decide +kernel) made
    exact ⟨rec, size, _, parsed, (back _ parsed).1⟩

end ValidityFprintd.Pairing
