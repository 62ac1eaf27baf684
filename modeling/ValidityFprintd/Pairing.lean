import ValidityFprintd.Tls

/-! The pairing record of partition 1, and what it tells about the sensor's owner. It is a
sequence of blocks, each with its length and its SHA-256; block 4 holds the host's private
key, sealed under keys derived from this machine's DMI identity. -/

namespace ValidityFprintd
open Effect Crypto

/-- The P-256 packages, beside those a session needs. A point is its uncompressed encoding. -/
structure Curve where
  /-- `PublicKey::from_encoded_point` accepts the encoding. -/
  isPoint : Bytes → Bool
  /-- `VerifyingKey::from_encoded_point`, `Signature::from_der` and `verify` all succeed. -/
  verify : Bytes → Bytes → Bytes → Bool
  /-- `SecretKey::random`. -/
  randomSecret : Rng → Bytes32 × Rng
  /-- `x` and `y` of the uncompressed public point. -/
  affine : Bytes32 → Option Bytes32 × Option Bytes32

def encodedPoint (x y : Bytes) : Bytes := 0x04 :: (x ++ y)

/-- Password baked into the vendor's driver. -/
def passwordHardcoded : Bytes :=
  [0x71, 0x7c, 0xd7, 0x2d, 0x09, 0x62, 0xbc, 0x4a, 0x28, 0x46, 0x13, 0x8d, 0xbb, 0x2c, 0x24, 0x19,
   0x25, 0x12, 0xa7, 0x64, 0x07, 0x06, 0x5f, 0x38, 0x38, 0x46, 0x13, 0x9d, 0x4b, 0xec, 0x20, 0x33]

/-- Salt for the key that validates the pairing blob. -/
def gwkSignHardcoded : Bytes :=
  [0x3a, 0x4c, 0x76, 0xb7, 0x6a, 0x97, 0x98, 0x1d, 0x12, 0x74, 0x24, 0x7e, 0x16, 0x66, 0x10, 0xe7,
   0x7f, 0x4d, 0x9c, 0x9d, 0x07, 0xd3, 0xc7, 0x28, 0xe5, 0x32, 0x91, 0x6b, 0xdd, 0x28, 0xb4, 0x54]

/-- The two keys that unlock the pairing record on the flash. -/
structure HostKeys where
  pskEncryptionKey : Bytes
  pskValidationKey : Bytes

def utf8 (s : String) : Bytes := s.toUTF8.data.toList

def gwk : Bytes := [0x47, 0x57, 0x4b]

def gwkSign : Bytes := [0x47, 0x57, 0x4b, 0x5f, 0x53, 0x49, 0x47, 0x4e]

def HostKeys.derive (C : Primitives) (productName serialNumber : String) : HostKeys :=
  let hwKey := utf8 productName ++ [0] ++ utf8 serialNumber ++ [0]
  let pskEncryptionKey := prf C passwordHardcoded (gwk ++ hwKey) 0x20
  let pskValidationKey := prf C pskEncryptionKey (gwkSign ++ gwkSignHardcoded) 0x20
  ⟨pskEncryptionKey, pskValidationKey⟩

/-- Standard PKCS#7 padding, for the pairing blob only. -/
def unpadPkcs7 (data : Bytes) : Except String Bytes :=
  match data.getLast? with
  | none => .error "cannot unpad empty buffer"
  | some last =>
    if last = 0 ∨ data.length < last.toNat then .error s!"invalid PKCS#7 padding byte {last}"
    else .ok (data.take (data.length - last.toNat))

namespace Pairing

def blockCert : UInt16 := 3

def blockPriv : UInt16 := 4

def blockEcdh : UInt16 := 6

def blockEnd : UInt16 := 0xffff

structure FlashBlock where
  id : UInt16
  body : Bytes
  deriving DecidableEq

variable (C : Primitives)

def parseFlashBlocks : Bytes → Except String (List FlashBlock)
  | i0 :: i1 :: s0 :: s1 :: tail =>
    let id := Bytes.fromLe16 i0 i1
    let sz := (Bytes.fromLe16 s0 s1).toNat
    if tail.length < 32 ∨ id = blockEnd then .ok []
    else
      let digest := tail.take 32
      let afterHdr := tail.drop 32
      if afterHdr.length < sz then
        .error (s!"block {Bytes.hexNumber 4 id.toNat} claims {sz} bytes but only " ++
          s!"{afterHdr.length} remain")
      else
        let body := afterHdr.take sz
        if (C.sha256 body).toList ≠ digest then
          .error s!"block {Bytes.hexNumber 4 id.toNat} failed its SHA-256 integrity check"
        else do
          let blocks ← parseFlashBlocks (afterHdr.drop sz)
          .ok (⟨id, body⟩ :: blocks)
  | _ => .ok []
termination_by data => data.length
decreasing_by
  simp only [List.length_drop, List.length_cons]
  omega

/-- What state the sensor's pairing record is in. -/
inductive PairingState where
  /-- The private key decrypted and authenticated. -/
  | pairedToThisHost (privateKeyD : Bytes32)
  /-- The record was sealed by a different host. -/
  | pairedToAnotherHost
  | unpaired
  deriving DecidableEq

/-- `copy_from_slice` of `b[i..i + 32]`, then `reverse`. -/
def reversed32 (b : Bytes) (i : Nat) (h : i + 32 ≤ b.length) : Bytes32 :=
  Vector.ofFn fun k => b[i + (31 - k.val)]

/-- Decode block 4 and decide who owns this sensor. -/
def inspectPairing (blocks : List FlashBlock) (keys : HostKeys) : Except String PairingState :=
  match blocks.find? (fun b => b.id = blockPriv) with
  | none => .ok .unpaired
  | some privBlock =>
    -- an all-zero or absent body was never provisioned
    if privBlock.body.all (fun b => b = 0) then .ok .unpaired
    else
      match privBlock.body with
      | [] => .ok .unpaired
      | first :: rest =>
        if first ≠ 2 then
          .error s!"unknown private-key record prefix {Bytes.hexNumber 2 first.toNat}"
        else if rest.length < 32 + 16 then
          .error s!"private-key record is truncated ({rest.length} bytes)"
        else
          let ciphertext := rest.take (rest.length - 32)
          let mac := rest.drop (rest.length - 32)
          if (C.hmac keys.pskValidationKey ciphertext).toList ≠ mac then .ok .pairedToAnotherHost
          else do
            let plain ← aesCbcDecryptRaw C keys.pskEncryptionKey (ciphertext.take 16)
              (ciphertext.drop 16)
            let plain ← unpadPkcs7 plain
            if h : plain.length < 0x60 then
              .error s!"decrypted private-key record is too short ({plain.length} bytes)"
            else
              -- x, y and d are 32 bytes each, little-endian
              .ok (.pairedToThisHost (reversed32 plain 0x40 (Nat.not_lt.mp h)))

def fwPubkeyX : Bytes :=
  [0xf7, 0x27, 0x65, 0x3b, 0x4e, 0x16, 0xce, 0x06, 0x65, 0xa6, 0x89, 0x4d, 0x7f, 0x3a, 0x30, 0xd7,
   0xd0, 0xa0, 0xbe, 0x31, 0x0d, 0x12, 0x92, 0xa7, 0x43, 0x67, 0x1f, 0xdf, 0x69, 0xf6, 0xa8, 0xd3]

def fwPubkeyY : Bytes :=
  [0xa8, 0x55, 0x38, 0xf8, 0xb6, 0xbe, 0xc5, 0x0d, 0x6e, 0xef, 0x8b, 0xd5, 0xf4, 0xd0, 0x7a, 0x88,
   0x62, 0x43, 0xc5, 0x8b, 0x23, 0x93, 0x94, 0x8d, 0xf7, 0x61, 0xa8, 0x47, 0x21, 0xa6, 0xca, 0x94]

variable (P : Curve)

/-- `unwrap_or(false)` included: no case of it is an error. -/
def verifyFwSignature (keyBlob sigBlob : Bytes) : Bool :=
  match sigBlob with
  | l0 :: l1 :: l2 :: l3 :: _ =>
    match Bytes.range? sigBlob 4 (4 + (Bytes.fromLe32 l0 l1 l2 l3).toNat) with
    | some der => P.verify (encodedPoint fwPubkeyX fwPubkeyY) keyBlob der
    | none => false
  | _ => false

/-- Coordinates are stored little-endian. -/
def pointFromLe (xLe yLe : Bytes) : Bytes := encodedPoint xLe.reverse yLe.reverse

def ecdhPublicFromBlock (body : Bytes) : Except String Bytes :=
  if body.length < 0x90 then .error s!"ECDH block is truncated ({body.length} bytes)"
  else
    let point := pointFromLe ((body.take 0x28).drop 0x08) ((body.take 0x6c).drop 0x4c)
    if P.isPoint point then .ok point
    else .error "ECDH block does not describe a point on P-256"

/-- Everything needed to open a session, recovered from the pairing record. -/
structure Material where
  privateKeyD : Bytes32
  tlsCert : Bytes
  ecdhPublic : Bytes
  /-- Block 6 carried a valid signature. -/
  firmwareSignatureValid : Bool

def buildMaterial (blocks : List FlashBlock) (keys : HostKeys) : Except String Material := do
  match ← inspectPairing C blocks keys with
  | .pairedToAnotherHost =>
    .error "sensor is paired to a different host; cannot open a session"
  | .unpaired => .error "sensor is unpaired; cannot open a session"
  | .pairedToThisHost privateKeyD =>
    match blocks.find? (fun b => b.id = blockCert) with
    | none => .error "pairing record has no certificate block"
    | some cert =>
      match blocks.find? (fun b => b.id = blockEcdh) with
      | none => .error "pairing record has no ECDH block"
      | some ecdh => do
        let ecdhPublic ← ecdhPublicFromBlock P ecdh.body
        if ecdh.body.length < 0x90 then
          .error s!"ECDH block is truncated ({ecdh.body.length} bytes)"
        else
          let valid := verifyFwSignature P (ecdh.body.take 0x90) (ecdh.body.drop 0x90)
          .ok ⟨privateKeyD, cert.body, ecdhPublic, valid⟩

end Pairing

end ValidityFprintd
