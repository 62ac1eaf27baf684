import ValidityFprintd.Flash
import ValidityFprintd.Pairing

/-! Provisioning a blank sensor: format its flash, make a host key, and write the pairing
record that later runs open their sessions with. -/

namespace ValidityFprintd.Provision
open Effect Crypto

/-- Certificate template stored in block 5 of the pairing record. The source keeps it, and the
signatures below, as hex strings. -/
def crtHardcoded : Bytes :=
  [0x17, 0x00, 0x00, 0x00, 0x00, 0x01, 0x00, 0x00, 0x01, 0x00, 0x00, 0x00, 0xfc, 0xff, 0xff, 0xff,
   0xff, 0xff, 0xff, 0xff, 0xff, 0xff, 0xff, 0xff, 0x00, 0x00, 0x00, 0x00, 0x00, 0x00, 0x00, 0x00,
   0x00, 0x00, 0x00, 0x00, 0x01, 0x00, 0x00, 0x00, 0xff, 0xff, 0xff, 0xff, 0x00, 0x00, 0x00, 0x00,
   0x00, 0x00, 0x00, 0x00, 0x00, 0x00, 0x00, 0x00, 0x00, 0x00, 0x00, 0x00, 0x00, 0x00, 0x00, 0x00,
   0x00, 0x00, 0x00, 0x00, 0x00, 0x00, 0x00, 0x00, 0x00, 0x00, 0x00, 0x00, 0x00, 0x00, 0x00, 0x00,
   0x4b, 0x60, 0xd2, 0x27, 0x3e, 0x3c, 0xce, 0x3b, 0xf6, 0xb0, 0x53, 0xcc, 0xb0, 0x06, 0x1d, 0x65,
   0xbc, 0x86, 0x98, 0x76, 0x55, 0xbd, 0xeb, 0xb3, 0xe7, 0x93, 0x3a, 0xaa, 0xd8, 0x35, 0xc6, 0x5a,
   0x00, 0x00, 0x00, 0x00, 0x00, 0x00, 0x00, 0x00, 0x00, 0x00, 0x00, 0x00, 0x00, 0x00, 0x00, 0x00,
   0x00, 0x00, 0x00, 0x00, 0x00, 0x00, 0x00, 0x00, 0x00, 0x00, 0x00, 0x00, 0x00, 0x00, 0x00, 0x00,
   0x00, 0x00, 0x00, 0x00, 0x96, 0xc2, 0x98, 0xd8, 0x45, 0x39, 0xa1, 0xf4, 0xa0, 0x33, 0xeb, 0x2d,
   0x81, 0x7d, 0x03, 0x77, 0xf2, 0x40, 0xa4, 0x63, 0xe5, 0xe6, 0xbc, 0xf8, 0x47, 0x42, 0x2c, 0xe1,
   0xf2, 0xd1, 0x17, 0x6b, 0x00, 0x00, 0x00, 0x00, 0x00, 0x00, 0x00, 0x00, 0x00, 0x00, 0x00, 0x00,
   0x00, 0x00, 0x00, 0x00, 0x00, 0x00, 0x00, 0x00, 0x00, 0x00, 0x00, 0x00, 0x00, 0x00, 0x00, 0x00,
   0x00, 0x00, 0x00, 0x00, 0x00, 0x00, 0x00, 0x00, 0xf5, 0x51, 0xbf, 0x37, 0x68, 0x40, 0xb6, 0xcb,
   0xce, 0x5e, 0x31, 0x6b, 0x57, 0x33, 0xce, 0x2b, 0x16, 0x9e, 0x0f, 0x7c, 0x4a, 0xeb, 0xe7, 0x8e,
   0x9b, 0x7f, 0x1a, 0xfe, 0xe2, 0x42, 0xe3, 0x4f, 0x00, 0x00, 0x00, 0x00, 0x00, 0x00, 0x00, 0x00,
   0x00, 0x00, 0x00, 0x00, 0x00, 0x00, 0x00, 0x00, 0x00, 0x00, 0x00, 0x00, 0x00, 0x00, 0x00, 0x00,
   0x00, 0x00, 0x00, 0x00, 0x00, 0x00, 0x00, 0x00, 0x00, 0x00, 0x00, 0x00, 0x51, 0x25, 0x63, 0xfc,
   0xc2, 0xca, 0xb9, 0xf3, 0x84, 0x9e, 0x17, 0xa7, 0xad, 0xfa, 0xe6, 0xbc, 0xff, 0xff, 0xff, 0xff,
   0xff, 0xff, 0xff, 0xff, 0x00, 0x00, 0x00, 0x00, 0xff, 0xff, 0xff, 0xff, 0x00, 0x00, 0x00, 0x00,
   0x00, 0x00, 0x00, 0x00, 0x00, 0x00, 0x00, 0x00, 0x00, 0x00, 0x00, 0x00, 0x00, 0x00, 0x00, 0x00,
   0x00, 0x00, 0x00, 0x00, 0x00, 0x00, 0x00, 0x00, 0x00, 0x00, 0x00, 0x00, 0x00, 0x00, 0x00, 0x00,
   0xff, 0xff, 0xff, 0xff, 0xff, 0xff, 0xff, 0xff, 0xff, 0xff, 0xff, 0xff, 0x00, 0x00, 0x00, 0x00,
   0x00, 0x00, 0x00, 0x00, 0x00, 0x00, 0x00, 0x00, 0x01, 0x00, 0x00, 0x00, 0xff, 0xff, 0xff, 0xff,
   0x00, 0x00, 0x00, 0x00, 0x00, 0x00, 0x00, 0x00, 0x00, 0x00, 0x00, 0x00, 0x00, 0x00, 0x00, 0x00,
   0x00, 0x00, 0x00, 0x00, 0x00, 0x00, 0x00, 0x00, 0x00, 0x00, 0x00, 0x00, 0x00, 0x00, 0x00, 0x00,
   0x00, 0x00, 0x00, 0x00]

def partitionSignature : Bytes :=
  [0x1d, 0xb0, 0x2a, 0x88, 0x6b, 0x00, 0x7e, 0x2b, 0x47, 0x26, 0x3b, 0xb8, 0xfe, 0x30, 0xbd, 0x64,
   0xa1, 0xf5, 0x8b, 0xea, 0x7b, 0x25, 0xf1, 0xe1, 0xba, 0x9a, 0xe0, 0x9a, 0xdd, 0x7e, 0xcf, 0xf3,
   0x63, 0x33, 0xf8, 0x19, 0x83, 0x39, 0xcd, 0xd7, 0x13, 0xf0, 0x43, 0x63, 0x37, 0x10, 0xa1, 0x7b,
   0xc7, 0xb3, 0xf4, 0x18, 0xf1, 0xd8, 0xff, 0x43, 0x5a, 0x1b, 0xf4, 0x7f, 0x06, 0x5d, 0xff, 0xca,
   0x72, 0x71, 0x09, 0x15, 0x22, 0x17, 0xfc, 0xe7, 0x3b, 0xf2, 0xbf, 0x8e, 0x01, 0xa1, 0x64, 0x1f,
   0x6a, 0x24, 0xb0, 0xc4, 0x92, 0xa6, 0xa3, 0xf1, 0x01, 0x14, 0x05, 0x72, 0x75, 0x84, 0x68, 0x42,
   0xb1, 0xc8, 0xb6, 0x6b, 0xd6, 0x70, 0x07, 0x38, 0x52, 0x4d, 0x44, 0x71, 0xbc, 0xa3, 0x31, 0x5b,
   0xa2, 0x3b, 0xb8, 0x32, 0x74, 0x32, 0x20, 0xad, 0x19, 0x5b, 0x60, 0x55, 0x8a, 0xa7, 0x9a, 0x3e,
   0xde, 0xb2, 0x60, 0x48, 0x34, 0xe2, 0xbb, 0x62, 0xe8, 0x90, 0xb0, 0xce, 0x40, 0x5b, 0x3b, 0x8e,
   0xf2, 0xfe, 0xc2, 0xaa, 0xb3, 0xe2, 0x2b, 0xff, 0x23, 0xf8, 0x9a, 0x58, 0xff, 0x0d, 0xc0, 0x15,
   0xfe, 0xce, 0x5d, 0x3e, 0xd3, 0xf5, 0x49, 0x6a, 0xce, 0x87, 0x9a, 0x92, 0x98, 0x0a, 0xec, 0x9d,
   0x85, 0xeb, 0x7e, 0x9d, 0xf2, 0x45, 0xea, 0xe0, 0x3a, 0x41, 0xac, 0xfd, 0x4e, 0x7d, 0x1c, 0xb1,
   0xdb, 0xd0, 0xdf, 0x42, 0xd5, 0x34, 0x90, 0x4d, 0xe0, 0x0b, 0x63, 0x89, 0xf6, 0x88, 0x67, 0x64,
   0x6e, 0x9d, 0x7c, 0x3d, 0x0b, 0x1d, 0xff, 0xd7, 0x40, 0x70, 0xb2, 0xd0, 0xf2, 0x04, 0x9b, 0x9f,
   0x1d, 0xc7, 0xb0, 0xc9, 0x65, 0x1c, 0x59, 0xbe, 0x3e, 0xa8, 0x91, 0x67, 0x47, 0x25, 0xe1, 0xf2,
   0xf7, 0xa4, 0x84, 0xa9, 0x41, 0x61, 0x5b, 0x80, 0x21, 0x11, 0x05, 0x97, 0x83, 0x69, 0xcf, 0x71]

/-- Signature over the layout of 138a:0090, whose database is smaller. -/
def partitionSignature0090 : Bytes :=
  [0xe4, 0x4f, 0x7a, 0x80, 0xd6, 0x13, 0x77, 0x94, 0xd3, 0x30, 0xb5, 0xd0, 0x26, 0xc3, 0x28, 0xa7,
   0x3c, 0x90, 0x7f, 0x3f, 0x65, 0x3d, 0x41, 0x12, 0x55, 0xb7, 0xc2, 0xf8, 0xb4, 0x25, 0xd8, 0x70,
   0xa8, 0xa5, 0x3c, 0x66, 0x30, 0xca, 0x86, 0x4b, 0x84, 0x59, 0x0e, 0x3c, 0x67, 0x86, 0xf0, 0xd6,
   0x9b, 0xe4, 0xbb, 0xab, 0x57, 0x36, 0x38, 0x8f, 0x85, 0x27, 0x23, 0x7a, 0x0a, 0x86, 0xbb, 0xce,
   0x7c, 0xed, 0x94, 0x50, 0xc4, 0x96, 0x47, 0x09, 0xe8, 0x9a, 0xc5, 0x35, 0xaa, 0x00, 0x78, 0x71,
   0x58, 0xe0, 0xa8, 0xd9, 0xb1, 0xfb, 0x75, 0xf0, 0xf7, 0xae, 0x53, 0xd4, 0xbd, 0x11, 0xab, 0xfc,
   0xf5, 0xee, 0x67, 0xa5, 0xa7, 0x1e, 0x24, 0x8a, 0x42, 0x6b, 0x3a, 0xff, 0x45, 0x67, 0x04, 0x8f,
   0xa9, 0x3d, 0xe6, 0x59, 0x39, 0xcc, 0xfb, 0xe3, 0xf3, 0x11, 0x49, 0xa8, 0x2c, 0x64, 0xfb, 0xfd,
   0x6a, 0x2a, 0x6c, 0xf7, 0x48, 0xe1, 0xd9, 0xbd, 0x85, 0x62, 0xcf, 0x39, 0xb1, 0xa4, 0xb3, 0x07,
   0xb3, 0x7b, 0xe2, 0x23, 0x31, 0x7b, 0x1b, 0x81, 0x7e, 0x36, 0x4f, 0x28, 0x77, 0xd2, 0x9d, 0x12,
   0x37, 0x31, 0x31, 0x4a, 0xa6, 0x27, 0xcb, 0xf2, 0x34, 0xe0, 0xea, 0x69, 0xa4, 0x06, 0xa4, 0x73,
   0x5a, 0x03, 0xa4, 0x54, 0x95, 0x02, 0x3e, 0xf7, 0x06, 0xbd, 0xb5, 0x42, 0xc9, 0x49, 0xd2, 0x43,
   0xac, 0x2c, 0x08, 0xc0, 0x0a, 0xbf, 0x43, 0xfa, 0xa5, 0x52, 0x8a, 0x0a, 0x8e, 0x49, 0xb0, 0x2c,
   0x50, 0x7b, 0x01, 0xb6, 0xf1, 0xc9, 0xab, 0xff, 0xc6, 0x69, 0xd8, 0xc8, 0x4d, 0x7e, 0x4a, 0x71,
   0x4d, 0xa3, 0x2a, 0xad, 0xe7, 0x92, 0x8e, 0xca, 0x96, 0x98, 0xb8, 0x2b, 0xee, 0x6b, 0x72, 0xc6,
   0x42, 0xc9, 0xad, 0xd8, 0x0b, 0xbd, 0x7c, 0xcc, 0x41, 0x21, 0xb8, 0x02, 0x20, 0xd5, 0x2b, 0x8a]

/-- An entry of the partition table. -/
structure PartitionSpec where
  id : UInt8
  kind : UInt8
  accessLvl : UInt16
  offset : UInt32
  size : UInt32

/-- Cert store, firmware, calibration, template database. -/
def flashLayout : List PartitionSpec :=
  [⟨0x01, 0x04, 0x0007, 0x00001000, 0x00001000⟩,
   ⟨0x02, 0x01, 0x0002, 0x00002000, 0x0003e000⟩,
   ⟨0x05, 0x05, 0x0003, 0x00040000, 0x00008000⟩,
   ⟨0x06, 0x06, 0x0003, 0x00048000, 0x00008000⟩,
   ⟨0x04, 0x03, 0x0005, 0x00050000, 0x00080000⟩]

def flashLayout0090 : List PartitionSpec :=
  [⟨0x01, 0x04, 0x0007, 0x00001000, 0x00001000⟩,
   ⟨0x02, 0x01, 0x0002, 0x00002000, 0x0003e000⟩,
   ⟨0x05, 0x05, 0x0003, 0x00040000, 0x00008000⟩,
   ⟨0x06, 0x06, 0x0003, 0x00048000, 0x00008000⟩,
   ⟨0x04, 0x03, 0x0005, 0x00050000, 0x00030000⟩]

structure FlashIcInfo where
  size : UInt32
  jid0 : UInt32
  jid1 : UInt32
  sectorSize : UInt32
  sectorEraseCmd : UInt32
  deriving DecidableEq

def flashIcTable : List FlashIcInfo :=
  [⟨65536, 0x20, 0x20, 0x8000, 0xd8⟩,
   ⟨131072, 0x20, 0x20, 0x8000, 0xd8⟩,
   ⟨262144, 0x20, 0x20, 0x10000, 0xd8⟩,
   ⟨524288, 0x20, 0x20, 0x10000, 0xd8⟩,
   ⟨1048576, 0x20, 0x20, 0x10000, 0xd8⟩,
   ⟨2097152, 0x20, 0x20, 0x10000, 0xd8⟩,
   ⟨4194304, 0x20, 0x20, 0x10000, 0xd8⟩,
   ⟨8388608, 0x20, 0x20, 0x10000, 0xd8⟩,
   ⟨524288, 0xbf, 0x25, 0x10000, 0xd8⟩,
   ⟨131072, 0xef, 0x30, 0x1000, 0x20⟩,
   ⟨262144, 0xef, 0x30, 0x1000, 0x20⟩,
   ⟨524288, 0xef, 0x30, 0x1000, 0x20⟩,
   ⟨1048576, 0xef, 0x30, 0x1000, 0x20⟩,
   ⟨524288, 0xef, 0x40, 0x1000, 0x20⟩,
   ⟨1048576, 0xef, 0x40, 0x1000, 0x20⟩,
   ⟨524288, 0xc2, 0x20, 0x1000, 0x20⟩,
   ⟨524288, 0x1c, 0x30, 0x1000, 0x20⟩,
   ⟨1048576, 0xc2, 0x23, 0x1000, 0x20⟩,
   ⟨1048576, 0x1f, 0x85, 0x1000, 0x20⟩,
   ⟨1048576, 0xc8, 0x40, 0x1000, 0x20⟩]

def flashIcLookup (jid0 jid1 size : UInt32) : Option FlashIcInfo :=
  flashIcTable.find? fun i => i.jid0 = jid0 ∧ i.jid1 = jid1 ∧ i.size = size

def partitionCert : UInt8 := 1

def partitionsToErase : List UInt8 := [1, 2, 5, 6, 4]

def hsKeyPairGen : Bytes :=
  [0x48, 0x53, 0x5f, 0x4b, 0x45, 0x59, 0x5f, 0x50, 0x41, 0x49, 0x52, 0x5f, 0x47, 0x45, 0x4e]

section Records

variable (C : Primitives)

def hsKey : Bytes32 :=
  let seed := hsKeyPairGen ++ passwordHardcoded.drop 0x10 ++ [0xaa, 0xaa]
  Pairing.reversed32 (prf C (passwordHardcoded.take 0x10) seed 0x20) 0
    (Nat.le_of_eq (prf_length _ _ _ _).symm)

def withHdr (id : UInt16) (buf : Bytes) : Bytes :=
  Bytes.le16 id ++ Bytes.le16 (Bytes.len16 buf) ++ buf

/-- A 32-byte big-endian scalar or coordinate, as the sensor stores it. -/
def toLe32 (be : Bytes) : Bytes := be.reverse

/-- The host certificate the sensor stores, signed with the derived key. -/
def makeCert (pubX pubY : Bytes) : Outcome String Bytes :=
  let msg := Bytes.le32 0x17 ++ Bytes.le32 0x20 ++ toLe32 pubX ++ List.replicate 0x24 0 ++
    toLe32 pubY ++ List.replicate 0x4c 0
  match C.signingKey (hsKey C) with
  | .error e => .err (Usb.context "deriving certificate signing key" e)
  | .ok signingKey =>
    match C.signPrehash signingKey (C.sha256 msg) with
    | .error _ => .panic
    | .ok der => .ok (Bytes.padTo 444 (msg ++ Bytes.le32 (Bytes.len32 der) ++ der))

/-- Seal the host private key under the machine-derived pairing keys, for a random `iv`. -/
def encryptKey (keys : HostKeys) (pubX pubY privateD : Bytes) (iv : Vector UInt8 16) :
    Except String Bytes := do
  let m := toLe32 pubX ++ toLe32 pubY ++ toLe32 privateD
  -- standard PKCS#7 here, unlike the record padding used elsewhere
  let pad := 16 - m.length % 16
  let ct ← aesCbcEncryptRaw C keys.pskEncryptionKey iv.toList
    (m ++ List.replicate pad (UInt8.ofNat pad))
  let c := iv.toList ++ ct
  let sig := C.hmac keys.pskValidationKey c
  .ok ([0x02] ++ c ++ sig.toList)

def serializePartition (p : PartitionSpec) : Bytes :=
  let b := [p.id, p.kind] ++ Bytes.le16 p.accessLvl ++ Bytes.le32 p.offset ++ Bytes.le32 p.size
  b ++ List.replicate 4 0 ++ (C.sha256 b).toList

/-- One block of the pairing record: id, length, SHA-256, body. -/
def tlsFlashBlock (id : UInt16) (body : Bytes) : Bytes :=
  Bytes.le16 id ++ Bytes.le16 (Bytes.len16 body) ++ (C.sha256 body).toList ++ body

/-- The 4 KiB pairing record written to partition 1. -/
def makeTlsFlash (privBlob tlsCert ecdhBlob : Bytes) : Except String Bytes :=
  let b := tlsFlashBlock C 0 [0] ++ tlsFlashBlock C 4 privBlob ++ tlsFlashBlock C 3 tlsCert ++
    tlsFlashBlock C 5 crtHardcoded ++ tlsFlashBlock C 1 (List.replicate 0x100 0) ++
    tlsFlashBlock C 2 (List.replicate 0x100 0) ++ tlsFlashBlock C 6 ecdhBlob
  if 0x1000 < b.length then
    .error s!"pairing record is {b.length} bytes, larger than the partition"
  else .ok (b ++ List.replicate (0x1000 - b.length) 0xff)

end Records

section Device

variable {S : Type} (C : Primitives) (w : Usb.World S)

def partitionFlash (layout : List PartitionSpec) (signature : Bytes) (ic : FlashIcInfo)
    (pubX pubY : Bytes) : Usb.Drv S Bytes := do
  let params := Bytes.le32 ic.size ++ Bytes.le32 ic.sectorSize ++ [0, 0] ++
    [UInt8.ofNat ic.sectorEraseCmd.toNat] ++ [0]
  let table := layout.flatMap (serializePartition C) ++ signature
  let cert ← Act.ofOutcome (makeCert C pubX pubY)
  let rsp ← Usb.request w ([0x4f, 0, 0, 0, 0] ++ withHdr 0 params ++ withHdr 1 table ++
    withHdr 5 cert ++ withHdr 3 crtHardcoded) "partitioning flash (0x4f)"
  Act.bailIf (rsp.length < 6) "partition reply too short"
  let crtLen ← Act.ofOutcome (Bytes.rd32 rsp 2)
  Act.ofOutcome (Outcome.ofOption "partition reply does not contain the certificate"
    (Bytes.range? rsp 6 (6 + crtLen.toNat)))

def readEcdhBlock : Usb.Drv S Bytes := do
  let rsp ← Usb.request w [0x50] "reading the ECDH block (0x50)"
  let body ← Bytes.sliceFrom rsp 2
  Act.bailIf (body.length < 4) "ECDH reply too short"
  let l ← Act.ofOutcome (Bytes.rd32 body 0)
  Act.bailIf (l.toNat ≠ body.length) s!"ECDH reply length mismatch: {l} != {body.length}"
  Act.bailIf (body.length < 404) "ECDH reply is missing the key block"
  let block ← Bytes.sliceFrom body (body.length - 400)
  let padding ← Bytes.slice body 4 (body.length - 400)
  Act.bailIf (padding.any (fun b => b ≠ 0)) "unexpected non-zero padding in the ECDH reply"
  Act.ret block

/-- Restart the sensor; a missing reply is the normal case. -/
def reboot : Usb.Drv S Unit := Act.ignore (Usb.cmd w [0x05, 0x02, 0x00])

/-- A wire command, or one that goes through a session. -/
abbrev Sent (S : Type) := Usb.Entry S ⊕ Usb.Entry (Tls.Link S)

def probe {α : Type} (x : Usb.Drv S α) : Act String (Sent S) S α := Act.mapLog .inl x

/-- Run a call of a session's owner, the session begun as given. -/
def withSession {α : Type} (tls : Tls) (x : Act String (Sent S) (Tls.Link S) α) :
    Act String (Sent S) S α := fun s =>
  ⟨(x ⟨tls, s⟩).out, (x ⟨tls, s⟩).state.env, (x ⟨tls, s⟩).log⟩

def inSession {α : Type} (x : Usb.Drv (Tls.Link S) α) : Act String (Sent S) (Tls.Link S) α :=
  Act.mapLog .inr x

def erasePartitions (w : Usb.World S) (blob : WriteEnable) : List UInt8 → Usb.Drv S Unit
  | [] => Act.ret ()
  | p :: ps => do
    Act.mapErr (Usb.context s!"erasing partition {p}") (Flash.eraseFlash w blob p)
    erasePartitions w blob ps

/-- The signed reset command of a device model, one of the tables under `blobs`. -/
def ResetBlob := { blob : Bytes // blob.head? = some 0x06 }

def factoryReset (w : Usb.World S) (resetBlob : ResetBlob) : Usb.Drv S Unit := do
  Usb.exchange w resetBlob.val "sending the reset blob"
  Usb.exchange w (0x10 :: List.replicate 0x61 0) "factory reset command (0x10)"
  reboot w

/-- Wipe every partition, store the record, and read its start back. -/
def storeRecord (blob : WriteEnable) (privBlob tlsCert ecdhBlob : Bytes) :
    Usb.Drv (Tls.Link S) Bool := do
  let t := Tls.transport C w
  erasePartitions t blob partitionsToErase
  let record ← Act.lift (makeTlsFlash C privBlob tlsCert ecdhBlob)
  Flash.writeFlashAll t blob partitionCert 0 record
  let check ← Flash.readFlash t partitionCert 0 0x40
  Act.bailIf (check.all (fun b => b = 0xff)) "pairing record did not persist"
  reboot t
  Act.ret true

variable (P : Curve) (vid pid : UInt16) (writeEnableBlob : WriteEnable) (resetBlob : ResetBlob)
  (productName productSerial : String) (rng : Rng)

/-- `init_flash` on a flash without partitions. -/
def formatFlash (info : Flash.FlashInfo) : Act String (Sent S) S Bool := do
  let ic ← Act.ofOutcome (Outcome.ofOption "unrecognised flash IC; refusing to partition"
    (flashIcLookup info.jedecId.1.toUInt32 info.jedecId.2.toUInt32
      (info.blocks.toUInt32 * info.blocksize.toUInt32)))
  probe (Usb.exchange w resetBlob.val "sending the reset blob")
  let (secret, rng) := P.randomSecret rng
  let pubX ← Act.ofOutcome (Outcome.ofOption "no x coordinate" (P.affine secret).1)
  let pubY ← Act.ofOutcome (Outcome.ofOption "no y coordinate" (P.affine secret).2)
  let (layout, signature) := if (vid, pid) = (0x138a, 0x0090)
    then (flashLayout0090, partitionSignature0090) else (flashLayout, partitionSignature)
  let tlsCert ← probe (partitionFlash C w layout signature ic pubX.toList pubY.toList)
  let ecdhBlob ← probe (readEcdhBlock w)
  let ecdhPublic ← Act.lift (Pairing.ecdhPublicFromBlock P ecdhBlob)
  let keys := HostKeys.derive C productName productSerial
  let privBlob ← Act.lift (encryptKey C keys pubX.toList pubY.toList secret.toList
    (Vector.ofFn fun i => rng i))
  withSession (Tls.new ⟨secret, tlsCert, ecdhPublic⟩ fun i => rng (i + 16)) do
    Act.mapErr (Usb.context "opening a session with the new keys")
      (Act.mapLog .inl (Tls.openSession C w))
    inSession (storeRecord C w writeEnableBlob privBlob tlsCert ecdhBlob)

/-- Format a blank sensor and write a fresh pairing record bound to this host. -/
def initFlash : Act String (Sent S) S Bool := do
  let info ← probe (Flash.getFlashInfo w)
  if info.partitions ≠ [] then Act.ret false
  else formatFlash C w P vid pid writeEnableBlob resetBlob productName productSerial rng info

end Device

end ValidityFprintd.Provision
