import ValidityFprintd.Bytes

/-! Key derivation and the symmetric primitives of the session layer. The hash, the MAC,
the block cipher and the curve are parameters; what the driver builds from them is not. -/

namespace ValidityFprintd.Crypto
open Effect

abbrev Bytes32 := Vector UInt8 32

abbrev Rng := Nat → UInt8

/-- The cryptographic packages. A curve point is its uncompressed encoding. -/
structure Primitives where
  sha256 : Bytes → Bytes32
  hmac : Bytes → Bytes → Bytes32
  /-- AES-256 in CBC mode without padding, under a 32-byte key and a 16-byte IV. -/
  aesCbcEncrypt : Bytes → Bytes → Bytes → Bytes
  aesCbcDecrypt : Bytes → Bytes → Bytes → Bytes
  /-- `EphemeralSecret::random`. -/
  ephemeralSecret : Rng → Bytes × Rng
  publicKey : Bytes → Bytes
  diffieHellman : Bytes → Bytes → Bytes
  /-- `SigningKey::from_bytes`, then `sign_prehash` and `to_der`. -/
  signingKey : Bytes32 → Except String Bytes
  signPrehash : Bytes → Bytes32 → Except String Bytes

/-- The blocks of P_SHA256, from `a` on. -/
def prfBlocks (C : Primitives) (secret seed : Bytes) : Nat → Bytes32 → Bytes
  | 0, _ => []
  | n + 1, a =>
    (C.hmac secret (a.toList ++ seed)).toList ++
      prfBlocks C secret seed n (C.hmac secret a.toList)

def prf (C : Primitives) (secret seed : Bytes) (length : Nat) : Bytes :=
  (prfBlocks C secret seed ((length + 0x1f) / 0x20) (C.hmac secret seed)).take length

theorem prfBlocks_length (C : Primitives) (secret seed : Bytes) (n : Nat) (a : Bytes32) :
    (prfBlocks C secret seed n a).length = 0x20 * n := by
  induction n generalizing a with
  | zero => rfl
  | succ n ih =>
    simp only [prfBlocks, List.length_append, Vector.length_toList, ih]
    omega

theorem prf_length (C : Primitives) (secret seed : Bytes) (length : Nat) :
    (prf C secret seed length).length = length := by
  simp only [prf, List.length_take, prfBlocks_length]
  omega

section Aes

variable {E S : Type}

def aesCbcDecryptRaw (C : Primitives) (key iv data : Bytes) : Except String Bytes :=
  if data.length % 16 ≠ 0 then
    .error s!"ciphertext length {data.length} is not a multiple of the AES block size"
  else if key.length ≠ 32 ∨ iv.length ≠ 16 then .error "Invalid Length"
  else .ok (C.aesCbcDecrypt key iv data)

def aesCbcEncryptRaw (C : Primitives) (key iv data : Bytes) : Except String Bytes :=
  if key.length ≠ 32 ∨ iv.length ≠ 16 then .error "Invalid Length"
  else if data.length % 16 ≠ 0 then .error "AES-CBC encrypt failed: Padding error"
  else .ok (C.aesCbcEncrypt key iv data)

end Aes

/-- The sensor's own padding: `n` bytes each holding the value `n - 1`. -/
def padValidity (data : Bytes) : Bytes :=
  let n := 16 - data.length % 16
  data ++ List.replicate n (UInt8.ofNat (n - 1))

def unpadValidity (data : Bytes) : Except String Bytes :=
  match data.getLast? with
  | none => .error "cannot unpad empty buffer"
  | some last =>
    if data.length < last.toNat + 1 then .error s!"invalid validity padding byte {last}"
    else .ok (data.take (data.length - (last.toNat + 1)))

end ValidityFprintd.Crypto
