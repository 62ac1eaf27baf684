import Mathlib.Data.List.Forall2
import ValidityFprintd.Bytes

/-! Windows security identifiers, the keys the sensor's database knows users by. -/

namespace ValidityFprintd
open Effect

structure SidIdentity where
  revision : UInt8
  auth : UInt64
  subauth : List UInt32
  deriving DecidableEq

namespace SidIdentity

def toBytes (i : SidIdentity) : Bytes :=
  [i.revision, UInt8.ofNat i.subauth.length] ++ Bytes.be16 (i.auth >>> 32).toUInt16 ++
    Bytes.be32 (i.auth &&& 0xffffffff).toUInt32 ++ i.subauth.flatMap Bytes.le32

def fromBytes (b : Bytes) : Outcome String SidIdentity := do
  Outcome.bailIf (b.length < 8) s!"SID is too short ({b.length} bytes)"
  let revision ← Bytes.byteAt b 0
  let subcnt ← Bytes.byteAt b 1
  let auth := ((b.take 8).drop 2).foldl (fun (auth : UInt64) byte => auth <<< 8 ||| byte.toUInt64) 0
  Outcome.bailIf (b.length < 8 + 4 * subcnt.toNat)
    s!"SID declares {subcnt} sub-authorities but is only {b.length} bytes"
  let subauth ← Outcome.each (fun i => Bytes.rd32 b (8 + i * 4)) (List.range subcnt.toNat)
  .ok ⟨revision, auth, subauth⟩

/-- What the fixed fields of an encoding hold without loss. -/
structure Fits (i : SidIdentity) : Prop where
  auth : i.auth.toNat < 2 ^ 48
  subauth : i.subauth.length < 256

end SidIdentity

namespace Sid

/-- The tagged union of the database, padded as Windows pads it. -/
def identityToBytes (identity : SidIdentity) : Bytes :=
  Bytes.padTo 0x4c (Bytes.le32 3 ++ Bytes.le32 (Bytes.len32 identity.toBytes) ++ identity.toBytes)

def parseIdentity (b : Bytes) : Outcome String SidIdentity := do
  Outcome.bailIf (b.length < 8) s!"identity blob is too short ({b.length} bytes)"
  let t ← Bytes.rd32 b 0
  Outcome.bailIf (t ≠ 3) s!"unsupported identity type {t}"
  let l ← Bytes.rd32 b 4
  let sid ← Outcome.ofOption "identity blob is truncated" (Bytes.range? b 8 (8 + l.toNat))
  SidIdentity.fromBytes sid

end Sid

/-! What is encoded is read back. -/

theorem shift_or (a : UInt64) (b : UInt8) (h : a.toNat < 2 ^ 56) :
    (a <<< 8 ||| b.toUInt64).toNat = a.toNat * 256 + b.toNat := by
  have hb := b.toNat_lt
  have low : b.toNat < 2 ^ 8 := by omega
  have eight : (8 : UInt64).toNat % 64 = 8 := rfl
  have shift : (a <<< 8).toNat = a.toNat <<< 8 := by
    rw [UInt64.toNat_shiftLeft, eight, Nat.shiftLeft_eq]
    exact Nat.mod_eq_of_lt (by omega)
  rw [UInt64.toNat_or, shift, UInt8.toNat_toUInt64, ← Nat.shiftLeft_add_eq_or_of_lt low,
    Nat.shiftLeft_eq]

theorem shifts_toNat {l : Bytes} {a : UInt64} {n : Nat} (h : a.toNat < 256 ^ n)
    (hn : n + l.length ≤ 8) :
    (l.foldl (fun (a : UInt64) byte => a <<< 8 ||| byte.toUInt64) a).toNat =
      l.foldl (fun a byte => a * 256 + byte.toNat) a.toNat := by
  induction l generalizing a n with
  | nil => rfl
  | cons b l ih =>
    have hb := b.toNat_lt
    simp only [List.length_cons] at hn
    have room : 256 ^ n ≤ 256 ^ 7 := Nat.pow_le_pow_right (by decide) (by omega)
    have step := shift_or a b (by omega)
    have grown : (a <<< 8 ||| b.toUInt64).toNat < 256 ^ (n + 1) := by
      rw [step, Nat.pow_succ]
      omega
    rw [List.foldl_cons, List.foldl_cons, ih grown (by omega), step]

theorem shifts_lt {l : Bytes} {a n : Nat} (h : a < 256 ^ n) :
    l.foldl (fun a byte => a * 256 + byte.toNat) a < 256 ^ (n + l.length) := by
  induction l generalizing a n with
  | nil => exact h
  | cons b l ih =>
    have hb := b.toNat_lt
    have step : a * 256 + b.toNat < 256 ^ (n + 1) := by
      rw [Nat.pow_succ]
      omega
    have later := ih step
    rwa [Nat.add_assoc, Nat.add_comm 1] at later

theorem auth_bytes {auth : UInt64} (h : auth.toNat < 2 ^ 48) :
    (Bytes.be16 (auth >>> 32).toUInt16 ++ Bytes.be32 (auth &&& 0xffffffff).toUInt32).foldl
      (fun (auth : UInt64) byte => auth <<< 8 ||| byte.toUInt64) 0 = auth := by
  have high : (auth >>> 32).toUInt16.toNat = auth.toNat / 2 ^ 32 := by
    rw [UInt64.toNat_toUInt16, UInt64.toNat_shiftRight]
    have shift : auth.toNat >>> ((32 : UInt64).toNat % 64) = auth.toNat / 2 ^ 32 :=
      Nat.shiftRight_eq_div_pow _ _
    rw [shift]
    omega
  have low : (auth &&& 0xffffffff).toUInt32.toNat = auth.toNat % 2 ^ 32 := by
    rw [UInt64.toNat_toUInt32, UInt64.toNat_and]
    have mask : auth.toNat &&& (0xffffffff : UInt64).toNat = auth.toNat % 2 ^ 32 :=
      Nat.and_two_pow_sub_one_eq_mod _ 32
    rw [mask]
    omega
  apply UInt64.toNat_inj.mp
  rw [shifts_toNat (n := 0) (by decide) (by simp [Bytes.be32])]
  simp only [Bytes.be16, Bytes.be32, Bytes.le32, List.reverse_cons, List.reverse_nil,
    List.nil_append, List.cons_append, List.foldl_cons, List.foldl_nil, high, low,
    UInt8.toNat_ofNat', UInt64.toNat_zero]
  omega

namespace SidIdentity

theorem toBytes_length (i : SidIdentity) : i.toBytes.length = 8 + 4 * i.subauth.length := by
  simp only [toBytes, List.length_append, Bytes.be16_length, Bytes.be32, List.length_reverse,
    Bytes.le32_length, List.length_cons, List.length_nil,
    Bytes.table_length (fun _ => Bytes.le32_length _)]

theorem fromBytes_toBytes {i : SidIdentity} (h : i.Fits) : fromBytes i.toBytes = .ok i := by
  have size := toBytes_length i
  have count : (UInt8.ofNat i.subauth.length).toNat = i.subauth.length := by
    have few := h.subauth
    rw [UInt8.toNat_ofNat']
    omega
  have first : (Bytes.byteAt i.toBytes 0 : Outcome String UInt8) = .ok i.revision := rfl
  have second : (Bytes.byteAt i.toBytes 1 : Outcome String UInt8) =
      .ok (UInt8.ofNat i.subauth.length) := rfl
  have middle : (i.toBytes.take 8).drop 2 = Bytes.be16 (i.auth >>> 32).toUInt16 ++
      Bytes.be32 (i.auth &&& 0xffffffff).toUInt32 := rfl
  have subauth : Outcome.each (ε := String) (fun k => Bytes.rd32 i.toBytes (8 + k * 4))
      (List.range i.subauth.length) = .ok i.subauth := by
    refine Outcome.each_range fun k hk => ?_
    obtain ⟨front, back, split, width⟩ := Bytes.row_at (fun _ => Bytes.le32_length _) i.subauth hk
    refine Bytes.rd32_at ([i.revision, UInt8.ofNat i.subauth.length] ++
      Bytes.be16 (i.auth >>> 32).toUInt16 ++ Bytes.be32 (i.auth &&& 0xffffffff).toUInt32 ++ front)
      back ?_ ?_
    · rw [toBytes, split]
      simp only [List.append_assoc]
    · rw [List.length_append, width]
      rfl
  unfold fromBytes
  simp only [Outcome.bailIf, size, first, second, middle, auth_bytes h.auth, count, subauth,
    Outcome.ok_bind]
  rw [if_neg (by omega), if_neg (by omega)]
  rfl

theorem fromBytes_fits {b : Bytes} {i : SidIdentity} (h : fromBytes b = .ok i) : i.Fits := by
  obtain ⟨_, _, h⟩ := Outcome.bind_eq_ok.mp h
  obtain ⟨_, _, h⟩ := Outcome.bind_eq_ok.mp h
  obtain ⟨subcnt, _, h⟩ := Outcome.bind_eq_ok.mp h
  obtain ⟨_, _, h⟩ := Outcome.bind_eq_ok.mp h
  obtain ⟨subauth, each, h⟩ := Outcome.bind_eq_ok.mp h
  obtain rfl := Outcome.ok.inj h
  have six : ((b.take 8).drop 2).length ≤ 6 := by
    rw [List.length_drop, List.length_take]
    omega
  have zero : (0 : UInt64).toNat < 256 ^ 0 := by decide
  constructor
  · dsimp only
    rw [shifts_toNat zero (by omega)]
    refine Nat.lt_of_lt_of_le (shifts_lt zero) ?_
    rw [Nat.zero_add]
    exact Nat.pow_le_pow_right (by decide) six
  · have rows := (Outcome.each_eq_ok.mp each).length_eq
    rw [List.length_range] at rows
    rw [← rows]
    exact subcnt.toNat_lt

end SidIdentity

namespace Sid

theorem parseIdentity_fits {b : Bytes} {i : SidIdentity} (h : parseIdentity b = .ok i) :
    i.Fits := by
  obtain ⟨_, _, h⟩ := Outcome.bind_eq_ok.mp h
  obtain ⟨_, _, h⟩ := Outcome.bind_eq_ok.mp h
  obtain ⟨_, _, h⟩ := Outcome.bind_eq_ok.mp h
  obtain ⟨_, _, h⟩ := Outcome.bind_eq_ok.mp h
  obtain ⟨_, _, h⟩ := Outcome.bind_eq_ok.mp h
  exact SidIdentity.fromBytes_fits h

theorem identityToBytes_length (i : SidIdentity) :
    (identityToBytes i).length = max 0x4c (16 + 4 * i.subauth.length) := by
  rw [identityToBytes, Bytes.padTo_length]
  simp only [List.length_append, Bytes.le32_length, SidIdentity.toBytes_length]
  omega

/-- The database knows a user by the bytes that read back as the user's identity. -/
theorem parseIdentity_identityToBytes {i : SidIdentity} (h : i.Fits) :
    parseIdentity (identityToBytes i) = .ok i := by
  have size := identityToBytes_length i
  have sidSize := SidIdentity.toBytes_length i
  have few := h.subauth
  have len : (Bytes.len32 i.toBytes).toNat = i.toBytes.length := by
    rw [Bytes.len32, UInt32.toNat_ofNat']
    omega
  have kind : (Bytes.rd32 (identityToBytes i) 0 : Outcome String UInt32) = .ok 3 :=
    Bytes.rd32_at [] _ rfl rfl
  have length : (Bytes.rd32 (identityToBytes i) 4 : Outcome String UInt32) =
      .ok (Bytes.len32 i.toBytes) :=
    Bytes.rd32_at (Bytes.le32 3) _ (List.append_assoc _ _ _) rfl
  have sid : Bytes.range? (identityToBytes i) 8 (8 + (Bytes.len32 i.toBytes).toNat) =
      some i.toBytes :=
    Bytes.range?_at (Bytes.le32 3 ++ Bytes.le32 (Bytes.len32 i.toBytes)) _ rfl rfl
      (by rw [len]; rfl)
  unfold parseIdentity
  simp only [Outcome.bailIf, kind, length, sid, Outcome.ok_bind, Outcome.ofOption,
    SidIdentity.fromBytes_toBytes h]
  rw [if_neg (by omega)]
  rfl

theorem identityToBytes_inj {i j : SidIdentity} (hi : i.Fits) (hj : j.Fits)
    (h : identityToBytes i = identityToBytes j) : i = j := by
  have read := parseIdentity_identityToBytes hi
  rw [h, parseIdentity_identityToBytes hj] at read
  exact (Outcome.ok.inj read).symm

/-- An identity has one encoding that counts, whatever padding it was read with. -/
theorem identity_canonical :
    (∀ b x, parseIdentity b = .ok x → parseIdentity (identityToBytes x) = .ok x ∧
      (identityToBytes x).length = max 0x4c (16 + 4 * x.subauth.length)) ∧
    ∀ i j : SidIdentity, i.auth.toNat < 2 ^ 48 → i.subauth.length ≤ 255 →
      j.auth.toNat < 2 ^ 48 → j.subauth.length ≤ 255 →
        identityToBytes i = identityToBytes j → i = j := by
  constructor
  · intro b x read
    exact ⟨parseIdentity_identityToBytes (parseIdentity_fits read), identityToBytes_length x⟩
  · intro i j authI countI authJ countJ same
    exact identityToBytes_inj ⟨authI, Nat.lt_succ_of_le countI⟩ ⟨authJ, Nat.lt_succ_of_le countJ⟩
      same

theorem identity_canonical_trailing :
    parseIdentity (identityToBytes ⟨1, 5, [21, 1000]⟩) = .ok ⟨1, 5, [21, 1000]⟩ :=
  (identity_canonical.1 (identityToBytes ⟨1, 5, [21, 1000]⟩ ++ [0xff]) ⟨1, 5, [21, 1000]⟩
    (by decide +kernel)).1

end Sid

end ValidityFprintd
