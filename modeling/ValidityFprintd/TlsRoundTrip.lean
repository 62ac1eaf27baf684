import ValidityFprintd.TlsOpen

/-! What a secure session sends, and that a peer with the mirrored keys reads it back. The
length fields of a record and of its MAC have 16 bits, and nothing keeps a plaintext from
outgrowing them. -/

namespace ValidityFprintd.Tls
open Effect Crypto

/-- The block cipher's mode keeps lengths. -/
def CbcKeepsLength (C : Primitives) : Prop :=
  ∀ key iv data : Bytes, key.length = 32 → iv.length = 16 → data.length % 16 = 0 →
    (C.aesCbcEncrypt key iv data).length = data.length

/-- Its decryption undoes it, too. -/
structure CbcInverts (C : Primitives) : Prop where
  length : CbcKeepsLength C
  inverts : ∀ key iv data : Bytes, key.length = 32 → iv.length = 16 → data.length % 16 = 0 →
    C.aesCbcDecrypt key iv (C.aesCbcEncrypt key iv data) = data

section Padding

theorem padValidity_length (b : Bytes) :
    (padValidity b).length = b.length + (16 - b.length % 16) := by
  simp only [padValidity, List.length_append, List.length_replicate]

theorem padValidity_blocks (b : Bytes) : (padValidity b).length % 16 = 0 := by
  rw [padValidity_length]
  omega

theorem unpadValidity_padValidity (b : Bytes) : unpadValidity (padValidity b) = .ok b := by
  obtain ⟨k, hk⟩ : ∃ k, 16 - b.length % 16 = k + 1 := ⟨15 - b.length % 16, by omega⟩
  have byte : (UInt8.ofNat k).toNat = k := by
    rw [UInt8.toNat_ofNat']
    omega
  have padded : padValidity b = b ++ List.replicate (k + 1) (UInt8.ofNat k) := by
    simp only [padValidity, hk, Nat.add_sub_cancel]
  have last : (padValidity b).getLast? = some (UInt8.ofNat k) := by
    rw [padded, List.replicate_succ', ← List.append_assoc, List.getLast?_concat]
  have size : (padValidity b).length = b.length + (k + 1) := by rw [padValidity_length, hk]
  unfold unpadValidity
  simp only [last, byte, size]
  rw [if_neg (by omega), Nat.add_sub_cancel, padded, List.take_left]

end Padding

section Seal

variable {C : Primitives} {s : Tls} {t : UInt8} {b : Bytes}

theorem validate_ok {plain : Bytes} : validate C s t plain = .ok b ↔
    plain = b ++ (C.hmac s.validationKey (macHeader t b)).toList := by
  unfold validate
  constructor
  · intro h
    split at h
    · cases h
    · dsimp only at h
      split at h
      · cases h
      · rename_i mac
        obtain rfl := Except.ok.inj h
        rw [not_not.mp mac, List.take_append_drop]
  · rintro rfl
    have size : (b ++ (C.hmac s.validationKey (macHeader t b)).toList).length =
        b.length + 0x20 := by
      rw [List.length_append, Vector.length_toList]
    simp only [size]
    rw [if_neg (by omega), Nat.add_sub_cancel, List.take_left, List.drop_left, if_neg (by simp)]

theorem sign_length : (sign C s t b).length = b.length + 0x20 := by
  rw [sign, List.length_append, Vector.length_toList]

/-- The 16 random bytes a record begins with. -/
def nextIv (s : Tls) : Bytes := List.ofFn fun i : Fin 16 => s.rng i

def drawn (s : Tls) : Tls := { s with rng := fun i => s.rng (i + 16) }

theorem nextIv_length : (nextIv s).length = 16 := List.length_ofFn

/-- The IV, and the encryption of the padded plaintext and its MAC. -/
def sealedBody (C : Primitives) (s : Tls) (t : UInt8) (b : Bytes) : Bytes :=
  nextIv s ++ C.aesCbcEncrypt s.encryptionKey (nextIv s) (padValidity (sign C s t b))

def framed (t : UInt8) (body : Bytes) : Bytes := [t, 0x03, 0x03] ++ with2bytesSize body

theorem encrypt_run {E : Type} (plain : Bytes) :
    (encrypt C plain s : Result String E Tls Bytes) =
      if s.encryptionKey.length = 32 then
        ⟨.ok (nextIv s ++ C.aesCbcEncrypt s.encryptionKey (nextIv s) (padValidity plain)),
          drawn s, []⟩
      else ⟨.err "Invalid Length", drawn s, []⟩ := by
  have step : (encrypt C plain s : Result String E Tls Bytes) =
      (Act.lift (aesCbcEncryptRaw C s.encryptionKey (nextIv s) (padValidity plain)) >>=
        fun ct => Act.ret (nextIv s ++ ct)) (drawn s) := rfl
  rw [step, Act.lift_bind]
  unfold aesCbcEncryptRaw
  by_cases key : s.encryptionKey.length = 32
  · rw [if_neg (by simp [key, nextIv_length]), if_neg (by simp [padValidity_blocks]), if_pos key]
    rfl
  · rw [if_pos (.inl key), if_neg key]

theorem makeAppData_run {E : Type} : (makeAppData C b s : Result String E Tls Bytes) =
    if s.secureTx = false then
      ⟨.err "refusing to send application data before the channel is secure", s, []⟩
    else if s.encryptionKey.length = 32 then
      ⟨.ok (framed 0x17 (sealedBody C s 0x17 b)), drawn s, []⟩
    else ⟨.err "Invalid Length", drawn s, []⟩ := by
  have step : (makeAppData C b s : Result String E Tls Bytes) =
      (Act.bailIf (s.secureTx = false)
        "refusing to send application data before the channel is secure" >>= fun _ =>
          encrypt C (sign C s 0x17 b) >>= fun body =>
            Act.ret ([0x17, 0x03, 0x03] ++ with2bytesSize body)) s := rfl
  rw [step, Act.bailIf_bind]
  refine if_congr Iff.rfl rfl ?_
  rw [Act.bind_run, encrypt_run]
  split <;> rfl

theorem makeHandshake_run {E : Type} (tx : s.secureTx = true) :
    (makeHandshake C b s : Result String E Tls Bytes) =
      if s.encryptionKey.length = 32 then
        ⟨.ok (framed 0x16 (sealedBody C s 0x16 b)), drawn s, []⟩
      else ⟨.err "Invalid Length", drawn s, []⟩ := by
  have step : (makeHandshake C b s : Result String E Tls Bytes) =
      (if s.secureTx then encrypt C (sign C s 0x16 b) >>= fun body =>
          Act.ret ([0x16, 0x03, 0x03] ++ with2bytesSize body)
        else Act.ret b >>= fun body => Act.ret ([0x16, 0x03, 0x03] ++ with2bytesSize body)) s := rfl
  rw [step, if_pos tx, Act.bind_run, encrypt_run]
  split <;> rfl

/-- The longest plaintext, and one more: behind it a record's length no longer fits. -/
def plaintextLimit : Nat := 65472

theorem sealedBody_length (cbc : CbcKeepsLength C) (key : s.encryptionKey.length = 32) :
    (sealedBody C s t b).length < 65536 ↔ b.length < plaintextLimit := by
  rw [sealedBody, List.length_append, nextIv_length,
    cbc _ _ _ key nextIv_length (padValidity_blocks _), padValidity_length, sign_length,
    plaintextLimit]
  omega

/-- A body is one record if and only if its length fits the field. -/
theorem framed_frame {body : Bytes} :
    Frame (framed t body) t body [] ↔ body.length < 65536 := by
  have long : 5 ≤ (framed t body).length := by
    simp only [framed, with2bytesSize, List.length_append, Bytes.be16_length, List.length_cons]
    omega
  have bytes : ∀ s0 s1 : UInt8, Bytes.padTo 5 (framed t body) = t :: 3 :: 3 :: s0 :: s1 ::
      (body ++ []) ↔ Bytes.be16 (Bytes.len16 body) = [s0, s1] := by
    intro s0 s1
    rw [Bytes.padTo_of_le long, List.append_nil]
    simp only [framed, with2bytesSize, Bytes.be16, List.cons_append, List.nil_append,
      List.cons.injEq, true_and, and_true]
  constructor
  · rintro ⟨_, s0, s1, shape, size⟩
    have field := (Bytes.fromBe16 s0 s1).toNat_lt
    omega
  · intro fits
    refine ⟨List.cons_ne_nil _ _, _, _, (bytes _ _).mpr rfl, ?_⟩
    rw [Bytes.fromBe16, Bytes.fromLe16_le16, Bytes.len16_toNat fits]

theorem framed_body {body pkt : Bytes} (h : Frame (framed t body) t pkt []) : pkt = body := by
  obtain ⟨_, s0, s1, shape, _⟩ := h
  have long : 5 ≤ (framed t body).length := by
    simp only [framed, with2bytesSize, List.length_append, Bytes.be16_length, List.length_cons]
    omega
  rw [Bytes.padTo_of_le long, List.append_nil] at shape
  simp only [framed, with2bytesSize, Bytes.be16, List.cons_append, List.nil_append,
    List.cons.injEq, true_and] at shape
  exact shape.2.2.symm

end Seal

/-- The other end of a session, ready to receive. -/
structure Mirrors (s peer : Tls) : Prop where
  decryptionKey : peer.decryptionKey = s.encryptionKey
  validationKey : peer.validationKey = s.signKey
  secureRx : peer.secureRx = true

section Peer

variable {C : Primitives} {s peer : Tls} {t : UInt8} {b : Bytes}

theorem decrypt_sealedBody (cbc : CbcInverts C) (mirrors : Mirrors s peer)
    (key : s.encryptionKey.length = 32) :
    decrypt C peer (sealedBody C s t b) = .ok (sign C s t b) := by
  have size : (sealedBody C s t b).length = 16 + (padValidity (sign C s t b)).length := by
    rw [sealedBody, List.length_append, nextIv_length,
      cbc.length _ _ _ key nextIv_length (padValidity_blocks _)]
  have iv : (sealedBody C s t b).take 0x10 = nextIv s := by
    rw [sealedBody, ← nextIv_length (s := s), List.take_left]
  have ct : (sealedBody C s t b).drop 0x10 =
      C.aesCbcEncrypt s.encryptionKey (nextIv s) (padValidity (sign C s t b)) := by
    rw [sealedBody, ← nextIv_length (s := s), List.drop_left]
  have blocks : ¬ (C.aesCbcEncrypt s.encryptionKey (nextIv s)
      (padValidity (sign C s t b))).length % 16 ≠ 0 := by
    rw [cbc.length _ _ _ key nextIv_length (padValidity_blocks _), not_not]
    exact padValidity_blocks _
  unfold decrypt
  rw [if_neg (by omega), iv, ct, mirrors.decryptionKey]
  unfold aesCbcDecryptRaw
  rw [if_neg blocks, if_neg (by simp [key, nextIv_length]),
    cbc.inverts _ _ _ key nextIv_length (padValidity_blocks _)]
  exact unpadValidity_padValidity _

theorem validate_sign (mirrors : Mirrors s peer) : validate C peer t (sign C s t b) = .ok b := by
  rw [validate_ok, sign, mirrors.validationKey]

end Peer

section RoundTrip

variable (C : Primitives) (s peer : Tls) (b : Bytes)

/-- Whatever the session makes of a plaintext is one record, under a MAC of the plaintext's own
length, and the peer reads the plaintext back from it. -/
def AppDataReadBack : Prop :=
  ∀ rec s', Yields (makeAppData C b : Act String Unit Tls Bytes) s rec s' →
    (∃ pkt, Frame rec 0x17 pkt []) ∧ (Bytes.len16 b).toNat = b.length ∧
      Yields (parseTlsResponse C rec : Act String Unit Tls Bytes) peer b peer

/-- The same for a handshake record: the peer goes on with the messages of the plaintext. -/
def HandshakeReadBack : Prop :=
  s.secureTx = true → ∀ rec s', Yields (makeHandshake C b : Act String Unit Tls Bytes) s rec s' →
    ∃ pkt, Frame rec 0x16 pkt [] ∧ (Bytes.len16 b).toNat = b.length ∧
      (handleHandshake C pkt peer : Result String Unit Tls Unit) = handleMessages C b.length b peer

variable {C s peer b}

theorem appData_readBack (cbc : CbcInverts C) (mirrors : Mirrors s peer)
    (short : s.secureTx = true → s.encryptionKey.length = 32 → b.length < plaintextLimit) :
    AppDataReadBack C s peer b := by
  intro rec s' made
  rw [Yields, makeAppData_run] at made
  split at made
  · cases made.1
  · rename_i tx
    split at made
    · rename_i key
      obtain rfl := Outcome.ok.inj made.1
      have fits := short (by simpa using tx) key
      have frame : Frame (framed 0x17 (sealedBody C s 0x17 b)) 0x17 (sealedBody C s 0x17 b) [] :=
        framed_frame.mpr ((sealedBody_length cbc.length key).mpr fits)
      refine ⟨⟨_, frame⟩, Bytes.len16_toNat (Nat.lt_trans fits (by decide)), ?_⟩
      rw [parseTlsResponse_yields]
      have record : Record C peer 0x17 (sealedBody C s 0x17 b) [.appData b] peer :=
        .appData mirrors.secureRx (decrypt_sealedBody cbc mirrors key) (validate_sign mirrors)
      refine ⟨[.appData b] ++ [], .cons frame record (.nil peer), ?_⟩
      simp [appDataOf, Event.data]
    · cases made.1

theorem handshake_readBack (cbc : CbcInverts C) (mirrors : Mirrors s peer)
    (short : s.secureTx = true → s.encryptionKey.length = 32 → b.length < plaintextLimit) :
    HandshakeReadBack C s peer b := by
  intro tx rec s' made
  rw [Yields, makeHandshake_run tx] at made
  split at made
  · rename_i key
    obtain rfl := Outcome.ok.inj made.1
    have fits := short tx key
    refine ⟨_, framed_frame.mpr ((sealedBody_length cbc.length key).mpr fits),
      Bytes.len16_toNat (Nat.lt_trans fits (by decide)), ?_⟩
    have step : (handleHandshake C (sealedBody C s 0x16 b) peer : Result String Unit Tls Unit) =
        (if peer.secureRx then
            Act.lift (decrypt C peer (sealedBody C s 0x16 b)) >>= fun plain =>
              Act.lift (validate C peer 0x16 plain) >>= fun hs => handleMessages C hs.length hs
          else Act.ret (sealedBody C s 0x16 b) >>= fun hs => handleMessages C hs.length hs) peer :=
      rfl
    rw [step, if_pos mirrors.secureRx, decrypt_sealedBody cbc mirrors key, Act.lift_bind]
    dsimp only
    rw [validate_sign mirrors, Act.lift_bind]
  · cases made.1

/-- A plaintext that is too long makes a record whose length is not that of its body. -/
theorem appData_not_readBack (cbc : CbcInverts C) (tx : s.secureTx = true)
    (key : s.encryptionKey.length = 32) (long : plaintextLimit ≤ b.length) :
    ¬ AppDataReadBack C s peer b := by
  intro h
  have made : Yields (makeAppData C b : Act String Unit Tls Bytes) s
      (framed 0x17 (sealedBody C s 0x17 b)) (drawn s) := by
    rw [Yields, makeAppData_run, if_neg (by simp [tx]), if_pos key]
    exact ⟨rfl, rfl⟩
  obtain ⟨⟨pkt, frame⟩, _⟩ := h _ _ made
  have whole := framed_body frame
  rw [whole, framed_frame, sealedBody_length cbc.length key] at frame
  omega

/-- The peer reads back what was sealed, in one record, if and only if it is short enough for
the record's length field. -/
theorem records_read_back (cbc : CbcInverts C) (mirrors : Mirrors s peer) (b : Bytes) :
    (AppDataReadBack C s peer b ∧ HandshakeReadBack C s peer b) ↔
      (s.secureTx = true → s.encryptionKey.length = 32 → b.length < 65472) := by
  constructor
  · intro both tx key
    by_contra long
    exact appData_not_readBack cbc tx key (Nat.not_lt.mp long) both.1
  · intro short
    exact ⟨appData_readBack cbc mirrors short, handshake_readBack cbc mirrors short⟩

end RoundTrip

/-- A session under keys of the right length, and its own mirror. -/
def established : Tls :=
  { fresh with
    signKey := List.replicate 32 1
    validationKey := List.replicate 32 1
    encryptionKey := List.replicate 32 2
    decryptionKey := List.replicate 32 2
    secureTx := true
    secureRx := true }

theorem plain_inverts : CbcInverts plainPrimitives :=
  ⟨fun _ _ _ _ _ _ => rfl, fun _ _ _ _ _ _ => rfl⟩

theorem records_read_back_short :
    AppDataReadBack plainPrimitives established established [0x40, 1, 1] ∧
      HandshakeReadBack plainPrimitives established established [0x40, 1, 1] :=
  (records_read_back plain_inverts ⟨rfl, rfl, rfl⟩ [0x40, 1, 1]).mpr fun _ _ => by decide

/-- A command of 65472 bytes goes out as a record that claims to be empty. -/
theorem records_not_read_back :
    ¬ (AppDataReadBack plainPrimitives established established (List.replicate 65472 0) ∧
      HandshakeReadBack plainPrimitives established established (List.replicate 65472 0)) := by
  rintro ⟨readBack, _⟩
  have long : plaintextLimit ≤ (List.replicate 65472 (0 : UInt8)).length := by
    rw [List.length_replicate]
    exact Nat.le_refl _
  exact appData_not_readBack plain_inverts rfl rfl long readBack

end ValidityFprintd.Tls
