import ValidityFprintd.FarEnd

/-! A handshake with the far end its pairing record belongs to comes to its end, and leaves the two
ends with each other's keys. -/

namespace ValidityFprintd.Tls
open Effect Crypto

variable {C : Primitives} {E T : Type}

section Splitting

theorem framed_shape (t : UInt8) (body rest : Bytes) : framed t body ++ rest =
    t :: 3 :: 3 :: UInt8.ofNat ((Bytes.len16 body).toNat / 256) ::
      UInt8.ofNat (Bytes.len16 body).toNat :: (body ++ rest) := by
  simp only [framed, with2bytesSize, Bytes.be16, List.cons_append, List.nil_append]

theorem takeRecord_framed (t : UInt8) {b : Bytes} (rest : Bytes) (fits : b.length < 65536) :
    takeRecord t (framed t b ++ rest) = some (b, rest) := by
  have size : (Bytes.fromBe16 (UInt8.ofNat ((Bytes.len16 b).toNat / 256))
      (UInt8.ofNat (Bytes.len16 b).toNat)).toNat = b.length := by
    rw [fromBe16_bytes, Bytes.len16_toNat fits]
  rw [framed_shape, takeRecord]
  simp only [size, List.take_left, List.drop_left, List.length_append, Nat.le_add_right,
    and_self, if_true]

theorem message_shape (t : UInt8) (p rest : Bytes) : message t p ++ rest =
    t :: UInt8.ofNat (p.length / 65536) :: UInt8.ofNat ((Bytes.len16 p).toNat / 256) ::
      UInt8.ofNat (Bytes.len16 p).toNat :: (p ++ rest) := by
  simp only [message, HandshakeMessage.encode, with3bytesSize, Bytes.be16, List.cons_append,
    List.nil_append]

theorem message_length (t : UInt8) (p : Bytes) : (message t p).length = p.length + 4 :=
  encode_length ⟨t, p⟩

theorem takeMessage_message (t : UInt8) {p : Bytes} (rest : Bytes) (fits : p.length < 16777216) :
    takeMessage t (message t p ++ rest) = some (p, rest) := by
  rw [message_shape, takeMessage]
  simp only [header_size fits, List.take_left, List.drop_left, List.length_append,
    Nat.le_add_right, and_self, if_true]

theorem bytes32?_toList (r : Bytes32) : bytes32? r.toList = some r := by
  unfold bytes32?
  rw [dif_pos Vector.length_toList]
  exact congrArg some (Vector.toList_inj.mp (by simp))

end Splitting

section Hearing

variable {s s1 s2 : Tls} {t : UInt8} {p rest : Bytes} {evs : List Event}

theorem Messages.hear {cover : Option Bytes} (fits : p.length < 16777216)
    (taken : Message C s t p s1)
    (later : Messages C cover (fold s1 (message t p)) rest evs s2) :
    Messages C cover s (message t p ++ rest) (.message cover s t p :: evs) s2 := by
  have shape := message_shape t p rest
  have same : message t p = [t, UInt8.ofNat (p.length / 65536),
      UInt8.ofNat ((Bytes.len16 p).toNat / 256), UInt8.ofNat (Bytes.len16 p).toNat] ++ p := by
    have := message_shape t p []
    simpa using this
  have whole : Bytes.padTo 4 (message t p ++ rest) = message t p ++ rest :=
    Bytes.padTo_of_le (by rw [List.length_append, message_length]; omega)
  have nonempty : message t p ++ rest ≠ [] := by
    rw [shape]
    exact List.cons_ne_nil _ _
  rw [same] at later
  exact .cons nonempty (whole.trans shape) (header_size fits).symm taken later

theorem Frame.of_framed {body : Bytes} (rest : Bytes) (fits : body.length < 65536) :
    Frame (framed t body ++ rest) t body rest := by
  have shape := framed_shape t body rest
  have whole : Bytes.padTo 5 (framed t body ++ rest) = framed t body ++ rest :=
    Bytes.padTo_of_le (by rw [shape]; simp only [List.length_cons]; omega)
  refine ⟨by rw [shape]; exact List.cons_ne_nil _ _, _, _, whole.trans shape, ?_⟩
  rw [fromBe16_bytes, Bytes.len16_toNat fits]

end Hearing

/-! The driver's side, packet by packet. -/

section Driver

variable (s : Tls)

def clientRandomOf (rng : Rng) : Bytes32 := Vector.ofFn fun i => rng i

def helloExtensions : Bytes :=
  makeExt 0x0004 (Bytes.be16 0x0017) ++ makeExt 0x000b (with1byteSize [0x00])

def clientHello (random : Bytes32) : Bytes :=
  message 0x01 ([0x03, 0x03] ++ random.toList ++ with1byteSize (List.replicate 7 0) ++
    with2bytesSize (Bytes.be16 suiteEcdhEcdsaAes256CbcSha ++ Bytes.be16 0x003d ++
      Bytes.be16 0x008d) ++ with1byteSize [] ++
    Bytes.be16 (UInt16.ofNat (helloExtensions.length - 2)) ++ helloExtensions)

def greeted : Tls :=
  { s with
    secureTx := false
    secureRx := false
    clientRandom := clientRandomOf s.rng
    handshakeHash := clientHello (clientRandomOf s.rng)
    rng := fun i => s.rng (i + 32) }

theorem makeClientHello_yields : Yields (makeClientHello : Act String E Tls Bytes) s
    (clientHello (clientRandomOf s.rng))
    { s with
      clientRandom := clientRandomOf s.rng
      handshakeHash := s.handshakeHash ++ clientHello (clientRandomOf s.rng)
      rng := fun i => s.rng (i + 32) } := by
  have drawn : (draw32 : Act String E Tls Bytes32) s =
      ⟨.ok (clientRandomOf s.rng), { s with rng := fun i => s.rng (i + 32) }, []⟩ := rfl
  rw [Yields, makeClientHello, Act.bind_run, drawn, Act.follow_ok]
  simp only [Act.modify_bind]
  exact ⟨rfl, rfl⟩

theorem makeHandshake_clear {s : Tls} (clear : s.secureTx = false) (b : Bytes) :
    Yields (makeHandshake C b : Act String E Tls Bytes) s (framed 0x16 b) s := by
  have step : (makeHandshake C b : Act String E Tls Bytes) s =
      (if s.secureTx then encrypt C (sign C s 0x16 b) >>= fun body =>
          Act.ret ([0x16, 0x03, 0x03] ++ with2bytesSize body)
        else Act.ret b >>= fun body => Act.ret ([0x16, 0x03, 0x03] ++ with2bytesSize body)) s := rfl
  rw [Yields, step, clear]
  exact ⟨rfl, rfl⟩

theorem helloPacket_yields : Yields (helloPacket C : Act String E Tls Bytes) s
    ([0x44, 0, 0, 0] ++ framed 0x16 (clientHello (clientRandomOf s.rng))) (greeted s) := by
  refine Yields.bind_iff.mpr ⟨(), _, Yields.modify_iff.mpr rfl, ?_⟩
  refine Yields.bind_iff.mpr ⟨_, _, makeClientHello_yields _, ?_⟩
  exact Yields.bind_iff.mpr ⟨_, _, makeHandshake_clear rfl _, rfl, rfl⟩

def keyed (serverRandom : Bytes32) (heard : Bytes) : Tls :=
  let (secret, rng) := C.ephemeralSecret s.rng
  let seed := s.clientRandom.toList ++ serverRandom.toList
  let masterSecret := prf C (C.diffieHellman secret s.material.ecdhPublic)
    (masterSecretLabel ++ seed) 0x30
  let block := prf C masterSecret (keyExpansion ++ seed) 0x120
  { s with
    handshakeHash := heard
    serverRandom := serverRandom
    rng := rng
    sessionPublic := C.publicKey secret
    masterSecret := masterSecret
    signKey := (block.take 0x20).drop 0x00
    validationKey := (block.take 0x40).drop 0x20
    encryptionKey := (block.take 0x60).drop 0x40
    decryptionKey := (block.take 0x80).drop 0x60 }

theorem makeKeys_yields (serverRandom : Bytes32) (heard : Bytes) :
    Yields (makeKeys C : Act String E Tls Unit)
      { s with serverRandom := serverRandom, handshakeHash := heard } ()
      (keyed (C := C) s serverRandom heard) := by
  have long : ∀ secret seed, (prf C secret seed 0x120).length = 0x120 :=
    fun secret seed => prf_length C secret seed 0x120
  rw [Yields]
  simp only [makeKeys, Act.modify_bind, Act.get_bind, Bytes.slice_bind, long]
  exact ⟨rfl, rfl⟩

def certsMessage (tlsCert : Bytes) : Bytes :=
  message 0x0b (0 :: (Bytes.be16 (Bytes.len16 tlsCert) ++
    (0 :: (Bytes.be16 (Bytes.len16 tlsCert) ++ ([0xac, 0x16] ++ tlsCert)))))

theorem makeCerts_yields : Yields (makeCerts : Act String E Tls Bytes) s
    (certsMessage s.material.tlsCert) (fold s (certsMessage s.material.tlsCert)) :=
  ⟨rfl, rfl⟩

theorem makeClientKex_yields : Yields (makeClientKex : Act String E Tls Bytes) s
    (message 0x10 s.sessionPublic) (fold s (message 0x10 s.sessionPublic)) :=
  ⟨rfl, rfl⟩

theorem makeCertVerify_yields {s : Tls} {key sig : Bytes}
    (signs : C.signingKey s.material.privateKeyD = .ok key)
    (signed : C.signPrehash key (transcript C s) = .ok sig) :
    Yields (makeCertVerify C : Act String E Tls Bytes) s (message 0x0f sig)
      (fold s (message 0x0f sig)) := by
  refine Yields.bind_iff.mpr ⟨s, s, Yields.get_iff.mpr ⟨rfl, rfl⟩, ?_⟩
  refine Yields.bind_iff.mpr ⟨key, s, Yields.mapErr_iff.mpr (Yields.lift_iff.mpr ⟨signs, rfl⟩), ?_⟩
  refine Yields.bind_iff.mpr ⟨sig, s, Yields.mapErr_iff.mpr (Yields.lift_iff.mpr ⟨signed, rfl⟩), ?_⟩
  exact ⟨rfl, rfl⟩

def signedPart (s : Tls) : Bytes := certsMessage s.material.tlsCert ++ message 0x10 s.sessionPublic

def secondFlight (s : Tls) (sig : Bytes) : Bytes := signedPart s ++ message 0x0f sig

def clientFinishedMessage (C : Primitives) (s : Tls) : Bytes :=
  message 0x14 (prf C s.masterSecret (clientFinished ++ (transcript C s).toList) 0x0c)

/-- The session whose second flight is out. -/
def flown (s : Tls) (sig : Bytes) : Tls :=
  { s with secureTx := true, handshakeHash := s.handshakeHash ++ secondFlight s sig }

theorem makeFinish_yields : Yields (makeFinish C : Act String E Tls Bytes) s
    (clientFinishedMessage C { s with secureTx := true }) { s with secureTx := true } :=
  ⟨rfl, rfl⟩

def finishCommand (C : Primitives) (s : Tls) (sig : Bytes) : Bytes :=
  [0x44, 0, 0, 0] ++ framed 0x16 (secondFlight s sig) ++ [0x14, 0x03, 0x03, 0x00, 0x01, 0x01] ++
    framed 0x16 (sealedBody C (flown s sig) 0x16 (clientFinishedMessage C (flown s sig)))

theorem finishPacket_yields {s : Tls} {key sig : Bytes} (clear : s.secureTx = false)
    (signs : C.signingKey s.material.privateKeyD = .ok key)
    (signed : C.signPrehash key (C.sha256 (s.handshakeHash ++ signedPart s)) = .ok sig)
    (wide : s.encryptionKey.length = 32) :
    Yields (finishPacket C : Act String E Tls Bytes) s (finishCommand C s sig)
      (drawn (flown s sig)) := by
  have covered : fold (fold s (certsMessage s.material.tlsCert)) (message 0x10 s.sessionPublic) =
      fold s (signedPart s) := by
    simp only [fold, signedPart, List.append_assoc]
  have out : fold (fold s (signedPart s)) (message 0x0f sig) = fold s (secondFlight s sig) := by
    simp only [fold, secondFlight, List.append_assoc]
  have verify : Yields (makeCertVerify C : Act String E Tls Bytes) (fold s (signedPart s))
      (message 0x0f sig) (fold s (secondFlight s sig)) :=
    out ▸ makeCertVerify_yields signs signed
  have clear' : (fold s (secondFlight s sig)).secureTx = false := clear
  have second : Yields (makeHandshake C (clientFinishedMessage C (flown s sig)) :
      Act String E Tls Bytes) (flown s sig) (framed 0x16 (sealedBody C (flown s sig) 0x16
        (clientFinishedMessage C (flown s sig)))) (drawn (flown s sig)) := by
    have wide' : (flown s sig).encryptionKey.length = 32 := wide
    rw [Yields, makeHandshake_run rfl, if_pos wide']
    exact ⟨rfl, rfl⟩
  refine Yields.bind_iff.mpr ⟨_, _, makeCerts_yields s, ?_⟩
  refine Yields.bind_iff.mpr ⟨_, _, makeClientKex_yields _, ?_⟩
  rw [show (fold s (certsMessage s.material.tlsCert)).sessionPublic = s.sessionPublic from rfl,
    covered]
  refine Yields.bind_iff.mpr ⟨_, _, verify, ?_⟩
  refine Yields.bind_iff.mpr ⟨_, _, makeHandshake_clear clear' _, ?_⟩
  refine Yields.bind_iff.mpr ⟨_, _, makeFinish_yields _, ?_⟩
  exact Yields.bind_iff.mpr ⟨_, _, second, rfl, rfl⟩

end Driver

/-! The far end's side of the same packets. -/

section FarEnd

variable {a : Authority}

/-- The sensor issued this record: its own key agrees with the point in it, and it takes what the
record's key signs for the record's certificate. -/
structure Issued (C : Primitives) (a : Authority) (m : PairingMaterial) : Prop where
  agrees : ∀ secret, C.diffieHellman a.secret (C.publicKey secret) =
    C.diffieHellman secret m.ecdhPublic
  signs : ∃ key, C.signingKey m.privateKeyD = .ok key ∧ ∀ digest, ∃ sig,
    C.signPrehash key digest = .ok sig ∧ sig.length ≤ 72 ∧ a.accepts m.tlsCert digest sig = true
  point : ∀ secret, (C.publicKey secret).length ≤ 65
  cert : m.tlsCert.length ≤ 0x1000

theorem greeting_hello (random : Bytes32) :
    greeting ([0x44, 0, 0, 0] ++ framed 0x16 (clientHello random)) =
      some (random, clientHello random) := by
  have size : (clientHello random).length = 69 := by
    simp only [clientHello, message_length, List.length_append, Vector.length_toList]
    rfl
  have record := takeRecord_framed 0x16 (b := clientHello random) [] (by omega)
  rw [List.append_nil] at record
  have hello := takeMessage_message 0x01 (p := [0x03, 0x03] ++ random.toList ++
    with1byteSize (List.replicate 7 0) ++ with2bytesSize (Bytes.be16 suiteEcdhEcdsaAes256CbcSha ++
      Bytes.be16 0x003d ++ Bytes.be16 0x008d) ++ with1byteSize [] ++
    Bytes.be16 (UInt16.ofNat (helloExtensions.length - 2)) ++ helloExtensions) [] (by
      rw [clientHello, message_length] at size
      omega)
  rw [List.append_nil, ← clientHello] at hello
  have found : (random.toList ++ (with1byteSize (List.replicate 7 0) ++ (with2bytesSize
      (Bytes.be16 suiteEcdhEcdsaAes256CbcSha ++ (Bytes.be16 0x003d ++ Bytes.be16 0x008d)) ++
        (with1byteSize [] ++ (Bytes.be16 (UInt16.ofNat (helloExtensions.length - 2)) ++
          helloExtensions))))).take 32 = random.toList := by
    rw [List.take_left' Vector.length_toList]
  have command : handshakeCommand ([0x44, 0, 0, 0] ++ framed 0x16 (clientHello random)) =
      some (framed 0x16 (clientHello random)) := rfl
  rw [greeting, command]
  simp only [Option.bind_eq_bind, Option.bind_some, record, hello]
  simp only [List.append_assoc, List.cons_append, List.nil_append, List.drop_succ_cons,
    List.drop_zero, found, bytes32?_toList, Option.bind_some]

theorem certsMessage_body (cert : Bytes) : certsMessage cert = message 0x0b
    ([0] ++ Bytes.be16 (Bytes.len16 cert) ++ [0] ++ Bytes.be16 (Bytes.len16 cert) ++
      [0xac, 0x16] ++ cert) := by
  simp only [certsMessage, List.append_assoc, List.cons_append, List.nil_append]

theorem clientFlight_secondFlight {s : Tls} {sig : Bytes}
    (cert : s.material.tlsCert.length ≤ 0x1000)
    (point : s.sessionPublic.length ≤ 65) (short : sig.length ≤ 72) :
    clientFlight (secondFlight s sig) =
      some (s.material.tlsCert, s.sessionPublic, sig, signedPart s) := by
  have certs := takeMessage_message 0x0b (p := [0] ++ Bytes.be16 (Bytes.len16 s.material.tlsCert) ++
    [0] ++ Bytes.be16 (Bytes.len16 s.material.tlsCert) ++ [0xac, 0x16] ++ s.material.tlsCert)
      (message 0x10 s.sessionPublic ++ message 0x0f sig) (by
        simp only [List.length_append, List.length_cons, List.length_nil, Bytes.be16_length]
        omega)
  have kex := takeMessage_message 0x10 (p := s.sessionPublic) (message 0x0f sig) (by omega)
  have verify := takeMessage_message 0x0f (p := sig) [] (by omega)
  rw [List.append_nil] at verify
  have covered : (secondFlight s sig).take ((secondFlight s sig).length -
      (message 0x0f sig).length) = signedPart s := by
    rw [secondFlight, List.length_append, Nat.add_sub_cancel, List.take_left]
  rw [← certsMessage_body, ← List.append_assoc, ← signedPart, ← secondFlight] at certs
  simp only [clientFlight, certs, kex, verify, covered, Option.bind_eq_bind, Option.bind_some]
  rfl

/-- The driver hears the sensor's first flight. -/
theorem records_serverFlight {s : Tls} (clear : s.secureRx = false) (random : Bytes32) :
    ∃ evs, Records C s (framed 0x16 (serverFlight random)) evs
      { s with
        serverRandom := random
        handshakeHash := s.handshakeHash ++ serverFlight random } := by
  have size : (serverFlight random).length = 50 := by
    simp only [serverFlight, message_length, List.length_append, Vector.length_toList]
    rfl
  let p : Bytes := [3, 3] ++ random.toList ++ [0, 0xc0, 0x05, 0]
  have hello : IsServerHello p random := ⟨[], [], by decide, by simp [p]⟩
  have small : p.length < 16777216 := by simp [p]
  let s1 := fold { s with serverRandom := random } (message 0x02 p)
  let s2 := fold s1 (message 0x0d [])
  have done : Messages C none s2 (message 0x0e [] ++ []) _ (fold s2 (message 0x0e [])) :=
    .hear (by decide) .serverHelloDone (.nil _)
  have request : Messages C none s1 (message 0x0d [] ++ (message 0x0e [] ++ [])) _
      (fold s2 (message 0x0e [])) := .hear (by decide) .certificateRequest done
  have flight : Messages C none s
      (message 0x02 p ++ (message 0x0d [] ++ (message 0x0e [] ++ []))) _
      (fold s2 (message 0x0e [])) := .hear small (.serverHello hello) request
  have whole : message 0x02 p ++ (message 0x0d [] ++ (message 0x0e [] ++ [])) =
      serverFlight random := by
    rw [serverFlight, List.append_nil, List.append_assoc]
  have last : fold s2 (message 0x0e []) =
      { s with
        serverRandom := random
        handshakeHash := s.handshakeHash ++ serverFlight random } := by
    simp only [s2, s1, fold, serverFlight, List.append_assoc, p]
  rw [whole, last] at flight
  have frame : Frame (framed 0x16 (serverFlight random) ++ []) 0x16 (serverFlight random) [] :=
    .of_framed [] (by omega)
  rw [List.append_nil] at frame
  have opened : Opened C s (serverFlight random) none (serverFlight random) := ⟨clear, rfl⟩
  exact ⟨_, .cons frame (.handshake opened flight) (.nil _)⟩

/-- Two ends with one key block, each at its own side of it. -/
structure Agreed (s peer : Tls) : Prop where
  masterSecret : peer.masterSecret = s.masterSecret
  decryptionKey : peer.decryptionKey = s.encryptionKey
  validationKey : peer.validationKey = s.signKey
  encryptionKey : s.decryptionKey = peer.encryptionKey
  signKey : s.validationKey = peer.signKey
  wide : s.encryptionKey.length = 32
  peerWide : peer.encryptionKey.length = 32

theorem keyed_agreed {s : Tls} (agrees : ∀ secret, C.diffieHellman a.secret (C.publicKey secret) =
      C.diffieHellman secret s.material.ecdhPublic) (serverRandom : Bytes32) (heard : Bytes)
    (rng : Rng) : Agreed (keyed (C := C) s serverRandom heard)
      (farKeys C a.secret (keyed (C := C) s serverRandom heard).sessionPublic s.clientRandom
        serverRandom rng) := by
  have secret : C.diffieHellman a.secret (keyed (C := C) s serverRandom heard).sessionPublic =
      C.diffieHellman (C.ephemeralSecret s.rng).1 s.material.ecdhPublic := agrees _
  have long : ∀ secret seed, (prf C secret seed 0x120).length = 0x120 :=
    fun secret seed => prf_length C secret seed 0x120
  unfold farKeys
  rw [secret]
  refine ⟨rfl, rfl, rfl, rfl, rfl, ?_, ?_⟩
  · simp [keyed, long]
  · simp [long]

def finishReply (C : Primitives) (keys : Tls) : Bytes :=
  framed 0x14 [1] ++ framed 0x16 (sealedBody C keys 0x16 (message 0x14 (finishedBody C keys)))

theorem sealed_fits {k : Tls} {p : Bytes} (cbc : CbcInverts C)
    (wide : k.encryptionKey.length = 32) (short : p.length = 0x0c) :
    (sealedBody C k 0x16 (message 0x14 p)).length < 65536 := by
  rw [sealedBody_length cbc.length wide, message_length, short]
  decide

/-- The far end takes the driver's second packet. -/
theorem agree_finishCommand {s keys : Tls} {sig heard : Bytes} {clientRandom serverRandom : Bytes32}
    {rng : Rng} (cbc : CbcInverts C) (hash : s.handshakeHash = heard)
    (farKeys_eq : keys = { farKeys C a.secret s.sessionPublic clientRandom serverRandom rng with
      handshakeHash := heard ++ secondFlight s sig }) (agreed : Agreed s keys)
    (cert : s.material.tlsCert.length ≤ 0x1000) (point : s.sessionPublic.length ≤ 65)
    (short : sig.length ≤ 72)
    (accepted : a.accepts s.material.tlsCert (C.sha256 (heard ++ signedPart s)) sig = true) :
    agree C a clientRandom serverRandom heard rng (finishCommand C s sig) =
      some (finishReply C keys, drawn keys) := by
  have flight : (secondFlight s sig).length < 65536 := by
    simp only [secondFlight, signedPart, certsMessage_body, message_length, List.length_append,
      Bytes.be16_length, List.length_cons, List.length_nil]
    omega
  have mirrors : Mirrors (flown s sig) keys :=
    ⟨agreed.decryptionKey, agreed.validationKey, by rw [farKeys_eq]; rfl⟩
  have fits := sealed_fits (k := flown s sig) (p := prf C (flown s sig).masterSecret
    (clientFinished ++ (transcript C (flown s sig)).toList) 0x0c) cbc agreed.wide
      (prf_length C _ _ _)
  have command : handshakeCommand (finishCommand C s sig) =
      some (framed 0x16 (secondFlight s sig) ++
      (framed 0x14 [1] ++ (framed 0x16 (sealedBody C (flown s sig) 0x16
        (clientFinishedMessage C (flown s sig))) ++ []))) := by
    simp only [finishCommand, List.append_assoc, List.append_nil]
    rfl
  have secret : (farKeys C a.secret s.sessionPublic clientRandom serverRandom rng).masterSecret =
      s.masterSecret := by
    rw [← agreed.masterSecret, farKeys_eq]
  have finished : clientFinishedMessage C (flown s sig) = message 0x14 (prf C s.masterSecret
      (clientFinished ++ (transcript C keys).toList) 0x0c) := by
    simp only [clientFinishedMessage, transcript, flown, hash, farKeys_eq]
  rw [agree, command]
  simp only [Option.bind_eq_bind, Option.bind_some, takeRecord_framed _ _ flight,
    takeRecord_framed 0x14 _ (b := [1]) (by decide),
    takeRecord_framed 0x16 [] (b := sealedBody C (flown s sig) 0x16
      (clientFinishedMessage C (flown s sig))) fits,
    clientFlight_secondFlight cert point short, ← farKeys_eq,
    decrypt_sealedBody cbc mirrors (show (flown s sig).encryptionKey.length = 32 from agreed.wide),
    validate_sign mirrors, Except.toOption, accepted]
  rw [secret, if_pos ⟨trivial, trivial, finished⟩]
  rfl

/-- The driver hears the far end change to its keys and finish under them. -/
theorem records_finishReply {s keys : Tls} (cbc : CbcInverts C) (agreed : Agreed s keys)
    (hash : s.handshakeHash = keys.handshakeHash) :
    ∃ evs, Records C s (finishReply C keys) evs
      (fold { s with secureRx := true } (message 0x14 (finishedBody C keys))) := by
  have short : (finishedBody C keys).length = 0x0c := prf_length C _ _ _
  have mirrors : Mirrors keys { s with secureRx := true } :=
    ⟨agreed.encryptionKey, agreed.signKey, rfl⟩
  have change : Frame (finishReply C keys) 0x14 [1] (framed 0x16 (sealedBody C keys 0x16
      (message 0x14 (finishedBody C keys)))) := .of_framed _ (by decide)
  have frame : Frame (framed 0x16 (sealedBody C keys 0x16 (message 0x14 (finishedBody C keys))) ++
      []) 0x16 (sealedBody C keys 0x16 (message 0x14 (finishedBody C keys))) [] :=
    .of_framed [] (sealed_fits cbc agreed.peerWide short)
  rw [List.append_nil] at frame
  have due : finishedBody C { s with secureRx := true } = finishedBody C keys := by
    simp only [finishedBody, transcript, agreed.masterSecret, hash]
  have taken : Message C { s with secureRx := true } 0x14 (finishedBody C keys)
      { s with secureRx := true } := due ▸ Message.finished
  have messages : Messages C (some (sealedBody C keys 0x16 (message 0x14 (finishedBody C keys))))
      { s with secureRx := true } (message 0x14 (finishedBody C keys) ++ []) _
      (fold { s with secureRx := true } (message 0x14 (finishedBody C keys))) :=
    .hear (by omega) taken (.nil _)
  rw [List.append_nil] at messages
  have opened : Opened C { s with secureRx := true }
      (sealedBody C keys 0x16 (message 0x14 (finishedBody C keys)))
      (some (sealedBody C keys 0x16 (message 0x14 (finishedBody C keys))))
      (message 0x14 (finishedBody C keys)) :=
    ⟨rfl, rfl, _, decrypt_sealedBody cbc mirrors agreed.peerWide, validate_sign mirrors⟩
  exact ⟨_, .cons change (.changeCipherSpec s)
    (.cons frame (.handshake opened messages) (.nil _))⟩

end FarEnd

/-- With the sensor that issued its pairing record a driver comes to a session, whatever its
random bytes and the sensor's, and each end of it reads what the other one seals. The sensor
behind it is as it was. -/
theorem openSession_agrees {a : Authority} {v : Usb.World T} (cbc : CbcInverts C)
    {l : Link (Far T)} (issued : Issued C a l.tls.material) (clear : l.env.phase = .clear) :
    ∃ l', Yields (openSession C (far C a v)) l () l' ∧ Linked l' l.env.sensor := by
  obtain ⟨key, signs, signed⟩ := issued.signs
  let random := clientRandomOf l.tls.rng
  let serverRandom : Bytes32 := Vector.ofFn fun i => l.env.rng i
  let rng : Rng := fun i => l.env.rng (i + 32)
  let heard := clientHello random ++ serverFlight serverRandom
  let s := keyed (C := C) (greeted l.tls) serverRandom heard
  obtain ⟨sig, made, short, accepted⟩ := signed (C.sha256 (heard ++ signedPart s))
  let keys : Tls := { farKeys C a.secret s.sessionPublic random serverRandom rng with
    handshakeHash := heard ++ secondFlight s sig }
  obtain ⟨events1, accepts1⟩ := records_serverFlight (C := C) (s := greeted l.tls) rfl serverRandom
  have same := keyed_agreed (C := C) (s := greeted l.tls) issued.agrees serverRandom heard rng
  have agreed : Agreed s keys := ⟨same.1, same.2, same.3, same.4, same.5, same.6, same.7⟩
  have agreed' : Agreed (drawn (flown s sig)) keys :=
    ⟨same.1, same.2, same.3, same.4, same.5, same.6, same.7⟩
  have checked : agree C a random serverRandom heard rng (finishCommand C s sig) =
      some (finishReply C keys, drawn keys) :=
    agree_finishCommand cbc rfl rfl agreed issued.cert (issued.point _) short accepted
  obtain ⟨events2, accepts2⟩ := records_finishReply (s := drawn (flown s sig)) cbc agreed' rfl
  let flights : Flights C (far C a v) l :=
    { hello := _
      greeted := greeted l.tls
      sendsHello := helloPacket_yields l.tls
      reply1 := framed 0x16 (serverFlight serverRandom)
      env1 := ⟨.greeted random serverRandom heard, rng, l.env.sensor⟩
      answered1 := by
        simp only [far, clear, answerClear, greeting_hello]
        rfl
      events1 := events1
      heard := _
      accepts1 := accepts1
      keyed := s
      derives := makeKeys_yields _ _ _
      finish := finishCommand C s sig
      finishing := drawn (flown s sig)
      sendsFinish := finishPacket_yields rfl signs made agreed.wide
      reply2 := finishReply C keys
      env2 := ⟨.secured (drawn keys), rng, l.env.sensor⟩
      answered2 := by simp only [far, checked]
      events2 := events2
      final := _
      accepts2 := accepts2 }
  refine ⟨_, (Flights.run_iff _ _ _).mpr ⟨flights, ⟨rfl, rfl⟩, rfl⟩, rfl, drawn keys, rfl, ?_⟩
  exact ⟨⟨agreed.decryptionKey, agreed.validationKey, rfl⟩,
    ⟨agreed.encryptionKey, agreed.signKey, rfl⟩, rfl, agreed.wide, agreed.peerWide⟩

end ValidityFprintd.Tls
