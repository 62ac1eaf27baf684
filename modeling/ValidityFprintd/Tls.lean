import ValidityFprintd.Crypto
import ValidityFprintd.Usb

/-! The sensor's TLS 1.2 session layer, with its quirks: duplicated certificate prefixes,
an extension length two short, `n-1` padding and a client Finished outside the transcript.
Every function may leave the session changed when it fails, as `&mut self` does. -/

namespace ValidityFprintd
open Effect Crypto

structure PairingMaterial where
  privateKeyD : Bytes32
  tlsCert : Bytes
  ecdhPublic : Bytes

/-- The session, and the random bytes the process will draw. The running hash of the
transcript is kept as the bytes hashed so far. -/
structure Tls where
  material : PairingMaterial
  handshakeHash : Bytes
  clientRandom : Bytes32
  serverRandom : Bytes32
  masterSecret : Bytes
  signKey : Bytes
  validationKey : Bytes
  encryptionKey : Bytes
  decryptionKey : Bytes
  sessionPublic : Bytes
  secureTx : Bool
  secureRx : Bool
  rng : Rng

namespace Tls

def with1byteSize (b : Bytes) : Bytes := UInt8.ofNat b.length :: b

def with2bytesSize (b : Bytes) : Bytes := Bytes.be16 (Bytes.len16 b) ++ b

def with3bytesSize (b : Bytes) : Bytes :=
  UInt8.ofNat (b.length / 65536) :: (Bytes.be16 (Bytes.len16 b) ++ b)

variable {E : Type} (C : Primitives)

def draw32 : Act String E Tls Bytes32 := fun s =>
  ⟨.ok (Vector.ofFn fun i => s.rng i), { s with rng := fun i => s.rng (i + 32) }, []⟩

def draw16 : Act String E Tls Bytes := fun s =>
  ⟨.ok (List.ofFn fun i : Fin 16 => s.rng i), { s with rng := fun i => s.rng (i + 16) }, []⟩

def updateNeg (b : Bytes) : Act String E Tls Unit :=
  Act.modify fun s => { s with handshakeHash := s.handshakeHash ++ b }

def transcript (s : Tls) : Bytes32 := C.sha256 s.handshakeHash

def withNegHdr (t : UInt8) (b : Bytes) : Act String E Tls Bytes := do
  let o := t :: with3bytesSize b
  updateNeg o
  Act.ret o

def suiteEcdhEcdsaAes256CbcSha : UInt16 := 0xc005

def makeExt (id : UInt16) (b : Bytes) : Bytes := Bytes.be16 id ++ with2bytesSize b

def makeClientHello : Act String E Tls Bytes := do
  let random ← draw32
  Act.modify fun s => { s with clientRandom := random }
  let suites := Bytes.be16 suiteEcdhEcdsaAes256CbcSha ++ Bytes.be16 0x003d ++ Bytes.be16 0x008d
  let exts := makeExt 0x0004 (Bytes.be16 0x0017) ++ makeExt 0x000b (with1byteSize [0x00])
  withNegHdr 0x01
    ([0x03, 0x03] ++ random.toList ++ with1byteSize (List.replicate 7 0) ++
      with2bytesSize suites ++ with1byteSize [] ++
      -- two bytes short of the real length, as the firmware expects
      Bytes.be16 (UInt16.ofNat (exts.length - 2)) ++ exts)

def makeCerts : Act String E Tls Bytes := do
  let s ← Act.get
  let wrap (cert : Bytes) : Bytes := 0 :: (Bytes.be16 (Bytes.len16 s.material.tlsCert) ++ cert)
  withNegHdr 0x0b (wrap (wrap ([0xac, 0x16] ++ s.material.tlsCert)))

def makeClientKex : Act String E Tls Bytes := do
  let s ← Act.get
  withNegHdr 0x10 s.sessionPublic

def makeCertVerify : Act String E Tls Bytes := do
  let s ← Act.get
  let digest := transcript C s
  let key ← Act.mapErr (Usb.context "loading host ECDSA private key")
    (Act.lift (C.signingKey s.material.privateKeyD))
  let sig ← Act.mapErr (Usb.context "signing handshake transcript")
    (Act.lift (C.signPrehash key digest))
  withNegHdr 0x0f sig

def clientFinished : Bytes :=
  [0x63, 0x6c, 0x69, 0x65, 0x6e, 0x74, 0x20, 0x66, 0x69, 0x6e, 0x69, 0x73, 0x68, 0x65, 0x64]

def serverFinished : Bytes :=
  [0x73, 0x65, 0x72, 0x76, 0x65, 0x72, 0x20, 0x66, 0x69, 0x6e, 0x69, 0x73, 0x68, 0x65, 0x64]

def masterSecretLabel : Bytes :=
  [0x6d, 0x61, 0x73, 0x74, 0x65, 0x72, 0x20, 0x73, 0x65, 0x63, 0x72, 0x65, 0x74]

def keyExpansion : Bytes :=
  [0x6b, 0x65, 0x79, 0x20, 0x65, 0x78, 0x70, 0x61, 0x6e, 0x73, 0x69, 0x6f, 0x6e]

def makeFinish : Act String E Tls Bytes := do
  Act.modify fun s => { s with secureTx := true }
  let s ← Act.get
  let verifyData := prf C s.masterSecret (clientFinished ++ (transcript C s).toList) 0x0c
  -- not folded into the transcript
  Act.ret (0x14 :: with3bytesSize verifyData)

def makeKeys : Act String E Tls Unit := do
  Act.modify fun s =>
    let (secret, rng) := C.ephemeralSecret s.rng
    let preMasterSecret := C.diffieHellman secret s.material.ecdhPublic
    let seed := s.clientRandom.toList ++ s.serverRandom.toList
    { s with
      rng := rng
      sessionPublic := C.publicKey secret
      masterSecret := prf C preMasterSecret (masterSecretLabel ++ seed) 0x30 }
  let s ← Act.get
  let seed := s.clientRandom.toList ++ s.serverRandom.toList
  let keyBlock := prf C s.masterSecret (keyExpansion ++ seed) 0x120
  let signKey ← Bytes.slice keyBlock 0x00 0x20
  let validationKey ← Bytes.slice keyBlock 0x20 0x40
  let encryptionKey ← Bytes.slice keyBlock 0x40 0x60
  let decryptionKey ← Bytes.slice keyBlock 0x60 0x80
  Act.modify fun s =>
    { s with
      signKey := signKey
      validationKey := validationKey
      encryptionKey := encryptionKey
      decryptionKey := decryptionKey }

def macHeader (t : UInt8) (b : Bytes) : Bytes := [t, 3, 3] ++ Bytes.be16 (Bytes.len16 b) ++ b

def sign (s : Tls) (t : UInt8) (b : Bytes) : Bytes :=
  b ++ (C.hmac s.signKey (macHeader t b)).toList

def validate (s : Tls) (t : UInt8) (b : Bytes) : Except String Bytes :=
  if b.length < 0x20 then .error s!"record too short to carry a MAC ({b.length} bytes)"
  else
    let body := b.take (b.length - 0x20)
    let mac := b.drop (b.length - 0x20)
    if (C.hmac s.validationKey (macHeader t body)).toList ≠ mac then
      .error "record MAC validation failed"
    else .ok body

def encrypt (b : Bytes) : Act String E Tls Bytes := do
  let iv ← draw16
  let s ← Act.get
  let ct ← Act.lift (aesCbcEncryptRaw C s.encryptionKey iv (padValidity b))
  Act.ret (iv ++ ct)

def decrypt (s : Tls) (c : Bytes) : Except String Bytes := do
  if c.length < 0x10 then .error s!"encrypted record too short ({c.length} bytes)"
  else
    let plain ← aesCbcDecryptRaw C s.decryptionKey (c.take 0x10) (c.drop 0x10)
    unpadValidity plain

def makeHandshake (b : Bytes) : Act String E Tls Bytes := do
  let s ← Act.get
  let body ← if s.secureTx then encrypt C (sign C s 0x16 b) else Act.ret b
  Act.ret ([0x16, 0x03, 0x03] ++ with2bytesSize body)

def makeAppData (b : Bytes) : Act String E Tls Bytes := do
  let s ← Act.get
  Act.bailIf (s.secureTx = false)
    "refusing to send application data before the channel is secure"
  let body ← encrypt C (sign C s 0x17 b)
  Act.ret ([0x17, 0x03, 0x03] ++ with2bytesSize body)

def copy32 (b : Bytes) : Act String E Tls Bytes32 :=
  if h : b.length = 32 then Act.ret ⟨b.toArray, by simp [h]⟩ else Act.crash

def handleServerHello (p : Bytes) : Act String E Tls Unit := do
  Act.bailIf (p.length < 2 + 0x20 + 1) s!"ServerHello too short ({p.length} bytes)"
  let major ← Bytes.index p 0
  let minor ← Bytes.index p 1
  Act.bailIf (major ≠ 3 ∨ minor ≠ 3) s!"unexpected TLS version in ServerHello {major}.{minor}"
  let bytes ← Bytes.slice p 2 (2 + 0x20)
  let random ← copy32 bytes
  Act.modify fun s => { s with serverRandom := random }
  let sidLen ← Bytes.index p 0x22
  let afterSid := 0x23 + sidLen.toNat
  Act.bailIf (p.length < afterSid + 3) "ServerHello truncated after session ID"
  let hi ← Bytes.index p afterSid
  let lo ← Bytes.index p (afterSid + 1)
  let suite := Bytes.fromBe16 hi lo
  Act.bailIf (suite ≠ suiteEcdhEcdsaAes256CbcSha)
    s!"sensor selected unsupported cipher suite {Bytes.hexNumber 4 suite.toNat}"
  let compression ← Bytes.index p (afterSid + 2)
  Act.bailIf (compression ≠ 0) "sensor selected compression, which is not supported"

def handleServerFinish (b : Bytes) : Act String E Tls Unit := do
  let s ← Act.get
  let verifyData := prf C s.masterSecret (serverFinished ++ (transcript C s).toList) 0x0c
  Act.bailIf (verifyData ≠ b)
    "server Finished verify_data mismatch; the session is not trustworthy"

def handleMessage (t : UInt8) (p : Bytes) : Act String E Tls Unit :=
  if t = 0x02 then handleServerHello p
  else if t = 0x0d then Act.ret ()
  else if t = 0x0e then Act.ret ()
  else if t = 0x14 then handleServerFinish C p
  else Act.fail s!"unknown handshake message type {Bytes.hexNumber 2 t.toNat}"

/-- The messages of one handshake record. Each takes at least four bytes off, so the
record's length is fuel enough. -/
def handleMessages : Nat → Bytes → Act String E Tls Unit
  | _, [] => Act.ret ()
  | 0, _ :: _ => Act.starve
  | fuel + 1, hs =>
    match Bytes.padTo 4 hs with
    | t :: l0 :: l1 :: l2 :: rest => do
      let l := (Bytes.fromBe16 l0 l1).toNat * 256 + l2.toNat
      Act.bailIf (rest.length < l)
        s!"handshake message claims {l} bytes but only {rest.length} remain"
      let p ← Bytes.slice rest 0 l
      let next ← Bytes.sliceFrom rest l
      handleMessage C t p
      updateNeg ([t, l0, l1, l2] ++ p)
      handleMessages fuel next
    | _ => Act.crash

def handleHandshake (handshake : Bytes) : Act String E Tls Unit := do
  let s ← Act.get
  let hs ←
    if s.secureRx then do
      let plain ← Act.lift (decrypt C s handshake)
      Act.lift (validate C s 0x16 plain)
    else Act.ret handshake
  handleMessages C hs.length hs

/-- One record, and the application data it carries. -/
def handleRecord (t : UInt8) (pkt : Bytes) : Act String E Tls Bytes :=
  if t = 0x16 then do
    handleHandshake C pkt
    Act.ret []
  else if t = 0x14 then do
    Act.bailIf (pkt ≠ [0x01]) s!"unexpected ChangeCipherSpec payload {Bytes.hex pkt}"
    Act.modify fun s => { s with secureRx := true }
    Act.ret []
  else if t = 0x17 then do
    let s ← Act.get
    Act.bailIf (s.secureRx = false) "application data arrived before the channel was secure"
    let plain ← Act.lift (decrypt C s pkt)
    Act.lift (validate C s 0x17 plain)
  else Act.fail s!"unhandled record type {Bytes.hexNumber 2 t.toNat}"

/-- The records of a reply. Each takes at least five bytes off the padded reply. -/
def handleRecords : Nat → Bytes → Bytes → Act String E Tls Bytes
  | _, [], appData => Act.ret appData
  | 0, _ :: _, _ => Act.starve
  | fuel + 1, raw, appData =>
    -- the firmware may end a transfer mid-header
    match Bytes.padTo 5 raw with
    | t :: mj :: mn :: s0 :: s1 :: rest => do
      let sz := (Bytes.fromBe16 s0 s1).toNat
      Act.bailIf (mj ≠ 3 ∨ mn ≠ 3) s!"unexpected TLS version {mj}.{mn}"
      Act.bailIf (rest.length < sz)
        s!"record claims {sz} bytes but only {rest.length} remain"
      let pkt ← Bytes.slice rest 0 sz
      let next ← Bytes.sliceFrom rest sz
      let data ← handleRecord C t pkt
      handleRecords fuel next (appData ++ data)
    | _ => Act.crash

def parseTlsResponse (rsp : Bytes) : Act String E Tls Bytes :=
  handleRecords C rsp.length rsp []

/-- A session and the world at the other end of its cable. -/
structure Link (S : Type) where
  tls : Tls
  env : S

variable {S : Type}

def onTls {α : Type} (x : Act String E Tls α) : Act String E (Link S) α :=
  Act.zoom Link.tls (fun tls l => { l with tls := tls }) x

def onUsb {α : Type} (x : Act String E S α) : Act String E (Link S) α :=
  Act.zoom Link.env (fun env l => { l with env := env }) x

/-- `open` up to the first packet. -/
def helloPacket : Act String E Tls Bytes := do
  Act.modify fun s => { s with secureTx := false, secureRx := false, handshakeHash := [] }
  let hello ← makeClientHello
  let rec0 ← makeHandshake C hello
  Act.ret ([0x44, 0x00, 0x00, 0x00] ++ rec0)

/-- `open` from the derived keys to the second packet. This flight is built while
`secureTx` is still false; `makeFinish` turns it on for the record that follows. -/
def finishPacket : Act String E Tls Bytes := do
  let certs ← makeCerts
  let kex ← makeClientKex
  let verify ← makeCertVerify C
  let rec1 ← makeHandshake C (certs ++ kex ++ verify)
  let finish ← makeFinish C
  let rec2 ← makeHandshake C finish
  Act.ret ([0x44, 0x00, 0x00, 0x00] ++ rec1 ++ [0x14, 0x03, 0x03, 0x00, 0x01, 0x01] ++ rec2)

def openSession (w : Usb.World S) : Act String (Usb.Entry S) (Link S) Unit := do
  let pkt ← onTls (helloPacket C)
  let rsp ← Act.mapErr (Usb.context "sending ClientHello") (onUsb (Usb.cmd w pkt))
  let _ ← Act.mapErr (Usb.context "parsing ServerHello flight") (onTls (parseTlsResponse C rsp))
  onTls (makeKeys C)
  let pkt ← onTls (finishPacket C)
  let rsp ← Act.mapErr (Usb.context "sending client Finished") (onUsb (Usb.cmd w pkt))
  let _ ← Act.mapErr (Usb.context "parsing server Finished") (onTls (parseTlsResponse C rsp))
  let s ← onTls Act.get
  Act.bailIf (¬ (s.secureTx && s.secureRx))
    "handshake completed without establishing a secure channel"

def app (w : Usb.World S) (b : Bytes) : Act String (Usb.Entry S) (Link S) Bytes := do
  let pkt ← onTls (makeAppData C b)
  let rsp ← onUsb (Usb.cmd w pkt)
  onTls (parseTlsResponse C rsp)

def cmd (w : Usb.World S) (out : Bytes) : Act String (Usb.Entry S) (Link S) Bytes := do
  let s ← onTls Act.get
  if s.secureTx && s.secureRx then app C w out else onUsb (Usb.cmd w out)

def new (material : PairingMaterial) (rng : Rng) : Tls where
  material := material
  handshakeHash := []
  clientRandom := Vector.replicate 32 0
  serverRandom := Vector.replicate 32 0
  masterSecret := []
  signKey := []
  validationKey := []
  encryptionKey := []
  decryptionKey := []
  sessionPublic := []
  secureTx := false
  secureRx := false
  rng := rng

/-- `impl Transport for Tls`: the world behind a session. A session's command always returns,
with a reply or an error. -/
def transport (w : Usb.World S) : Usb.World (Link S)
  | .cmd out, l =>
    match (cmd C w out l).out with
    | .ok rsp => (.ok rsp, (cmd C w out l).state)
    | .err e => (.error e, (cmd C w out l).state)
    | .panic => (.error "", (cmd C w out l).state)
    | .stuck => (.error "", (cmd C w out l).state)
  | .pollInterrupt, l => ((w .pollInterrupt l.env).1, ⟨l.tls, (w .pollInterrupt l.env).2⟩)
  | .readData, l => ((w .readData l.env).1, ⟨l.tls, (w .readData l.env).2⟩)
  | .now, l => ((w .now l.env).1, ⟨l.tls, (w .now l.env).2⟩)
  | .current, l => ((w .current l.env).1, ⟨l.tls, (w .current l.env).2⟩)
  | .onStage stage err, l =>
    ((w (.onStage stage err) l.env).1, ⟨l.tls, (w (.onStage stage err) l.env).2⟩)

end Tls

end ValidityFprintd
