import ValidityFprintd.Framing
import ValidityFprintd.Simulation
import ValidityFprintd.TlsSession

/-! The sensor's end of the session layer, as the driver takes it to be: it greets, agrees on the
keys with whoever signs for the certificate it issued, and from then on opens each record, lets
the sensor behind it act on what it holds, and seals the reply. A restart is not part of it. -/

namespace ValidityFprintd.Tls
open Effect Crypto

/-- The long-term secrets of a sensor. -/
structure Authority where
  /-- The secret of the key pair whose public half the pairing record holds. -/
  secret : Bytes
  /-- The signature over a digest verifies under the certificate. -/
  accepts : Bytes → Bytes32 → Bytes → Bool

inductive Phase where
  | clear
  | greeted (clientRandom serverRandom : Bytes32) (heard : Bytes)
  | secured (tls : Tls)

structure Far (T : Type) where
  phase : Phase
  rng : Rng
  sensor : T

/-- What a transfer ends in that the sensor does not answer. -/
def stalled : String := "Pipe error"

section Splitting

def message (t : UInt8) (p : Bytes) : Bytes := (⟨t, p⟩ : HandshakeMessage).encode

def takeRecord (t : UInt8) : Bytes → Option (Bytes × Bytes)
  | t' :: 3 :: 3 :: s0 :: s1 :: rest =>
    let size := (Bytes.fromBe16 s0 s1).toNat
    if t' = t ∧ size ≤ rest.length then some (rest.take size, rest.drop size) else none
  | _ => none

def takeMessage (t : UInt8) : Bytes → Option (Bytes × Bytes)
  | t' :: l0 :: l1 :: l2 :: rest =>
    let size := (Bytes.fromBe16 l0 l1).toNat * 256 + l2.toNat
    if t' = t ∧ size ≤ rest.length then some (rest.take size, rest.drop size) else none
  | _ => none

def handshakeCommand : Bytes → Option Bytes
  | 0x44 :: 0 :: 0 :: 0 :: rest => some rest
  | _ => none

theorem size32 {b : Bytes} (h : b.length = 32) : b.toArray.size = 32 := by
  rw [List.size_toArray, h]

def bytes32? (b : Bytes) : Option Bytes32 :=
  if h : b.length = 32 then some ⟨b.toArray, size32 h⟩ else none

end Splitting

variable (C : Primitives)

def greeting (pkt : Bytes) : Option (Bytes32 × Bytes) := do
  let records ← handshakeCommand pkt
  let (hello, _) ← takeRecord 0x16 records
  let (body, _) ← takeMessage 0x01 hello
  let random ← bytes32? ((body.drop 2).take 32)
  some (random, hello)

/-- ServerHello without a session id, the request for a certificate, and ServerHelloDone. -/
def serverFlight (random : Bytes32) : Bytes :=
  message 0x02 ([3, 3] ++ random.toList ++ [0, 0xc0, 0x05, 0]) ++ message 0x0d [] ++
    message 0x0e []

/-- The keys of the far end: what the driver signs and encrypts with, it validates and decrypts
with. -/
def farKeys (secret clientPoint : Bytes) (clientRandom serverRandom : Bytes32) (rng : Rng) : Tls :=
  let seed := clientRandom.toList ++ serverRandom.toList
  let masterSecret := prf C (C.diffieHellman secret clientPoint) (masterSecretLabel ++ seed) 0x30
  let block := prf C masterSecret (keyExpansion ++ seed) 0x120
  { new ⟨Vector.replicate 32 0, [], []⟩ rng with
    clientRandom := clientRandom
    serverRandom := serverRandom
    masterSecret := masterSecret
    signKey := (block.take 0x40).drop 0x20
    validationKey := (block.take 0x20).drop 0x00
    encryptionKey := (block.take 0x80).drop 0x60
    decryptionKey := (block.take 0x60).drop 0x40
    secureTx := true
    secureRx := true }

/-- The messages of the driver's second flight: its certificate, its point of the key exchange,
the signature, and what the signature covers of the flight. -/
def clientFlight (flight : Bytes) : Option (Bytes × Bytes × Bytes × Bytes) := do
  let (certs, rest) ← takeMessage 0x0b flight
  let (point, rest) ← takeMessage 0x10 rest
  let (sig, _) ← takeMessage 0x0f rest
  some (certs.drop 8, point, sig, flight.take (flight.length - rest.length))

/-- The second packet of a handshake, checked; the keys, and the reply under them. -/
def agree (a : Authority) (clientRandom serverRandom : Bytes32) (heard : Bytes) (rng : Rng)
    (pkt : Bytes) : Option (Bytes × Tls) := do
  let records ← handshakeCommand pkt
  let (flight, records) ← takeRecord 0x16 records
  let (change, records) ← takeRecord 0x14 records
  let (closed, _) ← takeRecord 0x16 records
  let (cert, point, sig, covered) ← clientFlight flight
  let keys := { farKeys C a.secret point clientRandom serverRandom rng with
    handshakeHash := heard ++ flight }
  let plain ← (decrypt C keys closed).toOption
  let finished ← (validate C keys 0x16 plain).toOption
  let expected := message 0x14
    (prf C keys.masterSecret (clientFinished ++ (transcript C keys).toList) 0x0c)
  if change = [1] ∧ a.accepts cert (C.sha256 (heard ++ covered)) sig ∧ finished = expected then
    some ([0x14, 0x03, 0x03, 0x00, 0x01, 0x01] ++ framed 0x16 (sealedBody C keys 0x16
      (message 0x14 (finishedBody C keys))), drawn keys)
  else none

def openRecord (tls : Tls) (pkt : Bytes) : Option (Bytes × Tls) :=
  let r := (parseTlsResponse C pkt tls : Result String Unit Tls Bytes)
  match r.out with
  | .ok out => some (out, r.state)
  | _ => none

variable {T : Type} (a : Authority) (v : Usb.World T)

/-- What an open session makes of a packet. -/
def answerSealed (rng : Rng) (tls : Tls) (sensor : T) (pkt : Bytes) : Except String Bytes × Far T :=
  match openRecord C tls pkt with
  | none => (.error stalled, ⟨.secured tls, rng, sensor⟩)
  | some (out, tls) =>
    match v (.cmd out) sensor with
    | (.error e, sensor) => (.error e, ⟨.secured tls, rng, sensor⟩)
    | (.ok rsp, sensor) =>
      (.ok (framed 0x17 (sealedBody C tls 0x17 rsp)), ⟨.secured (drawn tls), rng, sensor⟩)

/-- A query that the session layer has no part in. -/
def behind (q : Usb.Query) (f : Far T) : Usb.Query.Answer q × Far T :=
  ((v q f.sensor).1, { f with sensor := (v q f.sensor).2 })

/-- A packet before there is a session: a greeting, or a plain command. -/
def answerClear (f : Far T) (pkt : Bytes) : Except String Bytes × Far T :=
  match greeting pkt with
  | none => behind v (.cmd pkt) f
  | some (clientRandom, heard) =>
    let serverRandom := Vector.ofFn fun i => f.rng i
    let flight := serverFlight serverRandom
    (.ok (framed 0x16 flight), ⟨.greeted clientRandom serverRandom (heard ++ flight),
      fun i => f.rng (i + 32), f.sensor⟩)

/-- The sensor with its end of the session layer before it. -/
def far : Usb.World (Far T)
  | .cmd pkt, f =>
    match f.phase with
    | .clear => answerClear v f pkt
    | .greeted clientRandom serverRandom heard =>
      match agree C a clientRandom serverRandom heard f.rng pkt with
      | some (reply, tls) => (.ok reply, { f with phase := .secured tls })
      | none => (.error stalled, f)
    | .secured tls => answerSealed C v f.rng tls f.sensor pkt
  | .pollInterrupt, f => behind v .pollInterrupt f
  | .readData, f => behind v .readData f
  | .now, f => behind v .now f
  | .current, f => behind v .current f
  | .onStage stage err, f => behind v (.onStage stage err) f

/-! An open session, and the same commands on the bare wire. -/

/-- The two ends of a session, each able to read what the other one sends. -/
structure Paired (s peer : Tls) : Prop where
  there : Mirrors s peer
  back : Mirrors peer s
  secureTx : s.secureTx = true
  encryptionKey : s.encryptionKey.length = 32
  peerKey : peer.encryptionKey.length = 32

/-- A session with the far end of a sensor. -/
def Linked (l : Link (Far T)) (t : T) : Prop :=
  l.env.sensor = t ∧ ∃ tls, l.env.phase = .secured tls ∧ Paired l.tls tls

/-- A command and a reply that each fit in one record. -/
def Short : Exchange Usb.Query.Answer → Prop
  | ⟨.cmd out, answer⟩ => out.length < plaintextLimit ∧
      ∀ rsp ∈ answer.toOption, rsp.length < plaintextLimit
  | _ => True

instance : DecidablePred Short
  | ⟨.cmd out, answer⟩ => inferInstanceAs (Decidable (out.length < plaintextLimit ∧
      ∀ rsp ∈ answer.toOption, rsp.length < plaintextLimit))
  | ⟨.pollInterrupt, _⟩ => isTrue trivial
  | ⟨.readData, _⟩ => isTrue trivial
  | ⟨.now, _⟩ => isTrue trivial
  | ⟨.current, _⟩ => isTrue trivial
  | ⟨.onStage _ _, _⟩ => isTrue trivial

section Linked

variable {C a v} {s peer : Tls} {b : Bytes}

theorem records_sealed (cbc : CbcInverts C) (mirrors : Mirrors s peer)
    (key : s.encryptionKey.length = 32) (short : b.length < plaintextLimit) :
    Records C peer (framed 0x17 (sealedBody C s 0x17 b)) [.appData b] peer := by
  have frame : Frame (framed 0x17 (sealedBody C s 0x17 b)) 0x17 (sealedBody C s 0x17 b) [] :=
    framed_frame.mpr ((sealedBody_length cbc.length key).mpr short)
  have record : Record C peer 0x17 (sealedBody C s 0x17 b) [.appData b] peer :=
    .appData mirrors.secureRx (decrypt_sealedBody cbc mirrors key) (validate_sign mirrors)
  exact .cons frame record (.nil peer)

theorem parse_sealed {E : Type} (cbc : CbcInverts C) (mirrors : Mirrors s peer)
    (key : s.encryptionKey.length = 32) (short : b.length < plaintextLimit) :
    Yields (parseTlsResponse C (framed 0x17 (sealedBody C s 0x17 b)) : Act String E Tls Bytes)
      peer b peer := by
  rw [parseTlsResponse_yields]
  exact ⟨_, records_sealed cbc mirrors key short, by simp [appDataOf, Event.data]⟩

theorem openRecord_sealed (cbc : CbcInverts C) (mirrors : Mirrors s peer)
    (key : s.encryptionKey.length = 32) (short : b.length < plaintextLimit) :
    openRecord C peer (framed 0x17 (sealedBody C s 0x17 b)) = some (b, peer) := by
  obtain ⟨out, state⟩ := parse_sealed (E := Unit) cbc mirrors key short
  unfold openRecord
  dsimp only
  rw [out, state]

def ended : Except String Bytes → Outcome String Bytes
  | .ok rsp => .ok rsp
  | .error e => .err e

theorem cmd_answered {S : Type} {w : Usb.World S} {l : Link S} {out : Bytes} {env : S}
    {answer : Except String Bytes} (secure : l.tls.secureTx = true ∧ l.tls.secureRx = true)
    (key : l.tls.encryptionKey.length = 32)
    (answered : w (.cmd (framed 0x17 (sealedBody C l.tls 0x17 out))) l.env = (answer, env)) :
    cmd C w out l = Act.follow ⟨ended answer, ⟨drawn l.tls, env⟩,
        [⟨l.env, .cmd (framed 0x17 (sealedBody C l.tls 0x17 out)), answer⟩]⟩
      fun rsp => onTls (parseTlsResponse C rsp) := by
  have step : cmd C w out l = (if l.tls.secureTx && l.tls.secureRx then app C w out
      else onUsb (Usb.cmd w out)) l := rfl
  have made : (onTls (makeAppData C out) : Act String (Usb.Entry S) (Link S) Bytes) l =
      ⟨.ok (framed 0x17 (sealedBody C l.tls 0x17 out)), ⟨drawn l.tls, l.env⟩, []⟩ := by
    unfold onTls Act.zoom
    rw [makeAppData_run, if_neg (by simp [secure.1]), if_pos key]
  have asked : (onUsb (Usb.cmd w (framed 0x17 (sealedBody C l.tls 0x17 out))) :
      Act String (Usb.Entry S) (Link S) Bytes) ⟨drawn l.tls, l.env⟩ =
        ⟨ended answer, ⟨drawn l.tls, env⟩,
        [⟨l.env, .cmd (framed 0x17 (sealedBody C l.tls 0x17 out)), answer⟩]⟩ := by
    have ask : Usb.cmd w (framed 0x17 (sealedBody C l.tls 0x17 out)) l.env = Act.follow
        (w.ask (.cmd (framed 0x17 (sealedBody C l.tls 0x17 out))) l.env) Act.lift := rfl
    unfold onUsb Act.zoom
    rw [ask, World.ask_run, Act.follow_ok, answered]
    cases answer <;> rfl
  rw [step, secure.1, secure.2, Bool.and_self, if_pos rfl, app, Act.bind_run, made, Act.follow_ok,
    Act.bind_run, asked, List.nil_append]

theorem transport_far (cbc : CbcInverts C) {l : Link (Far T)} {t : T} (linked : Linked l t)
    (out : Bytes) (short : Short ⟨.cmd out, (v (.cmd out) t).1⟩) :
    (transport C (far C a v) (.cmd out) l).1 = (v (.cmd out) t).1 ∧
      Linked (transport C (far C a v) (.cmd out) l).2 (v (.cmd out) t).2 := by
  obtain ⟨rfl, tls, phase, pair⟩ := linked
  obtain ⟨outShort, replyShort⟩ := short
  have secure : l.tls.secureTx = true ∧ l.tls.secureRx = true :=
    ⟨pair.secureTx, pair.back.secureRx⟩
  have opened := openRecord_sealed cbc pair.there pair.encryptionKey outShort
  have paired : Paired (drawn l.tls) tls :=
    ⟨⟨pair.1.1, pair.1.2, pair.1.3⟩, ⟨pair.2.1, pair.2.2, pair.2.3⟩, pair.3, pair.4, pair.5⟩
  rcases reply : v (.cmd out) l.env.sensor with ⟨answer, t⟩
  rw [reply] at replyShort
  cases answer with
  | error e =>
    have answered : far C a v (.cmd (framed 0x17 (sealedBody C l.tls 0x17 out))) l.env =
        (.error e, ⟨.secured tls, l.env.rng, t⟩) := by
      simp only [far, phase, answerSealed, opened, reply]
    have run := cmd_answered (C := C) secure pair.encryptionKey answered
    rw [ended, Act.follow_err] at run
    simp only [transport, run]
    exact ⟨trivial, rfl, tls, rfl, paired⟩
  | ok rsp =>
    have answered : far C a v (.cmd (framed 0x17 (sealedBody C l.tls 0x17 out))) l.env =
        (.ok (framed 0x17 (sealedBody C tls 0x17 rsp)), ⟨.secured (drawn tls), l.env.rng, t⟩) := by
      simp only [far, phase, answerSealed, opened, reply]
    have run := cmd_answered (C := C) secure pair.encryptionKey answered
    have heard : Yields (parseTlsResponse C (framed 0x17 (sealedBody C tls 0x17 rsp)) :
        Act String (Usb.Entry (Far T)) Tls Bytes) (drawn l.tls) rsp (drawn l.tls) :=
      parse_sealed cbc ⟨pair.back.1, pair.back.2, pair.back.3⟩ pair.peerKey (replyShort rsp rfl)
    rw [ended, Act.follow_ok] at run
    have out' : (cmd C (far C a v) out l).out = .ok rsp := by
      rw [run]
      exact heard.1
    have state : (cmd C (far C a v) out l).state =
        ⟨drawn l.tls, ⟨.secured (drawn tls), l.env.rng, t⟩⟩ := by
      rw [run]
      exact congrArg (fun s => (⟨s, _⟩ : Link (Far T))) heard.2
    simp only [transport, out', state]
    exact ⟨trivial, rfl, drawn tls, rfl, ⟨paired.1.1, paired.1.2, paired.1.3⟩,
      ⟨paired.2.1, paired.2.2, paired.2.3⟩, paired.3, paired.4, paired.5⟩

/-- Behind an open session the driver finds the sensor as it is on the bare wire. -/
theorem far_simulates (cbc : CbcInverts C) :
    (transport C (far C a v)).Simulates Short Linked v := by
  intro q l t linked short
  cases q with
  | cmd out => exact transport_far cbc linked out short
  | pollInterrupt =>
    obtain ⟨rfl, rest⟩ := linked
    exact ⟨rfl, rfl, rest⟩
  | readData =>
    obtain ⟨rfl, rest⟩ := linked
    exact ⟨rfl, rfl, rest⟩
  | now =>
    obtain ⟨rfl, rest⟩ := linked
    exact ⟨rfl, rfl, rest⟩
  | current =>
    obtain ⟨rfl, rest⟩ := linked
    exact ⟨rfl, rfl, rest⟩
  | onStage stage err =>
    obtain ⟨rfl, rest⟩ := linked
    exact ⟨rfl, rfl, rest⟩

end Linked

end ValidityFprintd.Tls
