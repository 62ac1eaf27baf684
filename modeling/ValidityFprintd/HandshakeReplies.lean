import ValidityFprintd.TlsKeeps

/-! What the two replies of a handshake hold, read off their bytes: the records a reply is cut
into and the messages in its handshake records. Nothing is checked here, neither a version nor a
MAC nor a verify_data; a reply that the session accepts holds what is read. -/

namespace ValidityFprintd.Tls
open Effect Crypto

/-- The records of a reply, each with its type. -/
def recordsIn : Nat → Bytes → List (UInt8 × Bytes)
  | _, [] => []
  | 0, _ :: _ => []
  | fuel + 1, raw =>
    match Bytes.padTo 5 raw with
    | t :: _ :: _ :: s0 :: s1 :: rest =>
      let sz := (Bytes.fromBe16 s0 s1).toNat
      (t, rest.take sz) :: recordsIn fuel (rest.drop sz)
    | _ => []

/-- The messages of a handshake record, each with its type. -/
def messagesIn : Nat → Bytes → List (UInt8 × Bytes)
  | _, [] => []
  | 0, _ :: _ => []
  | fuel + 1, hs =>
    match Bytes.padTo 4 hs with
    | t :: l0 :: l1 :: l2 :: rest =>
      let l := (Bytes.fromBe16 l0 l1).toNat * 256 + l2.toNat
      (t, rest.take l) :: messagesIn fuel (rest.drop l)
    | _ => []

/-- A handshake message of a reply, and whether a ChangeCipherSpec came before it. -/
structure Said where
  kind : UInt8
  body : Bytes
  covered : Bool
  deriving DecidableEq

variable (C : Primitives)

/-- What an encrypted record holds in front of its MAC; nothing where it does not decrypt. -/
def uncovered (key pkt : Bytes) : Bytes :=
  match aesCbcDecryptRaw C key (pkt.take 0x10) (pkt.drop 0x10) >>= unpadValidity with
  | .ok plain => plain.take (plain.length - 0x20)
  | .error _ => []

/-- The messages of these records, where those behind a ChangeCipherSpec are under the key. -/
def saidIn (key : Bytes) : Bool → List (UInt8 × Bytes) → List Said
  | _, [] => []
  | changed, (t, pkt) :: rest =>
    if t = 0x16 then
      let hs := if changed then uncovered C key pkt else pkt
      (messagesIn hs.length hs).map (fun m => ⟨m.1, m.2, changed⟩) ++ saidIn key changed rest
    else saidIn key (changed || t = 0x14) rest

def records (reply : Bytes) : List (UInt8 × Bytes) := recordsIn reply.length reply

def changes (records : List (UInt8 × Bytes)) : Bool := records.any fun r => r.1 = 0x14

/-- The random of the last ServerHello, or the one from before. -/
def lastRandom (random : Bytes) (said : List Said) : Bytes :=
  said.foldl (fun random m => if m.kind = 0x02 then (m.body.drop 2).take 0x20 else random) random

/-- The decryption key of a session that draws from `s.rng` and hears this server random. -/
def nextKey (s : Tls) (serverRandom : Bytes) : Bytes :=
  let clientRandom := List.ofFn fun i : Fin 32 => s.rng i
  let secret := (C.ephemeralSecret fun i => s.rng (i + 32)).1
  let seed := clientRandom ++ serverRandom
  let masterSecret := prf C (C.diffieHellman secret s.material.ecdhPublic)
    (masterSecretLabel ++ seed) 0x30
  ((prf C masterSecret (keyExpansion ++ seed) 0x120).take 0x80).drop 0x60

/-- What the first reply says to a session, its encrypted records under the old key. -/
def firstSaid (s : Tls) (reply1 : Bytes) : List Said :=
  saidIn C s.decryptionKey false (records reply1)

/-- What the second says, under the key that follows from the first. -/
def secondSaid (s : Tls) (reply1 reply2 : Bytes) : List Said :=
  saidIn C (nextKey C s (lastRandom s.serverRandom.toList (firstSaid C s reply1)))
    (changes (records reply1)) (records reply2)

/-- The replies leave nothing of the handshake out: there is a ServerHello in the first, and in
the second a Finished behind a ChangeCipherSpec. -/
def Complete (s : Tls) (reply1 reply2 : Bytes) : Prop :=
  (∃ m ∈ firstSaid C s reply1, m.kind = 0x02) ∧
    ∃ m ∈ secondSaid C s reply1 reply2, m.kind = 0x14 ∧ m.covered = true

instance (s : Tls) (reply1 reply2 : Bytes) : Decidable (Complete C s reply1 reply2) :=
  inferInstanceAs (Decidable (_ ∧ _))

variable {C}

def Event.said : Event → Option Said
  | .message cover _ t p => some ⟨t, p, cover.isSome⟩
  | _ => none

theorem Messages.said {cover : Option Bytes} {s s' : Tls} {hs : Bytes} {evs : List Event}
    (h : Messages C cover s hs evs s') {fuel : Nat} (enough : hs.length ≤ fuel) :
    evs.filterMap Event.said =
      (messagesIn fuel hs).map fun m => ⟨m.1, m.2, cover.isSome⟩ := by
  induction h generalizing fuel with
  | nil s =>
    cases fuel <;> rfl
  | @cons s s1 s2 hs rest p t l0 l1 l2 evs hne shape len message _ ih =>
    have shorter : (p ++ rest).length < hs.length :=
      padTo_rest_length [t, l0, l1, l2] hne shape rfl (by omega)
    rw [List.length_append] at shorter
    cases fuel with
    | zero => exact absurd (List.length_eq_zero_iff.mp (Nat.le_zero.mp enough)) hne
    | succ fuel =>
      have step : messagesIn (fuel + 1) hs = (t, p) :: messagesIn fuel rest := by
        match hs, hne with
        | b :: bs, _ =>
          simp only [messagesIn, shape, ← len, List.take_left, List.drop_left]
      rw [step, List.map_cons, ← ih (by omega)]
      rfl

/-- What a message leaves of a session for the keys to be derived from. -/
structure SameSource (s s' : Tls) : Prop where
  clientRandom : s'.clientRandom = s.clientRandom
  rng : s'.rng = s.rng
  material : s'.material = s.material
  decryptionKey : s'.decryptionKey = s.decryptionKey

theorem SameSource.trans {s t u : Tls} (h : SameSource s t) (h' : SameSource t u) :
    SameSource s u :=
  ⟨h'.1.trans h.1, h'.2.trans h.2, h'.3.trans h.3, h'.4.trans h.4⟩

theorem Message.source {s s' : Tls} {t : UInt8} {p : Bytes} (h : Message C s t p s') :
    SameSource s s' ∧ s'.secureRx = s.secureRx := by
  cases h <;> exact ⟨⟨rfl, rfl, rfl, rfl⟩, rfl⟩

theorem Messages.source {cover : Option Bytes} {s s' : Tls} {hs : Bytes} {evs : List Event}
    (h : Messages C cover s hs evs s') : SameSource s s' ∧ s'.secureRx = s.secureRx := by
  induction h with
  | nil s => exact ⟨⟨rfl, rfl, rfl, rfl⟩, rfl⟩
  | @cons s s1 _ _ _ p t l0 l1 l2 _ _ _ _ message _ ih =>
    obtain ⟨first, rx⟩ := message.source
    have folded : SameSource s (fold s1 ([t, l0, l1, l2] ++ p)) :=
      ⟨first.1, first.2, first.3, first.4⟩
    exact ⟨folded.trans ih.1, ih.2.trans rx⟩

theorem IsServerHello.random {p : Bytes} {random : Bytes32} (h : IsServerHello p random) :
    (p.drop 2).take 0x20 = random.toList := by
  obtain ⟨sid, rest, _, rfl⟩ := h
  simp

theorem Message.random {cover : Option Bytes} {s s' : Tls} {t : UInt8} {p : Bytes}
    (h : Message C s t p s') :
    s'.serverRandom.toList = lastRandom s.serverRandom.toList [⟨t, p, cover.isSome⟩] := by
  cases h with
  | serverHello hello => exact hello.random.symm
  | certificateRequest | serverHelloDone | finished => rfl

theorem lastRandom_append (random : Bytes) (said said' : List Said) :
    lastRandom random (said ++ said') = lastRandom (lastRandom random said) said' :=
  List.foldl_append

theorem Messages.random {cover : Option Bytes} {s s' : Tls} {hs : Bytes} {evs : List Event}
    (h : Messages C cover s hs evs s') :
    s'.serverRandom.toList = lastRandom s.serverRandom.toList (evs.filterMap Event.said) := by
  induction h with
  | nil s => rfl
  | @cons s s1 _ _ _ p t _ _ _ evs _ _ _ message _ ih =>
    have first : s1.serverRandom.toList = lastRandom s.serverRandom.toList [⟨t, p, cover.isSome⟩] :=
      message.random
    rw [ih, show (fold s1 _).serverRandom = s1.serverRandom from rfl, first, ← lastRandom_append]
    rfl

theorem Opened.uncovered {s : Tls} {pkt hs : Bytes} {cover : Option Bytes}
    (h : Opened C s pkt cover hs) : cover.isSome = s.secureRx ∧
      hs = if s.secureRx then Tls.uncovered C s.decryptionKey pkt else pkt := by
  cases cover with
  | none =>
    obtain ⟨rx, rfl⟩ := h
    simp [rx]
  | some c =>
    obtain ⟨rx, rfl, plain, decrypted, valid⟩ := h
    refine ⟨rx.symm, ?_⟩
    have plainOf : Tls.uncovered C s.decryptionKey c = plain.take (plain.length - 0x20) := by
      unfold decrypt at decrypted
      split at decrypted
      · cases decrypted
      · rw [Tls.uncovered, show _ >>= unpadValidity = Except.ok plain from decrypted]
    unfold validate at valid
    split at valid
    · cases valid
    · dsimp only at valid
      split at valid
      · cases valid
      · rw [rx, if_pos rfl, plainOf]
        exact (Except.ok.inj valid).symm

theorem Record.said {s s' : Tls} {t : UInt8} {pkt : Bytes} {evs : List Event}
    (h : Record C s t pkt evs s') (rest : List (UInt8 × Bytes)) :
    saidIn C s.decryptionKey s.secureRx ((t, pkt) :: rest) =
        evs.filterMap Event.said ++ saidIn C s.decryptionKey s'.secureRx rest ∧
      s'.secureRx = (s.secureRx || t = 0x14) ∧ SameSource s s' ∧
      s'.serverRandom.toList = lastRandom s.serverRandom.toList (evs.filterMap Event.said) := by
  cases h with
  | changeCipherSpec =>
    refine ⟨?_, by simp, ⟨rfl, rfl, rfl, rfl⟩, rfl⟩
    simp [saidIn, Event.said]
  | appData rx =>
    refine ⟨?_, by simp, ⟨rfl, rfl, rfl, rfl⟩, rfl⟩
    simp [saidIn, Event.said, rx]
  | handshake opened messages =>
    obtain ⟨covered, plain⟩ := opened.uncovered
    obtain ⟨source, rx⟩ := messages.source
    refine ⟨?_, by simp [rx], source, messages.random⟩
    rw [saidIn, if_pos rfl, ← plain, ← covered, messages.said (Nat.le_refl _), covered, rx]

/-- What a session hears in a reply is what can be read in it. -/
theorem Records.said {s s' : Tls} {raw : Bytes} {evs : List Event} (h : Records C s raw evs s')
    {fuel : Nat} (enough : raw.length ≤ fuel) :
    evs.filterMap Event.said = saidIn C s.decryptionKey s.secureRx (recordsIn fuel raw) ∧
      s'.secureRx = (s.secureRx || changes (recordsIn fuel raw)) ∧ SameSource s s' ∧
      s'.serverRandom.toList = lastRandom s.serverRandom.toList (evs.filterMap Event.said) := by
  induction h generalizing fuel with
  | nil s =>
    have empty : recordsIn fuel [] = [] := by cases fuel <;> rfl
    rw [empty]
    exact ⟨rfl, by simp [changes], ⟨rfl, rfl, rfl, rfl⟩, rfl⟩
  | @cons s s1 s2 raw pkt rest t evs evs' frame record _ ih =>
    obtain ⟨hne, s0, s1', shape, len⟩ := frame
    have shorter : (pkt ++ rest).length < raw.length :=
      padTo_rest_length [t, 3, 3, s0, s1'] hne shape rfl (by omega)
    rw [List.length_append] at shorter
    cases fuel with
    | zero => exact absurd (List.length_eq_zero_iff.mp (Nat.le_zero.mp enough)) hne
    | succ fuel =>
      have step : recordsIn (fuel + 1) raw = (t, pkt) :: recordsIn fuel rest := by
        match raw, hne with
        | b :: bs, _ =>
          simp only [recordsIn, shape, ← len, List.take_left, List.drop_left]
      obtain ⟨first, rx, source, random⟩ := record.said (recordsIn fuel rest)
      obtain ⟨others, rx', source', random'⟩ := @ih fuel (by omega)
      rw [source.decryptionKey] at others
      refine ⟨?_, ?_, source.trans source', ?_⟩
      · rw [step, first, List.filterMap_append, others]
      · rw [step, rx', rx, Bool.or_assoc]
        rfl
      · rw [random', random, List.filterMap_append, lastRandom_append]

/-! The replies a handshake hears, as its log tells. -/

section Heard

variable {S : Type}

def replies (log : List (Usb.Entry S)) : List Bytes :=
  log.filterMap fun e => (Usb.exchanged e).bind fun exchange => exchange.2.toOption

theorem onTls_ok {α : Type} {x : Act String (Usb.Entry S) Tls α} (unsent : Respects Unsent x)
    {l l' : Link S} {a : α} {log : List (Usb.Entry S)} (h : onTls x l = ⟨.ok a, l', log⟩) :
    Yields x l.tls a l'.tls ∧ l'.env = l.env ∧ log = [] := by
  obtain ⟨_, run, rfl⟩ := Yields.zoom_iff.mp (Yields.iff_run.mpr ⟨log, h⟩)
  exact ⟨run, rfl, (congrArg Result.log h).symm.trans (unsent l.tls)⟩

theorem sent_ok {w : Usb.World S} {pkt rsp : Bytes} {c : String} {l l' : Link S}
    {log : List (Usb.Entry S)}
    (h : Act.mapErr (Usb.context c) (onUsb (Usb.cmd w pkt)) l = ⟨.ok rsp, l', log⟩) :
    w (.cmd pkt) l.env = (.ok rsp, l'.env) ∧ l'.tls = l.tls ∧ replies log = [rsp] := by
  replace h := Act.mapErr_eq_ok.mp h
  obtain ⟨_, run, rfl⟩ := Yields.zoom_iff.mp (Yields.iff_run.mpr ⟨log, h⟩)
  refine ⟨Usb.cmd_yields.mp run, rfl, ?_⟩
  have logged : (Usb.cmd w pkt l.env).log = log := congrArg Result.log h
  obtain ⟨e, t, ⟨reply, sent, ended⟩ | ⟨err, _, ended⟩⟩ := Usb.cmd_run w pkt l.env
  · obtain rfl : reply = rsp := Outcome.ok.inj ((congrArg Result.out ended).symm.trans run.1)
    rw [← logged, ended]
    simp only [replies, List.filterMap_cons, sent]
    rfl
  · have failed := run.1
    rw [ended] at failed
    cases failed

end Heard

end ValidityFprintd.Tls
