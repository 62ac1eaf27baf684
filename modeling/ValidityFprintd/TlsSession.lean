import Mathlib.Data.List.Forall2
import ValidityFprintd.Machine
import ValidityFprintd.TlsRoundTrip

/-! The commands of an open session. What a reply holds can change the server's random, the
transcript and the random bytes left, and nothing else of the session. -/

namespace ValidityFprintd.Tls
open Effect Crypto

variable {C : Primitives} {S : Type}

/-- Both directions encrypted, under the four keys of `keys`. -/
structure SecureUnder (keys s : Tls) : Prop where
  secureTx : s.secureTx = true
  secureRx : s.secureRx = true
  signKey : s.signKey = keys.signKey
  validationKey : s.validationKey = keys.validationKey
  encryptionKey : s.encryptionKey = keys.encryptionKey
  decryptionKey : s.decryptionKey = keys.decryptionKey

section Channel

variable {E : Type}

def KeepsChannel (s : Tls) (_ : List E) (s' : Tls) : Prop :=
  ∀ keys, SecureUnder keys s → SecureUnder keys s'

instance keepsChannel_composes : Composes (KeepsChannel (E := E)) where
  nil := fun _ _ h => h
  append := fun h h' keys under => h' keys (h keys under)

theorem keepsChannel_listening : Listening (KeepsChannel (E := E)) where
  hash := fun _ _ _ h => ⟨h.1, h.2, h.3, h.4, h.5, h.6⟩
  rng := fun _ _ _ h => ⟨h.1, h.2, h.3, h.4, h.5, h.6⟩
  random := fun _ _ _ h => ⟨h.1, h.2, h.3, h.4, h.5, h.6⟩
  secureRx := fun _ _ h => ⟨h.1, rfl, h.3, h.4, h.5, h.6⟩

theorem encryptionKey_listening :
    Listening fun (s : Tls) (_ : List E) s' => s'.encryptionKey = s.encryptionKey where
  hash := fun _ _ => rfl
  rng := fun _ _ => rfl
  random := fun _ _ => rfl
  secureRx := fun _ => rfl

theorem makeKeys_encryptionKey {s s' : Tls}
    (h : Yields (makeKeys C : Act String E Tls Unit) s () s') : s'.encryptionKey.length = 32 := by
  have long : ∀ secret seed, (prf C secret seed 0x120).length = 0x120 :=
    fun secret seed => prf_length C secret seed 0x120
  have run : s' = (makeKeys C s : Result String E Tls Unit).state := h.2.symm
  simp only [makeKeys, Act.modify_bind, Act.get_bind, Bytes.slice_bind, long] at run
  rw [run]
  simp [Act.modify, long]

end Channel

/-- A session that `open` handed out encrypts both ways, under a key of the right length. -/
theorem openSession_secure {w : Usb.World S} {l l' : Link S}
    (h : Yields (openSession C w) l () l') :
    SecureUnder l'.tls l'.tls ∧ l'.tls.encryptionKey.length = 32 := by
  obtain ⟨F, ⟨tx, rx⟩, rfl⟩ := (Flights.run_iff w l l').mp h
  have keyed := makeKeys_encryptionKey F.derives
  obtain ⟨_, finishing⟩ := (finishPacket_respects (R := fun (s : Tls) _ s' =>
    s'.encryptionKey = s.encryptionKey) encryptionKey_listening.toBookkeeping
      fun _ => rfl).yields F.sendsFinish
  have accepted : Yields (parseTlsResponse C F.reply2 : Act String (Usb.Entry S) Tls Bytes)
      F.finishing (appDataOf F.events2) F.final :=
    parseTlsResponse_yields.mpr ⟨F.events2, F.accepts2, rfl⟩
  obtain ⟨_, final⟩ := (parseTlsResponse_respects encryptionKey_listening _).yields accepted
  refine ⟨⟨tx, rx, rfl, rfl, rfl, rfl⟩, ?_⟩
  rw [final, finishing, keyed]

section Reply

/-- The records a reply consists of, whatever they hold. -/
inductive Framed : Bytes → List (UInt8 × Bytes) → Prop
  | nil : Framed [] []
  | cons {raw pkt rest : Bytes} {t : UInt8} {frames : List (UInt8 × Bytes)} :
      Frame raw t pkt rest → Framed rest frames → Framed raw ((t, pkt) :: frames)

def appRecords (frames : List (UInt8 × Bytes)) : List Bytes :=
  (frames.filter fun r => r.1 = 0x17).map Prod.snd

/-- The record decrypts to a body and the MAC over it. -/
def Authentic (C : Primitives) (keys : Tls) (pkt b : Bytes) : Prop :=
  decrypt C keys pkt = .ok (b ++ (C.hmac keys.validationKey
    ([0x17, 3, 3] ++ Bytes.be16 (Bytes.len16 b) ++ b)).toList)

/-- What a call made of a reply: the bodies of its application data, in order. -/
def Assembled (C : Primitives) (keys : Tls) (rsp data : Bytes) : Prop :=
  ∃ frames bodies, Framed rsp frames ∧
    List.Forall₂ (Authentic C keys) (appRecords frames) bodies ∧ data = bodies.flatten

theorem SecureUnder.authentic {keys s : Tls} (under : SecureUnder keys s) {pkt plain b : Bytes}
    (decrypts : decrypt C s pkt = .ok plain) (validates : validate C s 0x17 plain = .ok b) :
    Authentic C keys pkt b := by
  have plain_eq := validate_ok.mp validates
  rw [plain_eq, under.validationKey] at decrypts
  rw [Authentic, ← macHeader, ← decrypts]
  simp only [decrypt, under.decryptionKey]

theorem Record.keepsChannel {s s' : Tls} {t : UInt8} {pkt : Bytes} {evs : List Event}
    (h : Record C s t pkt evs s') {keys : Tls} (under : SecureUnder keys s) :
    SecureUnder keys s' := by
  have run : (handleRecord C t pkt : Act String Unit Tls Bytes) s =
      ⟨.ok (appDataOf evs), s', []⟩ := handleRecord_ok.mpr ⟨rfl, evs, h, rfl⟩
  have kept := handleRecord_respects (keepsChannel_listening (E := Unit)) t pkt s (C := C)
  rw [run] at kept
  exact kept keys under

theorem appRecords_cons (r : UInt8 × Bytes) (frames : List (UInt8 × Bytes)) :
    appRecords (r :: frames) = appRecords [r] ++ appRecords frames := by
  by_cases app : r.1 = 0x17 <;> simp [appRecords, app]

theorem Record.authentic {s s' : Tls} {t : UInt8} {pkt : Bytes} {evs : List Event}
    (h : Record C s t pkt evs s') {keys : Tls} (under : SecureUnder keys s) :
    ∃ bodies, List.Forall₂ (Authentic C keys) (appRecords [(t, pkt)]) bodies ∧
      appDataOf evs = bodies.flatten := by
  cases h with
  | changeCipherSpec => exact ⟨[], .nil, rfl⟩
  | handshake opened messages => exact ⟨[], .nil, appDataOf_messages messages⟩
  | appData secure decrypts validates =>
    rename_i plain b
    exact ⟨[b], .cons (under.authentic decrypts validates) .nil, rfl⟩

theorem Records.assembled {s s' : Tls} {raw : Bytes} {evs : List Event}
    (h : Records C s raw evs s') {keys : Tls} (under : SecureUnder keys s) :
    Assembled C keys raw (appDataOf evs) := by
  induction h with
  | nil s => exact ⟨[], [], .nil, .nil, rfl⟩
  | cons frame record _ ih =>
    obtain ⟨first, authentic, data⟩ := record.authentic under
    obtain ⟨frames, others, framed, authentic', data'⟩ := ih (record.keepsChannel under)
    refine ⟨_ :: frames, first ++ others, .cons frame framed, ?_, ?_⟩
    · rw [appRecords_cons]
      exact List.rel_append authentic authentic'
    · rw [appDataOf_append, data, data', List.flatten_append]

end Reply

section Run

variable (C) (w : Usb.World S)

/-- The commands of a session, from where `open` left it: each step is one call of `cmd`. -/
def session (l : Link S) : Machine (Link S) Bytes (Usb.Entry S) where
  init := l
  step l out := some ((cmd C w out l).state, (cmd C w out l).log)

/-- The command went out as one record: an IV, and the encryption of the padded command and
its MAC. -/
def SealedRecord (keys : Tls) (out rec : Bytes) : Prop :=
  ∃ iv pkt : Bytes, Frame rec 0x17 pkt [] ∧ iv.length = 16 ∧
    pkt = iv ++ C.aesCbcEncrypt keys.encryptionKey iv (padValidity (sign C keys 0x17 out))

/-- What a step of a session did: it sent one packet, a sealed record, and an `Ok` is the
application data of its reply. -/
structure Secure (keys : Tls) (move : Machine.Move (Link S) Bytes (Usb.Entry S)) : Prop where
  channel : SecureUnder keys move.after.tls
  sent : ∃ env rec answer, move.events = [⟨env, .cmd rec, answer⟩] ∧
    SealedRecord C keys move.label rec ∧
    ∀ data, (cmd C w move.label move.before).out = .ok data →
      ∃ rsp, answer = .ok rsp ∧ Assembled C keys rsp data

variable {C w}

theorem cmd_secure_run {l : Link S} {keys : Tls} (under : SecureUnder keys l.tls)
    (key : keys.encryptionKey.length = 32) (out : Bytes) :
    let record := framed 0x17 (sealedBody C l.tls 0x17 out)
    let t := (w (.cmd record) l.env).2
    (∃ rsp, (w (.cmd record) l.env).1 = .ok rsp ∧ cmd C w out l =
        ⟨(parseTlsResponse C rsp (drawn l.tls) : Result String (Usb.Entry S) Tls Bytes).out,
          ⟨(parseTlsResponse C rsp (drawn l.tls) : Result String (Usb.Entry S) Tls Bytes).state, t⟩,
          [⟨l.env, .cmd record, .ok rsp⟩]⟩) ∨
      ∃ err, cmd C w out l = ⟨.err err, ⟨drawn l.tls, t⟩, [⟨l.env, .cmd record, .error err⟩]⟩ := by
  intro record t
  have step : cmd C w out l = (if l.tls.secureTx && l.tls.secureRx then app C w out
      else onUsb (Usb.cmd w out)) l := rfl
  have made : (onTls (makeAppData C out) : Act String (Usb.Entry S) (Link S) Bytes) l =
      ⟨.ok record, ⟨drawn l.tls, l.env⟩, []⟩ := by
    unfold onTls Act.zoom
    rw [makeAppData_run, if_neg (by simp [under.secureTx]),
      if_pos (by rw [under.encryptionKey, key])]
  rw [step, under.secureTx, under.secureRx, Bool.and_self, if_pos rfl, app, Act.bind_run, made,
    Act.follow_ok]
  simp only [List.nil_append]
  have asked : (onUsb (Usb.cmd w record) : Act String (Usb.Entry S) (Link S) Bytes)
      ⟨drawn l.tls, l.env⟩ = match (w (.cmd record) l.env).1 with
        | .ok rsp => ⟨.ok rsp, ⟨drawn l.tls, t⟩, [⟨l.env, .cmd record, .ok rsp⟩]⟩
        | .error err => ⟨.err err, ⟨drawn l.tls, t⟩, [⟨l.env, .cmd record, .error err⟩]⟩ := by
    have ask : Usb.cmd w record l.env = Act.follow (w.ask (.cmd record) l.env) Act.lift := rfl
    unfold onUsb Act.zoom
    rw [ask, World.ask_run, Act.follow_ok]
    cases (w (.cmd record) l.env).1 <;> rfl
  cases answer : (w (.cmd record) l.env).1 with
  | ok rsp =>
    refine .inl ⟨rsp, rfl, ?_⟩
    rw [answer] at asked
    have silent : (parseTlsResponse C rsp (drawn l.tls) :
        Result String (Usb.Entry S) Tls Bytes).log = [] := parseTlsResponse_unsent rsp (drawn l.tls)
    simp only [Act.bind_run, asked, Act.follow_ok]
    simp only [onTls, Act.zoom, silent, List.append_nil]
  | error err =>
    refine .inr ⟨err, ?_⟩
    rw [answer] at asked
    simp only [Act.bind_run, asked, Act.follow_err]

theorem cmd_keepsChannel {l : Link S} {keys : Tls} (under : SecureUnder keys l.tls)
    (key : keys.encryptionKey.length = 32) (out : Bytes) :
    SecureUnder keys (cmd C w out l).state.tls := by
  have sent : SecureUnder keys (drawn l.tls) :=
    ⟨under.1, under.2, under.3, under.4, under.5, under.6⟩
  obtain ⟨rsp, _, run⟩ | ⟨err, run⟩ := cmd_secure_run (C := C) (w := w) under key out
  · rw [run]
    exact parseTlsResponse_respects keepsChannel_listening rsp _ keys sent
  · rw [run]
    exact sent

theorem sealedRecord_iff (cbc : CbcKeepsLength C) {s keys : Tls} (under : SecureUnder keys s)
    (key : keys.encryptionKey.length = 32) (out : Bytes) :
    SealedRecord C keys out (framed 0x17 (sealedBody C s 0x17 out)) ↔
      out.length < plaintextLimit := by
  have key' : s.encryptionKey.length = 32 := by rw [under.encryptionKey, key]
  rw [← sealedBody_length cbc key' (t := 0x17), ← framed_frame (t := 0x17)]
  constructor
  · rintro ⟨iv, pkt, frame, _, _⟩
    rwa [framed_body frame] at frame
  · intro frame
    refine ⟨nextIv s, _, frame, nextIv_length, ?_⟩
    rw [sealedBody, under.encryptionKey, sign, sign, under.signKey]

/-- A call keeps its word if and only if its command is short enough for one record. -/
theorem cmd_secure (cbc : CbcKeepsLength C) {l : Link S} {keys : Tls}
    (under : SecureUnder keys l.tls) (key : keys.encryptionKey.length = 32) (out : Bytes) :
    Secure C w keys ⟨l, out, (cmd C w out l).state, (cmd C w out l).log⟩ ↔
      out.length < plaintextLimit := by
  have kept := cmd_keepsChannel (C := C) (w := w) under key out
  have whole := sealedRecord_iff cbc under key out
  have run := cmd_secure_run (C := C) (w := w) under key out
  constructor
  · rintro ⟨_, env, record, answer, logged, record_sealed, _⟩
    obtain ⟨rsp, _, run⟩ | ⟨err, run⟩ := run
    · rw [run] at logged
      cases logged
      exact whole.mp record_sealed
    · rw [run] at logged
      cases logged
      exact whole.mp record_sealed
  · intro short
    refine ⟨kept, ?_⟩
    obtain ⟨rsp, answered, run⟩ | ⟨err, run⟩ := run
    · refine ⟨_, _, _, by rw [run], whole.mpr short, ?_⟩
      intro data returned
      rw [run] at returned
      obtain ⟨evs, records, rfl⟩ := parseTlsResponse_yields.mp ⟨returned, rfl⟩
      have sent : SecureUnder keys (drawn l.tls) :=
        ⟨under.1, under.2, under.3, under.4, under.5, under.6⟩
      exact ⟨rsp, rfl, records.assembled sent⟩
    · refine ⟨_, _, _, by rw [run], whole.mpr short, ?_⟩
      intro data returned
      rw [run] at returned
      cases returned

/-- Every state of a session is secure under the keys it was opened with. -/
theorem session_under {l : Link S} (under : SecureUnder l.tls l.tls)
    (key : l.tls.encryptionKey.length = 32) {moves last} (run : (session C w l).Run moves last) :
    SecureUnder l.tls last.tls := by
  refine run.invariant (I := fun _ s => SecureUnder l.tls s.tls) under ?_
  intro tr s out t events secure taken
  obtain ⟨rfl, rfl⟩ := Prod.mk.inj (Option.some.inj taken)
  exact cmd_keepsChannel secure key out

theorem session_once (l : Link S) (out : Bytes) : (session C w l).Run
    [⟨l, out, (cmd C w out l).state, (cmd C w out l).log⟩] (cmd C w out l).state :=
  .step .init rfl

/-- In a session that was opened, every command goes out as one sealed record and every `Ok` is
what authenticated records said, if and only if every command is short enough. -/
theorem session_secure (cbc : CbcKeepsLength C) {w : Usb.World S} {l l' : Link S}
    (opened : Yields (openSession C w) l () l') {moves last}
    (run : (session C w l').Run moves last) :
    (∀ move ∈ moves, Secure C w l'.tls move) ↔ ∀ move ∈ moves, move.label.length < 65472 := by
  obtain ⟨under, key⟩ := openSession_secure opened
  have each : ∀ move ∈ moves, Secure C w l'.tls move ↔ move.label.length < 65472 := by
    intro move mem
    obtain ⟨front, back, rfl⟩ := List.append_of_mem mem
    obtain ⟨before, taken⟩ := run.move
    obtain ⟨after, events⟩ := Prod.mk.inj (Option.some.inj taken)
    have step := cmd_secure (C := C) (w := w) cbc (session_under under key before) key move.label
    rw [after, events] at step
    exact step
  exact forall₂_congr each

end Run

def lonely : Link Bool := (openSession plainPrimitives loneChange ⟨fresh, false⟩).state

theorem lonely_opened : Yields (openSession plainPrimitives loneChange) ⟨fresh, false⟩ () lonely :=
  ⟨by decide +kernel, rfl⟩

/-- A sensor that finishes its handshake and answers each command with the same record. -/
def answering : Usb.World Nat
  | .cmd _, 0 => (.ok greeting1, 1)
  | .cmd _, 1 => (.ok greeting2, 2)
  | .cmd _, n => (.ok (framed 0x17 (sealedBody plainPrimitives established 0x17 [0, 0, 5])), n + 1)
  | .pollInterrupt, n => (.ok none, n)
  | .readData, n => (.ok [], n)
  | .now, n => (0, n)
  | .current, n => (0, n)
  | .onStage _ _, n => ((), n)

def answered : Link Nat := (openSession plainPrimitives answering ⟨fresh, 0⟩).state

theorem session_secure_flashInfo : ∃ moves last,
    (session plainPrimitives answering answered).Run moves last ∧
      moves.map Machine.Move.label = [[0x3e], [0x43, 2], [0x3e]] ∧
      moves.map (fun move => (cmd plainPrimitives answering move.label move.before).out) =
        [.ok [0, 0, 5], .ok [0, 0, 5], .ok [0, 0, 5]] ∧
      ∀ move ∈ moves, Secure plainPrimitives answering answered.tls move := by
  have opened : Yields (openSession plainPrimitives answering) ⟨fresh, 0⟩ () answered :=
    ⟨by decide +kernel, rfl⟩
  obtain ⟨moves, last, run, labels, said⟩ : ∃ moves last,
      (session plainPrimitives answering answered).Run moves last ∧
        moves.map Machine.Move.label = [[0x3e], [0x43, 2], [0x3e]] ∧
        moves.map (fun move => (cmd plainPrimitives answering move.label move.before).out) =
          [.ok [0, 0, 5], .ok [0, 0, 5], .ok [0, 0, 5]] :=
    ⟨_, _, .step (.step (.step .init rfl) rfl) rfl, rfl, by decide +kernel⟩
  refine ⟨moves, last, run, labels, said,
    (session_secure plain_inverts.length opened run).mpr fun move mem => ?_⟩
  have one : move.label ∈ moves.map Machine.Move.label := List.mem_map_of_mem mem
  rw [labels] at one
  have short : ∀ out ∈ [[0x3e], [0x43, 2], ([0x3e] : Bytes)], out.length < 65472 := by decide
  exact short move.label one

/-- A command of 65472 bytes leaves an open session as something else than one record. -/
theorem session_insecure :
    Yields (openSession plainPrimitives loneChange) ⟨fresh, false⟩ () lonely ∧
      ¬ ∀ moves last, (session plainPrimitives loneChange lonely).Run moves last →
        ∀ move ∈ moves, Secure plainPrimitives loneChange lonely.tls move := by
  refine ⟨lonely_opened, fun all => ?_⟩
  obtain ⟨under, key⟩ := openSession_secure lonely_opened
  have size : (List.replicate 65472 (0 : UInt8)).length = 65472 := List.length_replicate
  generalize List.replicate 65472 (0 : UInt8) = out at size
  have secure := all _ _ (session_once lonely out) _ (List.mem_singleton_self _)
  have short := (cmd_secure plain_inverts.length under key out).mp secure
  rw [size] at short
  exact absurd short (Nat.lt_irrefl _)

end ValidityFprintd.Tls
