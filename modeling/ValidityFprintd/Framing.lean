import ValidityFprintd.TlsOpen

/-! Handshake messages put into records one way or another: what a session makes of a reply
depends on the messages in it, not on the records they came in. -/

namespace ValidityFprintd.Tls
open Effect Crypto

variable {E : Type} {C : Primitives}

structure HandshakeMessage where
  kind : UInt8
  body : Bytes

def HandshakeMessage.encode (m : HandshakeMessage) : Bytes := m.kind :: with3bytesSize m.body

def encodeAll (ms : List HandshakeMessage) : Bytes := ms.flatMap HandshakeMessage.encode

def handshakeRecord (ms : List HandshakeMessage) : Bytes :=
  [0x16, 3, 3] ++ with2bytesSize (encodeAll ms)

def handshakeReply (groups : List (List HandshakeMessage)) : Bytes := groups.flatMap handshakeRecord

/-- Take messages one after another, whatever records they came in. -/
def hear (C : Primitives) : List HandshakeMessage → Act String E Tls Unit
  | [] => Act.ret ()
  | m :: ms => do
    handleMessage C m.kind m.body
    updateNeg m.encode
    hear C ms

theorem hear_append (front back : List HandshakeMessage) :
    (hear C (front ++ back) : Act String E Tls Unit) = hear C front >>= fun _ => hear C back := by
  induction front with
  | nil => rfl
  | cons m ms ih =>
    simp only [List.cons_append, hear, ih, Act.bind_assoc]

theorem encode_length (m : HandshakeMessage) : m.encode.length = m.body.length + 4 := by
  simp only [HandshakeMessage.encode, with3bytesSize, List.length_cons, List.length_append,
    Bytes.be16_length]
  omega

theorem fromBe16_bytes (n : UInt16) :
    Bytes.fromBe16 (UInt8.ofNat (n.toNat / 256)) (UInt8.ofNat n.toNat) = n := Bytes.fromLe16_le16 n

theorem header_size {b : Bytes} (fits : b.length < 16777216) :
    (Bytes.fromBe16 (UInt8.ofNat (b.length / 65536))
      (UInt8.ofNat ((Bytes.len16 b).toNat / 256))).toNat * 256 +
        (UInt8.ofNat (Bytes.len16 b).toNat).toNat = b.length := by
  simp only [Bytes.fromBe16, Bytes.fromLe16_toNat, Bytes.len16, UInt8.toNat_ofNat',
    UInt16.toNat_ofNat']
  omega

theorem handleMessages_encodeAll {fuel : Nat} {ms : List HandshakeMessage}
    (small : (encodeAll ms).length < 65536) (enough : (encodeAll ms).length ≤ fuel) :
    (handleMessages C fuel (encodeAll ms) : Act String E Tls Unit) = hear C ms := by
  induction ms generalizing fuel with
  | nil => cases fuel <;> rfl
  | cons m ms ih =>
    have split : encodeAll (m :: ms) = m.kind :: UInt8.ofNat (m.body.length / 65536) ::
        UInt8.ofNat ((Bytes.len16 m.body).toNat / 256) :: UInt8.ofNat (Bytes.len16 m.body).toNat ::
          (m.body ++ encodeAll ms) := by
      simp only [encodeAll, List.flatMap_cons, HandshakeMessage.encode, with3bytesSize,
        Bytes.be16, List.cons_append, List.nil_append]
    rw [split] at small enough
    simp only [List.length_cons, List.length_append] at small enough
    obtain ⟨k, rfl⟩ : ∃ k, fuel = k + 1 := ⟨fuel - 1, by omega⟩
    have shape := Bytes.padTo_of_le (n := 4) (b := encodeAll (m :: ms))
      (by rw [split]; simp only [List.length_cons]; omega)
    rw [split] at shape
    have later := @ih k (by omega) (by omega)
    funext s
    rw [split, handleMessages_step (by simp) shape]
    simp only [header_size (b := m.body) (by omega), List.take_left, List.drop_left]
    rw [if_neg (by simp), later]
    rfl

theorem hear_ok {ms : List HandshakeMessage} {s s' : Tls} {l : List E}
    (run : hear C ms s = ⟨.ok (), s', l⟩) : s'.secureRx = s.secureRx ∧
      s'.masterSecret = s.masterSecret ∧
      s'.handshakeHash = s.handshakeHash ++ encodeAll ms := by
  induction ms generalizing s l with
  | nil =>
    cases run
    exact ⟨rfl, rfl, (List.append_nil _).symm⟩
  | cons m ms ih =>
    obtain ⟨_, s1, k, n, taken, later, rfl⟩ := Act.bind_eq_ok.mp run
    obtain ⟨_, s2, k', n', folded, rest, rfl⟩ := Act.bind_eq_ok.mp later
    obtain ⟨rfl, message⟩ := handleMessage_ok.mp taken
    obtain ⟨rfl, rfl⟩ := Act.modify_eq_ok.mp folded
    obtain ⟨rx, secret, hash⟩ := ih rest
    have same : s1.secureRx = s.secureRx ∧ s1.masterSecret = s.masterSecret ∧
        s1.handshakeHash = s.handshakeHash := by
      generalize m.kind = t at message
      generalize m.body = p at message
      cases message <;> exact ⟨rfl, rfl, rfl⟩
    refine ⟨rx.trans same.1, secret.trans same.2.1, ?_⟩
    rw [hash, same.2.2, List.append_assoc]
    rfl

/-- A Finished message that is taken is the one due after the messages before it. -/
theorem hear_finished {before after : List HandshakeMessage} {m : HandshakeMessage}
    (finished : m.kind = 0x14) {s s' : Tls} {l : List E}
    (run : hear C (before ++ m :: after) s = ⟨.ok (), s', l⟩) :
    m.body = prf C s.masterSecret
      (serverFinished ++ (C.sha256 (s.handshakeHash ++ encodeAll before)).toList) 0x0c := by
  rw [hear_append] at run
  obtain ⟨_, s1, k, n, heard, later, rfl⟩ := Act.bind_eq_ok.mp run
  obtain ⟨_, secret, hash⟩ := hear_ok heard
  obtain ⟨_, s2, k', n', taken, _, rfl⟩ := Act.bind_eq_ok.mp later
  obtain ⟨_, message⟩ := handleMessage_ok.mp taken
  rw [finished] at message
  generalize m.body = body at message
  cases message
  rw [finishedBody, transcript, secret, hash]

theorem handleHandshake_clear {s : Tls} (clear : s.secureRx = false) {ms : List HandshakeMessage}
    (small : (encodeAll ms).length < 65536) :
    (handleHandshake C (encodeAll ms) : Act String E Tls Unit) s = hear C ms s := by
  simp only [handleHandshake, Act.get_bind, clear, Bool.false_eq_true, if_false, Act.ret_bind]
  rw [handleMessages_encodeAll small (Nat.le_refl _)]

/-- A reply of handshake records in the clear is taken message by message. -/
theorem handleRecords_reply {fuel : Nat} {groups : List (List HandshakeMessage)}
    (small : ∀ g ∈ groups, (encodeAll g).length ≤ 65535)
    (enough : (handshakeReply groups).length ≤ fuel) {s : Tls} (clear : s.secureRx = false) :
    (handleRecords C fuel (handshakeReply groups) [] : Act String E Tls Bytes) s =
      (hear C groups.flatten >>= fun _ => Act.ret []) s := by
  induction groups generalizing fuel s with
  | nil => cases fuel <;> rfl
  | cons g groups ih =>
    have fits : (encodeAll g).length < 65536 := Nat.lt_succ_of_le (small g List.mem_cons_self)
    have split : handshakeReply (g :: groups) = 0x16 :: 3 :: 3 ::
        UInt8.ofNat ((Bytes.len16 (encodeAll g)).toNat / 256) ::
          UInt8.ofNat (Bytes.len16 (encodeAll g)).toNat ::
            (encodeAll g ++ handshakeReply groups) := by
      simp only [handshakeReply, List.flatMap_cons, handshakeRecord, with2bytesSize, Bytes.be16,
        List.cons_append, List.nil_append]
    rw [split] at enough
    simp only [List.length_cons, List.length_append] at enough
    obtain ⟨k, rfl⟩ : ∃ k, fuel = k + 1 := ⟨fuel - 1, by omega⟩
    have shape := Bytes.padTo_of_le (n := 5) (b := handshakeReply (g :: groups))
      (by rw [split]; simp only [List.length_cons]; omega)
    rw [split] at shape
    rw [split, handleRecords_step (by simp) shape]
    simp only [fromBe16_bytes]
    simp only [Bytes.len16_toNat fits, List.take_left, List.drop_left]
    rw [if_neg (by simp), if_neg (by simp), List.flatten_cons, hear_append]
    have record : (handleRecord C 0x16 (encodeAll g) : Act String E Tls Bytes) =
        handleHandshake C (encodeAll g) >>= fun _ => Act.ret [] := rfl
    rw [record, Act.bind_assoc, Act.bind_assoc, Act.bind_run, Act.bind_run,
      handleHandshake_clear clear fits]
    rcases heard : (hear C g s : Result String E Tls Unit) with ⟨out, t, l⟩
    cases out with
    | ok u =>
      have still : t.secureRx = false := (hear_ok heard).1.trans clear
      have rest := @ih k (fun g mem => small g (.tail _ mem)) (by omega) t still
      simp only [Act.follow_ok, Act.ret_bind, List.append_nil, rest]
    | err e => rfl
    | panic => rfl
    | stuck => rfl

/-- What a reply of handshake messages comes to does not depend on the records they are grouped
in; where it is accepted, the transcript grows by the messages, and each Finished is the one due
after those before it. -/
theorem parseTlsResponse_framing {s : Tls} (clear : s.secureRx = false)
    {groups groups' : List (List HandshakeMessage)} (same : groups.flatten = groups'.flatten)
    (small : ∀ g ∈ groups, (encodeAll g).length ≤ 65535)
    (small' : ∀ g ∈ groups', (encodeAll g).length ≤ 65535) :
    (parseTlsResponse C (handshakeReply groups) : Act String E Tls Bytes) s =
        parseTlsResponse C (handshakeReply groups') s ∧
      ∀ data s', Yields (parseTlsResponse C (handshakeReply groups) : Act String E Tls Bytes) s
        data s' → data = [] ∧
          s'.handshakeHash = s.handshakeHash ++ encodeAll groups.flatten ∧
          ∀ before m after, groups.flatten = before ++ m :: after → m.kind = 0x14 →
            m.body = prf C s.masterSecret
              (serverFinished ++ (C.sha256 (s.handshakeHash ++ encodeAll before)).toList) 0x0c := by
  have run := handleRecords_reply (E := E) (C := C) small (Nat.le_refl _) clear
  have run' := handleRecords_reply (E := E) (C := C) small' (Nat.le_refl _) clear
  refine ⟨?_, fun data s' yields => ?_⟩
  · rw [parseTlsResponse, parseTlsResponse, run, run', same]
  · obtain ⟨l, done⟩ := Yields.iff_run.mp yields
    rw [parseTlsResponse, run] at done
    obtain ⟨_, t, k, n, heard, last, rfl⟩ := Act.bind_eq_ok.mp done
    cases last
    refine ⟨rfl, (hear_ok heard).2.2, fun before m after split finished => ?_⟩
    rw [split] at heard
    exact hear_finished finished heard

/-- A Finished behind two other messages, as it is due in a fresh session. -/
def dueFinished : HandshakeMessage :=
  ⟨0x14, prf plainPrimitives fresh.masterSecret (serverFinished ++
    (plainPrimitives.sha256 (encodeAll [⟨0x0d, [1, 2]⟩, ⟨0x0e, []⟩])).toList) 0x0c⟩

theorem parseTlsResponse_framing_fresh :
    (parseTlsResponse plainPrimitives (handshakeReply [[⟨0x0d, [1, 2]⟩, ⟨0x0e, []⟩, dueFinished]]) :
        Act String Unit Tls Bytes) fresh =
      parseTlsResponse plainPrimitives
        (handshakeReply [[⟨0x0d, [1, 2]⟩], [], [⟨0x0e, []⟩, dueFinished]]) fresh ∧
    ∃ s', Yields (parseTlsResponse plainPrimitives
        (handshakeReply [[⟨0x0d, [1, 2]⟩, ⟨0x0e, []⟩, dueFinished]]) : Act String Unit Tls Bytes)
        fresh [] s' ∧
      s'.handshakeHash = encodeAll [⟨0x0d, [1, 2]⟩, ⟨0x0e, []⟩, dueFinished] := by
  have together : ∀ g ∈ [[(⟨0x0d, [1, 2]⟩ : HandshakeMessage), ⟨0x0e, []⟩, dueFinished]],
      (encodeAll g).length ≤ 65535 := by decide +kernel
  have apart : ∀ g ∈ [[(⟨0x0d, [1, 2]⟩ : HandshakeMessage)], [], [⟨0x0e, []⟩, dueFinished]],
      (encodeAll g).length ≤ 65535 := by decide +kernel
  have same : [[(⟨0x0d, [1, 2]⟩ : HandshakeMessage), ⟨0x0e, []⟩, dueFinished]].flatten =
      [[(⟨0x0d, [1, 2]⟩ : HandshakeMessage)], [], [⟨0x0e, []⟩, dueFinished]].flatten := rfl
  have framing := parseTlsResponse_framing (E := Unit) (C := plainPrimitives) (s := fresh)
    rfl same together apart
  have taken : Yields (parseTlsResponse plainPrimitives
      (handshakeReply [[⟨0x0d, [1, 2]⟩, ⟨0x0e, []⟩, dueFinished]]) : Act String Unit Tls Bytes)
      fresh [] _ := ⟨by decide +kernel, rfl⟩
  exact ⟨framing.1, _, taken, (framing.2 _ _ taken).2.1⟩

end ValidityFprintd.Tls
