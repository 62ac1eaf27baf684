import ValidityFprintd.HandshakeReplies

/-! What a finished handshake says about the sensor. `open` only looks at its two channel
flags, and any ChangeCipherSpec sets the second: a run that returns is authenticated
exactly when the replies carried the messages the flags stand for. -/

namespace ValidityFprintd.Tls
open Effect Crypto

variable {C : Primitives} {S : Type}

structure SameKeys (s s' : Tls) : Prop where
  secureTx : s'.secureTx = s.secureTx
  masterSecret : s'.masterSecret = s.masterSecret
  validationKey : s'.validationKey = s.validationKey
  decryptionKey : s'.decryptionKey = s.decryptionKey

namespace SameKeys

theorem refl (s : Tls) : SameKeys s s := ⟨rfl, rfl, rfl, rfl⟩

theorem trans {s t u : Tls} (h : SameKeys s t) (h' : SameKeys t u) : SameKeys s u :=
  ⟨h'.1.trans h.1, h'.2.trans h.2, h'.3.trans h.3, h'.4.trans h.4⟩

theorem decrypt_eq {s s' : Tls} (h : SameKeys s s') (c : Bytes) :
    decrypt C s' c = decrypt C s c := by
  simp only [decrypt, h.decryptionKey]

theorem validate_eq {s s' : Tls} (h : SameKeys s s') (t : UInt8) (b : Bytes) :
    validate C s' t b = validate C s t b := by
  simp only [validate, h.validationKey]

end SameKeys

theorem Message.sameKeys {s s' : Tls} {t : UInt8} {p : Bytes} (h : Message C s t p s') :
    SameKeys s s' ∧ s'.secureRx = s.secureRx := by
  cases h <;> exact ⟨⟨rfl, rfl, rfl, rfl⟩, rfl⟩

/-- The encrypted record `c` holds the handshake message `t`, `p`. -/
def Carries (C : Primitives) (keys : Tls) (c : Bytes) (t : UInt8) (p : Bytes) : Prop :=
  ∃ plain hs header : Bytes, decrypt C keys c = .ok plain ∧ validate C keys 0x16 plain = .ok hs ∧
    header.length = 3 ∧ (t :: (header ++ p)) <:+: hs

/-- Events as a session under the keys of `keys` hears them, its channel encrypted from
the start or from the first ChangeCipherSpec on. -/
def Heard (C : Primitives) (keys : Tls) : Bool → List Event → Prop
  | _, [] => True
  | _, .changeCipherSpec :: evs => Heard C keys true evs
  | rx, .message cover before t p :: evs =>
    SameKeys keys before ∧ (∃ after, Message C before t p after) ∧ cover.isSome = rx ∧
      (p ≠ [] → ∀ c, cover = some c → Carries C keys c t p) ∧ Heard C keys rx evs
  | rx, .appData _ :: evs => Heard C keys rx evs

def secured : Bool → List Event → Bool
  | rx, [] => rx
  | _, .changeCipherSpec :: evs => secured true evs
  | rx, _ :: evs => secured rx evs

@[simp] theorem secured_append (rx : Bool) (evs evs' : List Event) :
    secured rx (evs ++ evs') = secured (secured rx evs) evs' := by
  induction evs generalizing rx with
  | nil => rfl
  | cons e evs ih => cases e <;> exact ih _

theorem heard_append (keys : Tls) (rx : Bool) (evs evs' : List Event) :
    Heard C keys rx (evs ++ evs') ↔ Heard C keys rx evs ∧ Heard C keys (secured rx evs) evs' := by
  induction evs generalizing rx with
  | nil => simp [Heard, secured]
  | cons e evs ih => cases e <;> simp [Heard, secured, ih, and_assoc]

theorem secured_iff (rx : Bool) (evs : List Event) :
    secured rx evs = true ↔ rx = true ∨ .changeCipherSpec ∈ evs := by
  induction evs generalizing rx with
  | nil => simp [secured]
  | cons e evs ih => cases e <;> simp [secured, ih]

theorem Message.unpadded {hs tail p : Bytes} {t l0 l1 l2 : UInt8}
    (hp : p ≠ []) (h : Bytes.padTo 4 hs = t :: l0 :: l1 :: l2 :: (p ++ tail)) :
    hs = t :: l0 :: l1 :: l2 :: (p ++ tail) := by
  have pos := List.length_pos_iff.mpr hp
  have len := Bytes.padTo_length 4 hs
  rw [h] at len
  simp only [List.length_cons, List.length_append] at len
  rw [← h, Bytes.padTo_of_le (by omega)]

theorem Messages.heard {keys s s' : Tls} {cover : Option Bytes} {hs whole : Bytes}
    {evs : List Event} (h : Messages C cover s hs evs s') (same : SameKeys keys s)
    (covered : ∀ c, cover = some c → ∃ plain,
      decrypt C keys c = .ok plain ∧ validate C keys 0x16 plain = .ok whole)
    (suffix : hs <:+ whole) :
    Heard C keys cover.isSome evs ∧ secured cover.isSome evs = cover.isSome ∧
      SameKeys s s' ∧ s'.secureRx = s.secureRx := by
  induction h with
  | nil s => exact ⟨trivial, rfl, SameKeys.refl s, rfl⟩
  | @cons s s1 s2 hs rest p t l0 l1 l2 evs hne shape len message _ ih =>
    obtain ⟨kept, rx⟩ := message.sameKeys
    have step : SameKeys s (fold s1 ([t, l0, l1, l2] ++ p)) := ⟨kept.1, kept.2, kept.3, kept.4⟩
    have left : rest <:+ whole := by
      by_cases hr : rest = []
      · rw [hr]
        exact List.nil_suffix
      · have long : 4 ≤ hs.length := by
          have padded := Bytes.padTo_length 4 hs
          have pos := List.length_pos_iff.mpr hr
          rw [shape] at padded
          simp only [List.length_cons, List.length_append] at padded
          omega
        rw [Bytes.padTo_of_le long] at shape
        refine List.IsSuffix.trans ?_ suffix
        exact ⟨[t, l0, l1, l2] ++ p, by rw [shape]; simp⟩
    obtain ⟨heard, secured', kept', rx'⟩ := ih (same.trans step) left
    refine ⟨⟨same, ⟨s1, message⟩, rfl, ?_, heard⟩, secured', step.trans kept', rx'.trans rx⟩
    intro hp c hc
    obtain ⟨plain, hd, hv⟩ := covered c hc
    have whole' := Message.unpadded hp shape
    refine ⟨plain, whole, [l0, l1, l2], hd, hv, rfl, List.IsInfix.trans ?_ suffix.isInfix⟩
    exact ⟨[], rest, by rw [whole']; simp⟩

theorem Record.heard {s s' : Tls} {t : UInt8} {pkt : Bytes} {evs : List Event}
    (h : Record C s t pkt evs s') :
    Heard C s s.secureRx evs ∧ s'.secureRx = secured s.secureRx evs ∧ SameKeys s s' := by
  cases h with
  | changeCipherSpec => exact ⟨trivial, rfl, ⟨rfl, rfl, rfl, rfl⟩⟩
  | appData => exact ⟨trivial, rfl, SameKeys.refl s⟩
  | handshake opened messages =>
    rename_i hs cover
    have rx : cover.isSome = s.secureRx := by
      cases cover with
      | none => exact opened.1.symm
      | some c => exact opened.1.symm
    have covered : ∀ c, cover = some c → ∃ plain,
        decrypt C s c = .ok plain ∧ validate C s 0x16 plain = .ok hs := by
      rintro c rfl
      obtain ⟨_, rfl, plain, hd, hv⟩ := opened
      exact ⟨plain, hd, hv⟩
    obtain ⟨heard, kept, same, rx'⟩ :=
      messages.heard (SameKeys.refl s) covered (List.suffix_refl hs)
    rw [rx] at heard kept
    exact ⟨heard, rx'.trans kept.symm, same⟩

theorem Heard.congr {keys keys' : Tls} (same : SameKeys keys keys') {rx : Bool}
    {evs : List Event} (h : Heard C keys' rx evs) : Heard C keys rx evs := by
  induction evs generalizing rx with
  | nil => trivial
  | cons e evs ih =>
    cases e with
    | changeCipherSpec => exact ih h
    | appData b => exact ih h
    | message cover before t p =>
      obtain ⟨kept, after, covered, carried, rest⟩ := h
      refine ⟨same.trans kept, after, covered, fun hp c hc => ?_, ih rest⟩
      obtain ⟨plain, hs, header, hd, hv, found⟩ := carried hp c hc
      rw [same.decrypt_eq] at hd
      rw [same.validate_eq] at hv
      exact ⟨plain, hs, header, hd, hv, found⟩

theorem Records.heard {s s' : Tls} {raw : Bytes} {evs : List Event} (h : Records C s raw evs s') :
    Heard C s s.secureRx evs ∧ s'.secureRx = secured s.secureRx evs ∧ SameKeys s s' := by
  induction h with
  | nil s => exact ⟨trivial, rfl, SameKeys.refl s⟩
  | cons _ record _ ih =>
    obtain ⟨first, rx, same⟩ := record.heard
    obtain ⟨others, rx', same'⟩ := ih
    rw [rx] at others rx'
    refine ⟨(heard_append _ _ _ _).mpr ⟨first, others.congr same⟩, ?_, same.trans same'⟩
    rw [rx', secured_append]

def Event.Is (t : UInt8) : Event → Prop
  | .message _ _ t' _ => t' = t
  | _ => False

/-- Where the server random of a session comes from that heard `evs`. -/
def Drawn (s : Tls) (evs : List Event) (s' : Tls) : Prop :=
  (∃ cover before p, .message cover before 0x02 p ∈ evs ∧ IsServerHello p s'.serverRandom) ∨
    ((∀ e ∈ evs, ¬ e.Is 0x02) ∧ s'.serverRandom = s.serverRandom)

theorem Drawn.append {s t u : Tls} {evs evs' : List Event} (h : Drawn s evs t)
    (h' : Drawn t evs' u) : Drawn s (evs ++ evs') u := by
  cases h' with
  | inl found =>
    obtain ⟨cover, before, p, he, hp⟩ := found
    exact .inl ⟨cover, before, p, List.mem_append_right _ he, hp⟩
  | inr none =>
    obtain ⟨clear', kept'⟩ := none
    cases h with
    | inl found =>
      obtain ⟨cover, before, p, he, hp⟩ := found
      exact .inl ⟨cover, before, p, List.mem_append_left _ he, kept' ▸ hp⟩
    | inr none =>
      refine .inr ⟨fun e he => ?_, kept'.trans none.2⟩
      cases List.mem_append.mp he with
      | inl he => exact none.1 e he
      | inr he => exact clear' e he

theorem Message.drawn {cover : Option Bytes} {s s' : Tls} {t : UInt8} {p : Bytes}
    (h : Message C s t p s') : Drawn s [.message cover s t p] s' := by
  cases h with
  | serverHello hp => exact .inl ⟨cover, s, p, by simp, hp⟩
  | certificateRequest | serverHelloDone | finished => exact .inr ⟨by simp [Event.Is], rfl⟩

theorem Messages.drawn {cover : Option Bytes} {s s' : Tls} {hs : Bytes} {evs : List Event}
    (h : Messages C cover s hs evs s') : Drawn s evs s' := by
  induction h with
  | nil s => exact .inr ⟨by simp, rfl⟩
  | @cons s s1 s2 hs rest p t l0 l1 l2 evs _ _ _ message _ ih =>
    have first : Drawn s [.message cover s t p] (fold s1 ([t, l0, l1, l2] ++ p)) := message.drawn
    exact first.append ih

theorem Records.drawn {s s' : Tls} {raw : Bytes} {evs : List Event} (h : Records C s raw evs s') :
    Drawn s evs s' := by
  induction h with
  | nil s => exact .inr ⟨by simp, rfl⟩
  | cons _ record _ ih =>
    refine Drawn.append ?_ ih
    cases record with
    | changeCipherSpec => exact .inr ⟨by simp [Event.Is], rfl⟩
    | handshake _ messages => exact messages.drawn
    | appData => exact .inr ⟨by simp [Event.Is], rfl⟩

section Build

variable {E : Type}

def KeepsSession (s : Tls) (_ : List E) (s' : Tls) : Prop :=
  SameKeys s s' ∧ s'.secureRx = s.secureRx

instance keepsSession_composes : Composes (KeepsSession (E := E)) where
  nil := fun s => ⟨SameKeys.refl s, rfl⟩
  append := fun h h' => ⟨h.1.trans h'.1, h'.2.trans h.2⟩

theorem keepsSession_bookkeeping : Bookkeeping (KeepsSession (E := E)) where
  hash := fun _ _ => ⟨⟨rfl, rfl, rfl, rfl⟩, rfl⟩
  rng := fun _ _ => ⟨⟨rfl, rfl, rfl, rfl⟩, rfl⟩

theorem helloPacket_clear {s s' : Tls} {pkt : Bytes}
    (h : Yields (helloPacket C : Act String E Tls Bytes) s pkt s') : s'.secureRx = false := by
  have hello : Respects KeepsSession (makeClientHello : Act String E Tls Bytes) := by
    have draw : Respects KeepsSession (draw32 : Act String E Tls Bytes32) :=
      fun _ => ⟨⟨rfl, rfl, rfl, rfl⟩, rfl⟩
    refine .bind draw fun random => ?_
    exact .bind (.modify fun _ => ⟨⟨rfl, rfl, rfl, rfl⟩, rfl⟩) fun _ =>
      withNegHdr_respects keepsSession_bookkeeping _ _
  simp only [helloPacket, Yields.bind_iff, Yields.modify_iff, Yields.ret_iff] at h
  obtain ⟨_, _, rfl, b, s1, hb, rec0, s2, hr, _, rfl⟩ := h
  obtain ⟨_, _, rx⟩ := hello.yields hb
  obtain ⟨_, _, rx'⟩ := (makeHandshake_respects keepsSession_bookkeeping b).yields hr
  exact rx'.trans rx

theorem helloPacket_source {s s' : Tls} {pkt : Bytes}
    (h : Yields (helloPacket C : Act String E Tls Bytes) s pkt s') :
    (s'.clientRandom.toList = List.ofFn (fun i : Fin 32 => s.rng i) ∧
        (s'.rng = fun i => s.rng (i + 32)) ∧ s'.material = s.material) ∧
      s'.decryptionKey = s.decryptionKey ∧ s'.serverRandom = s.serverRandom := by
  rw [← h.2]
  exact ⟨⟨Vector.toList_ofFn, rfl, rfl⟩, rfl, rfl⟩

/-- From the randoms to the keys of a session. -/
structure Derived (C : Primitives) (s : Tls) (random : Bytes32) (s' : Tls) : Prop where
  masterSecret : ∃ preMasterSecret, s'.masterSecret =
    prf C preMasterSecret (masterSecretLabel ++ (s.clientRandom.toList ++ random.toList)) 0x30
  validationKey : s'.validationKey = ((prf C s'.masterSecret
    (keyExpansion ++ (s.clientRandom.toList ++ random.toList)) 0x120).take 0x40).drop 0x20
  decryptionKey : s'.decryptionKey = ((prf C s'.masterSecret
    (keyExpansion ++ (s.clientRandom.toList ++ random.toList)) 0x120).take 0x80).drop 0x60

theorem makeKeys_derived {s s' : Tls}
    (h : Yields (makeKeys C : Act String E Tls Unit) s () s') :
    Derived C s s.serverRandom s' ∧ s'.secureRx = s.secureRx := by
  have long : ∀ secret seed, (prf C secret seed 0x120).length = 0x120 :=
    fun secret seed => prf_length C secret seed 0x120
  have run : s' = (makeKeys C s : Result String E Tls Unit).state := h.2.symm
  simp only [makeKeys, Act.modify_bind, Act.get_bind, Bytes.slice_bind, long] at run
  rw [run]
  exact ⟨⟨⟨_, rfl⟩, rfl, rfl⟩, rfl⟩

theorem makeKeys_key {s s' : Tls} (h : Yields (makeKeys C : Act String E Tls Unit) s () s') :
    s'.decryptionKey = ((prf C (prf C
        (C.diffieHellman (C.ephemeralSecret s.rng).1 s.material.ecdhPublic)
        (masterSecretLabel ++ (s.clientRandom.toList ++ s.serverRandom.toList)) 0x30)
      (keyExpansion ++ (s.clientRandom.toList ++ s.serverRandom.toList)) 0x120).take 0x80).drop
        0x60 := by
  have long : ∀ secret seed, (prf C secret seed 0x120).length = 0x120 :=
    fun secret seed => prf_length C secret seed 0x120
  have run : s' = (makeKeys C s : Result String E Tls Unit).state := h.2.symm
  simp only [makeKeys, Act.modify_bind, Act.get_bind, Bytes.slice_bind, long] at run
  rw [run]
  rfl

theorem finishPacket_keeps {s s' : Tls} {pkt : Bytes}
    (h : Yields (finishPacket C : Act String E Tls Bytes) s pkt s') :
    SameKeys { s with secureTx := true } s' ∧ s'.secureRx = s.secureRx := by
  simp only [finishPacket, makeFinish, Yields.bind_iff, Yields.modify_iff, Yields.get_iff,
    Yields.ret_iff] at h
  obtain ⟨_, s1, certs, _, s2, kex, _, s3, verify, _, s4, rec1, _, s5,
    ⟨_, _, rfl, _, _, ⟨rfl, rfl⟩, rfl, rfl⟩, _, s6, rec2, _, rfl⟩ := h
  have book := keepsSession_bookkeeping (E := E)
  obtain ⟨_, same1, rx1⟩ := (makeCerts_respects book).yields certs
  obtain ⟨_, same2, rx2⟩ := (makeClientKex_respects book).yields kex
  obtain ⟨_, same3, rx3⟩ := (makeCertVerify_respects book).yields verify
  obtain ⟨_, same4, rx4⟩ := (makeHandshake_respects book _).yields rec1
  obtain ⟨_, same6, rx6⟩ := (makeHandshake_respects book _).yields rec2
  have same := ((same1.trans same2).trans same3).trans same4
  have turned : SameKeys { s with secureTx := true } { s4 with secureTx := true } :=
    ⟨rfl, same.2, same.3, same.4⟩
  refine ⟨turned.trans same6, ?_⟩
  exact rx6.trans (rx4.trans (rx3.trans (rx2.trans rx1)))

end Build

/-- The two flights of a handshake the driver took to its end: the packets it sent, the
replies it accepted with what it heard in them, and its session in between. -/
structure Flights (C : Primitives) (w : Usb.World S) (l : Link S) where
  hello : Bytes
  greeted : Tls
  sendsHello : Yields (helloPacket C : Act String (Usb.Entry S) Tls Bytes) l.tls hello greeted
  reply1 : Bytes
  env1 : S
  answered1 : w (.cmd hello) l.env = (.ok reply1, env1)
  events1 : List Event
  heard : Tls
  accepts1 : Records C greeted reply1 events1 heard
  keyed : Tls
  derives : Yields (makeKeys C : Act String (Usb.Entry S) Tls Unit) heard () keyed
  finish : Bytes
  finishing : Tls
  sendsFinish : Yields (finishPacket C : Act String (Usb.Entry S) Tls Bytes) keyed finish finishing
  reply2 : Bytes
  env2 : S
  answered2 : w (.cmd finish) env1 = (.ok reply2, env2)
  events2 : List Event
  final : Tls
  accepts2 : Records C finishing reply2 events2 final

namespace Flights

variable {w : Usb.World S} {l : Link S}

theorem det (F F' : Flights C w l) :
    F.events1 = F'.events1 ∧ F.keyed = F'.keyed ∧ F.events2 = F'.events2 ∧ F.final = F'.final := by
  obtain ⟨hello, greeted⟩ := F.sendsHello.det F'.sendsHello
  have answer1 := F.answered1
  rw [hello, F'.answered1] at answer1
  have reply1 : F'.reply1 = F.reply1 := Except.ok.inj (congrArg Prod.fst answer1)
  have env1 : F'.env1 = F.env1 := congrArg Prod.snd answer1
  have accepts1 := F.accepts1
  rw [greeted, ← reply1] at accepts1
  obtain ⟨events1, heard⟩ := accepts1.det F'.accepts1
  have derives := F.derives
  rw [heard] at derives
  have keyed := (derives.det F'.derives).2
  have sendsFinish := F.sendsFinish
  rw [keyed] at sendsFinish
  obtain ⟨finish, finishing⟩ := sendsFinish.det F'.sendsFinish
  have answer2 := F.answered2
  rw [finish, ← env1, F'.answered2] at answer2
  have reply2 : F'.reply2 = F.reply2 := Except.ok.inj (congrArg Prod.fst answer2)
  have accepts2 := F.accepts2
  rw [finishing, ← reply2] at accepts2
  obtain ⟨events2, final⟩ := accepts2.det F'.accepts2
  exact ⟨events1, keyed, events2, final⟩

theorem run_iff (w : Usb.World S) (l l' : Link S) :
    Yields (openSession C w) l () l' ↔ ∃ F : Flights C w l,
      (F.final.secureTx = true ∧ F.final.secureRx = true) ∧ l' = ⟨F.final, F.env2⟩ := by
  simp only [openSession, onTls, onUsb, Yields.bind_iff, Yields.mapErr_iff, Yields.zoom_iff,
    Usb.cmd_yields, parseTlsResponse_yields, Yields.get_iff, Yields.bailIf_iff, not_not,
    Bool.and_eq_true]
  constructor
  · rintro ⟨hello, _, ⟨greeted, sends1, rfl⟩, reply1, _, ⟨env1, answered1, rfl⟩,
      _, _, ⟨heard, ⟨events1, accepts1, _⟩, rfl⟩, _, _, ⟨keyed, derives, rfl⟩,
      finish, _, ⟨finishing, sends2, rfl⟩, reply2, _, ⟨env2, answered2, rfl⟩,
      _, _, ⟨final, ⟨events2, accepts2, _⟩, rfl⟩, _, _, ⟨_, ⟨rfl, rfl⟩, rfl⟩, secure, rfl⟩
    exact ⟨⟨hello, greeted, sends1, reply1, env1, answered1, events1, heard, accepts1, keyed,
      derives, finish, finishing, sends2, reply2, env2, answered2, events2, final, accepts2⟩,
      secure, rfl⟩
  · rintro ⟨F, secure, rfl⟩
    exact ⟨F.hello, _, ⟨F.greeted, F.sendsHello, rfl⟩, F.reply1, _, ⟨F.env1, F.answered1, rfl⟩,
      _, _, ⟨F.heard, ⟨F.events1, F.accepts1, rfl⟩, rfl⟩, (), _, ⟨F.keyed, F.derives, rfl⟩,
      F.finish, _, ⟨F.finishing, F.sendsFinish, rfl⟩, F.reply2, _, ⟨F.env2, F.answered2, rfl⟩,
      _, _, ⟨F.final, ⟨F.events2, F.accepts2, rfl⟩, rfl⟩, _, _, ⟨_, ⟨rfl, rfl⟩, rfl⟩, secure, rfl⟩

end Flights

/-- A ServerHello of this handshake was accepted before the keys were derived, and they
were derived from its random. -/
def HelloAccepted {w : Usb.World S} {l : Link S} (F : Flights C w l) : Prop :=
  ∃ cover before p random, .message cover before 0x02 p ∈ F.events1 ∧ IsServerHello p random ∧
    Derived C F.heard random F.keyed

/-- After a ChangeCipherSpec an encrypted record came that holds, under the keys of this
handshake, a Finished message over the transcript so far. -/
def FinishedVerified {w : Usb.World S} {l : Link S} (F : Flights C w l) : Prop :=
  ∃ pre c before p post, F.events2 = pre ++ .message (some c) before 0x14 p :: post ∧
    .changeCipherSpec ∈ F.events1 ++ pre ∧ Carries C F.keyed c 0x14 p ∧
    p = prf C F.keyed.masterSecret (serverFinished ++ (transcript C before).toList) 12

def Authenticates (C : Primitives) (w : Usb.World S) (l : Link S) : Prop :=
  ∀ l' log, openSession C w l = ⟨.ok (), l', log⟩ →
    ∃ F : Flights C w l, l' = ⟨F.final, F.env2⟩ ∧ HelloAccepted F ∧ FinishedVerified F

namespace Flights

variable {w : Usb.World S} {l : Link S}

theorem hello_of_said (F : Flights C w l) (h : ∃ e ∈ F.events1, e.Is 0x02) :
    HelloAccepted F := by
  obtain ⟨e, he, is⟩ := h
  cases F.accepts1.drawn with
  | inl found =>
    obtain ⟨cover, before, p, hm, hp⟩ := found
    exact ⟨cover, before, p, _, hm, hp, (makeKeys_derived F.derives).1⟩
  | inr none => exact absurd is (none.1 e he)

theorem finishing_secureRx (F : Flights C w l) : F.finishing.secureRx = F.heard.secureRx := by
  obtain ⟨_, rx⟩ := finishPacket_keeps F.sendsFinish
  exact rx.trans (makeKeys_derived F.derives).2

theorem finished_of_covered (F : Flights C w l) {c p : Bytes} {before : Tls}
    (there : .message (some c) before 0x14 p ∈ F.events2) : FinishedVerified F := by
  obtain ⟨pre, post, split⟩ := List.append_of_mem there
  obtain ⟨kept, _⟩ := finishPacket_keeps F.sendsFinish
  obtain ⟨_, rx1, _⟩ := F.accepts1.heard
  have heard := F.accepts2.heard.1
  rw [split, heard_append] at heard
  obtain ⟨same, ⟨after, message⟩, covered, carried, _⟩ := heard.2
  have change : .changeCipherSpec ∈ F.events1 ++ pre := by
    rw [F.finishing_secureRx, rx1, helloPacket_clear F.sendsHello, ← secured_append] at covered
    cases (secured_iff _ _).mp covered.symm with
    | inl clear => cases clear
    | inr change => exact change
  have body : p = finishedBody C before := by
    cases message with
    | finished => rfl
  have secret : before.masterSecret = F.keyed.masterSecret :=
    same.masterSecret.trans kept.masterSecret
  have nonempty : p ≠ [] := by
    rw [← List.length_pos_iff, body, finishedBody, prf_length]
    decide
  obtain ⟨plain, hs, header, hd, hv, found⟩ := carried nonempty c rfl
  rw [kept.decrypt_eq] at hd
  rw [kept.validate_eq] at hv
  refine ⟨pre, c, before, p, post, split, change, ⟨plain, hs, header, hd, hv, found⟩, ?_⟩
  rw [body, finishedBody, secret]

/-- What is accepted and verified is what was said at all. -/
theorem authenticated_iff (F : Flights C w l) : HelloAccepted F ∧ FinishedVerified F ↔
    (∃ m ∈ F.events1.filterMap Event.said, m.kind = 0x02) ∧
      ∃ m ∈ F.events2.filterMap Event.said, m.kind = 0x14 ∧ m.covered = true := by
  constructor
  · rintro ⟨⟨cover, before, p, random, hello, _⟩, pre, c, before', p', post, split, _⟩
    refine ⟨⟨_, List.mem_filterMap.mpr ⟨_, hello, rfl⟩, rfl⟩, ?_⟩
    rw [split]
    exact ⟨_, List.mem_filterMap.mpr ⟨_, List.mem_append_right pre List.mem_cons_self, rfl⟩,
      rfl, rfl⟩
  · rintro ⟨⟨_, hello, kind⟩, _, finished, kind', covered⟩
    obtain ⟨e, mem, said⟩ := List.mem_filterMap.mp hello
    obtain ⟨e', mem', said'⟩ := List.mem_filterMap.mp finished
    cases e with
    | changeCipherSpec | appData => cases said
    | message cover before t p =>
      cases said
      cases e' with
      | changeCipherSpec | appData => cases said'
      | message cover' before' t' p' =>
        cases said'
        obtain rfl : t' = 0x14 := kind'
        obtain ⟨c, rfl⟩ := Option.isSome_iff_exists.mp covered
        exact ⟨F.hello_of_said ⟨_, mem, kind⟩, F.finished_of_covered mem'⟩

theorem firstSaid_eq (F : Flights C w l) :
    F.events1.filterMap Event.said = firstSaid C l.tls F.reply1 := by
  obtain ⟨said, _⟩ := F.accepts1.said (Nat.le_refl _)
  obtain ⟨_, key, _⟩ := helloPacket_source F.sendsHello
  rw [said, key, helloPacket_clear F.sendsHello]
  rfl

theorem secondSaid_eq (F : Flights C w l) :
    F.events2.filterMap Event.said = secondSaid C l.tls F.reply1 F.reply2 := by
  obtain ⟨_, rx, source, random⟩ := F.accepts1.said (Nat.le_refl _)
  obtain ⟨said, _⟩ := F.accepts2.said (Nat.le_refl _)
  obtain ⟨kept, _⟩ := finishPacket_keeps F.sendsFinish
  obtain ⟨draws, _, hears⟩ := helloPacket_source F.sendsHello
  have key : F.finishing.decryptionKey =
      nextKey C l.tls (lastRandom l.tls.serverRandom.toList (firstSaid C l.tls F.reply1)) := by
    rw [kept.decryptionKey, show F.keyed.decryptionKey = _ from makeKeys_key F.derives,
      source.clientRandom, source.rng, source.material, random, F.firstSaid_eq, hears, draws.1,
      draws.2.1, draws.2.2]
    rfl
  rw [said, key, F.finishing_secureRx, rx, helloPacket_clear F.sendsHello, Bool.false_or]
  rfl

/-- A handshake that returned heard two replies. -/
theorem of_run {l' : Link S} {log : List (Usb.Entry S)}
    (run : openSession C w l = ⟨.ok (), l', log⟩) :
    ∃ F : Flights C w l, l' = ⟨F.final, F.env2⟩ ∧ replies log = [F.reply1, F.reply2] := by
  obtain ⟨hello, l1, k, m, sends, run1, rfl⟩ := Act.bind_eq_ok.mp run
  obtain ⟨sendsHello, env1, rfl⟩ := onTls_ok helloPacket_unsent sends
  obtain ⟨reply1, l2, k1, m, sent, run2, rfl⟩ := Act.bind_eq_ok.mp run1
  obtain ⟨answered1, tls2, reply1_⟩ := sent_ok sent
  obtain ⟨_, l3, k, m, parsed, run3, rfl⟩ := Act.bind_eq_ok.mp run2
  obtain ⟨accepted1, env3, rfl⟩ :=
    onTls_ok (parseTlsResponse_unsent reply1) (Act.mapErr_eq_ok.mp parsed)
  obtain ⟨_, l4, k, m, keys, run4, rfl⟩ := Act.bind_eq_ok.mp run3
  obtain ⟨derives, env4, rfl⟩ := onTls_ok makeKeys_unsent keys
  obtain ⟨finish, l5, k, m, sends, run5, rfl⟩ := Act.bind_eq_ok.mp run4
  obtain ⟨sendsFinish, env5, rfl⟩ := onTls_ok finishPacket_unsent sends
  obtain ⟨reply2, l6, k2, m, sent, run6, rfl⟩ := Act.bind_eq_ok.mp run5
  obtain ⟨answered2, tls6, reply2_⟩ := sent_ok sent
  obtain ⟨_, l7, k, m, parsed, run7, rfl⟩ := Act.bind_eq_ok.mp run6
  obtain ⟨accepted2, env7, rfl⟩ :=
    onTls_ok (parseTlsResponse_unsent reply2) (Act.mapErr_eq_ok.mp parsed)
  obtain ⟨_, l8, k, m, seen, run8, rfl⟩ := Act.bind_eq_ok.mp run7
  obtain ⟨looked, env8, rfl⟩ := onTls_ok (.get : Respects Unsent Act.get) seen
  obtain ⟨_, rfl, rfl⟩ := Act.bailIf_eq_ok.mp run8
  obtain ⟨events1, accepts1, _⟩ := parseTlsResponse_yields.mp accepted1
  obtain ⟨events2, accepts2, _⟩ := parseTlsResponse_yields.mp accepted2
  rw [env1] at answered1
  rw [tls2] at accepts1
  rw [env5, env4, env3] at answered2
  rw [tls6] at accepts2
  refine ⟨⟨hello, l1.tls, sendsHello, reply1, l2.env, answered1, events1, l3.tls, accepts1, l4.tls,
    derives, finish, l5.tls, sendsFinish, reply2, l6.env, answered2, events2, l7.tls, accepts2⟩,
    ?_, ?_⟩
  · have same := (Yields.get_iff.mp looked).2
    rcases l8 with ⟨tls, env⟩
    rw [show env = l6.env from env8.trans env7, ← show l7.tls = tls from same]
  · simp only [replies, List.nil_append, List.filterMap_append, List.append_nil]
      at reply1_ reply2_ ⊢
    rw [reply1_, reply2_]
    rfl

end Flights

/-! Two sensors: one that goes through the handshake, and one that sends a ChangeCipherSpec and
nothing else. -/

def plainPrimitives : Primitives where
  sha256 := fun _ => Vector.replicate 32 0
  hmac := fun _ _ => Vector.replicate 32 0
  aesCbcEncrypt := fun _ _ data => data
  aesCbcDecrypt := fun _ _ data => data
  ephemeralSecret := fun rng => ([], rng)
  publicKey := fun _ => []
  diffieHellman := fun _ _ => []
  signingKey := fun _ => .ok []
  signPrehash := fun _ _ => .ok []

def fresh : Tls where
  material := ⟨Vector.replicate 32 0, [], []⟩
  handshakeHash := []
  clientRandom := Vector.replicate 32 0
  serverRandom := Vector.replicate 32 0
  masterSecret := []
  signKey := []
  validationKey := []
  encryptionKey := []
  decryptionKey := []
  sessionPublic := []
  secureTx := false
  secureRx := false
  rng := fun _ => 0

/-- An empty reply to the first packet, a lone ChangeCipherSpec to every later one. -/
def loneChange : Usb.World Bool
  | .cmd _, s => (.ok (if s then [0x14, 0x03, 0x03, 0x00, 0x01, 0x01] else []), true)
  | .pollInterrupt, s => (.ok none, s)
  | .readData, s => (.ok [], s)
  | .now, s => (0, s)
  | .current, s => (0, s)
  | .onStage _ _, s => ((), s)

/-- A ServerHello, then a ChangeCipherSpec and a Finished in an encrypted record. -/
def greeting1 : Bytes :=
  [0x16, 0x03, 0x03] ++ with2bytesSize
    ([0x02, 0, 0, 38] ++ [3, 3] ++ List.replicate 32 7 ++ [0] ++ [0xc0, 0x05, 0])

def greeting2 : Bytes :=
  [0x14, 0x03, 0x03, 0x00, 0x01, 0x01] ++ [0x16, 0x03, 0x03] ++ with2bytesSize
    (List.replicate 16 0 ++
      padValidity ([0x14, 0, 0, 12] ++ List.replicate 12 0 ++ List.replicate 32 0))

def courteous : Usb.World Bool
  | .cmd _, s => (.ok (if s then greeting2 else greeting1), true)
  | .pollInterrupt, s => (.ok none, s)
  | .readData, s => (.ok [], s)
  | .now, s => (0, s)
  | .current, s => (0, s)
  | .onStage _ _, s => ((), s)

/-- A handshake that returns `Ok` has authenticated the sensor if and only if the two replies it
heard leave neither the ServerHello nor the Finished out. -/
theorem openSession_authenticates (C : Primitives) (w : Usb.World S) {l l' : Link S}
    {log : List (Usb.Entry S)} (run : openSession C w l = ⟨.ok (), l', log⟩) :
    ∃ reply1 reply2, replies log = [reply1, reply2] ∧
      (Authenticates C w l ↔ Complete C l.tls reply1 reply2) := by
  obtain ⟨F, end', heard⟩ := Flights.of_run run
  refine ⟨F.reply1, F.reply2, heard, ?_⟩
  have said := F.authenticated_iff
  rw [F.firstSaid_eq, F.secondSaid_eq] at said
  constructor
  · intro h
    obtain ⟨F', _, both⟩ := h l' log run
    obtain ⟨events1, _, events2, _⟩ := F.det F'
    have there := F'.authenticated_iff.mp both
    rwa [← events1, ← events2, F.firstSaid_eq, F.secondSaid_eq] at there
  · intro complete l'' log' run'
    rw [run] at run'
    cases run'
    exact ⟨F, end', said.mpr complete⟩

/-- The sensor that leaves nothing out is authenticated. -/
theorem openSession_authenticates_courteous :
    Authenticates plainPrimitives courteous ⟨fresh, false⟩ := by
  have run : Yields (openSession plainPrimitives courteous) ⟨fresh, false⟩ () _ :=
    ⟨by decide +kernel, rfl⟩
  obtain ⟨log, run⟩ := Yields.iff_run.mp run
  obtain ⟨reply1, reply2, heard, authentic⟩ :=
    openSession_authenticates plainPrimitives courteous run
  have told : replies (openSession plainPrimitives courteous ⟨fresh, false⟩).log =
      [greeting1, greeting2] := by
    decide +kernel
  rw [run, heard] at told
  cases told
  exact authentic.mpr (by decide +kernel)

/-- The driver takes a channel for secure whose other end never proved anything. -/
theorem openSession_unauthenticated :
    ¬ Authenticates plainPrimitives loneChange ⟨fresh, false⟩ := by
  intro h
  have run : Yields (openSession plainPrimitives loneChange) ⟨fresh, false⟩ () _ :=
    ⟨by decide +kernel, rfl⟩
  obtain ⟨log, run⟩ := Yields.iff_run.mp run
  obtain ⟨F, _, ⟨cover, before, p, random, he, _⟩, _⟩ := h _ log run
  have silent : F.reply1 = [] := (Except.ok.inj (congrArg Prod.fst F.answered1)).symm
  have accepts := F.accepts1
  rw [silent] at accepts
  rw [accepts.nothing] at he
  cases he

end ValidityFprintd.Tls
