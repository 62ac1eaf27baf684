import ValidityFprintd.Device
import ValidityFprintd.Enroll

/-! What a verification that returns a match has heard from the sensor: the scan, the
interrupt, the reply with the id of a user, and the record that came back for the low half of
this id. -/

namespace ValidityFprintd.Capture
open Effect

/-- The entries of a dictionary that is read to its end. -/
inductive Dictionary : Bytes → List (UInt16 × Bytes) → Prop
  | nil : Dictionary [] []
  | cons {t0 t1 l0 l1 : UInt8} {v rest : Bytes} {entries : List (UInt16 × Bytes)} :
      v.length = (Bytes.fromLe16 l0 l1).toNat → Dictionary rest entries →
      Dictionary (t0 :: t1 :: l0 :: l1 :: (v ++ rest)) ((Bytes.fromLe16 t0 t1, v) :: entries)

theorem parseDict_nil {fuel : Nat} {dict : List (UInt16 × Bytes)} :
    parseDict fuel [] = .ok dict ↔ Dictionary [] dict := by
  rw [show parseDict fuel [] = .ok [] by cases fuel <;> rfl]
  constructor
  · intro h
    cases h
    exact .nil
  · intro h
    cases h
    rfl

theorem parseDict_ok {fuel : Nat} {b : Bytes} (enough : b.length ≤ fuel)
    {dict : List (UInt16 × Bytes)} : parseDict fuel b = .ok dict ↔ Dictionary b dict := by
  induction fuel generalizing b dict with
  | zero =>
    obtain rfl : b = [] := List.length_eq_zero_iff.mp (by omega)
    exact parseDict_nil
  | succ fuel ih =>
    match b, enough with
    | [], _ => exact parseDict_nil
    | [_], _ | [_, _], _ | [_, _, _], _ =>
      constructor
      · intro h
        cases h
      · intro h
        cases h
    | t0 :: t1 :: l0 :: l1 :: tail, enough =>
      simp only [List.length_cons] at enough
      simp only [parseDict, Outcome.bind_eq_ok, Outcome.ofOption_eq_ok, Bytes.range?_start]
      constructor
      · rintro ⟨v, ⟨rest, rfl, size⟩, entries, others, whole⟩
        cases whole
        rw [← size, List.drop_left] at others
        rw [List.length_append] at enough
        exact .cons size ((ih (by omega)).mp others)
      · intro h
        cases h with
        | @cons _ _ _ _ v rest entries size left =>
          refine ⟨v, ⟨rest, rfl, size⟩, entries, ?_, rfl⟩
          rw [← size, List.drop_left]
          rw [List.length_append] at enough
          exact (ih (by omega)).mpr left

/-- A reply of status 0 whose dictionary, as long as it says, reports a user's id under tag 1
and a finger's subtype under tag 3. -/
def Reports (rsp : Bytes) (m : MatchResult) : Prop :=
  ∃ l0 l1 payload dict u0 u1 u2 u3 s0 s1 user subtype,
    rsp = 0 :: 0 :: l0 :: l1 :: payload ∧ (Bytes.fromLe16 l0 l1).toNat = payload.length ∧
    Dictionary payload dict ∧ dictGet dict 1 = some (u0 :: u1 :: u2 :: u3 :: user) ∧
    dictGet dict 3 = some (s0 :: s1 :: subtype) ∧
    m = ⟨Bytes.fromLe32 u0 u1 u2 u3, Bytes.fromLe16 s0 s1, (dictGet dict 4).getD []⟩

theorem parseMatch_ok {body : Bytes} {m : MatchResult} :
    parseMatch body = .ok m ↔ Reports (0 :: 0 :: body) m := by
  match body with
  | [] | [_] =>
    constructor
    · intro h
      cases h
    · rintro ⟨l0, l1, payload, dict, u0, u1, u2, u3, s0, s1, user, subtype, shape, _⟩
      cases shape
  | l0 :: l1 :: payload =>
    have header : (Bytes.rd16 (l0 :: l1 :: payload) 0 : Outcome String UInt16) =
        .ok (Bytes.fromLe16 l0 l1) := rfl
    unfold parseMatch
    simp only [Outcome.bind_eq_ok, Outcome.bailIf_eq_ok, Outcome.ofOption_eq_ok, header,
      Outcome.ok.injEq, List.drop_succ_cons, List.drop_zero, ne_eq, not_not, not_or, Nat.not_lt]
    constructor
    · rintro ⟨_, _, _, rfl, _, length, dict, parsed, user, found, subtype, found', _,
        ⟨four, two⟩, dbid, read, number, read', rfl⟩
      match user, four, subtype, two with
      | u0 :: u1 :: u2 :: u3 :: user, _, s0 :: s1 :: subtype, _ =>
        cases read
        cases read'
        exact ⟨l0, l1, payload, dict, u0, u1, u2, u3, s0, s1, user, subtype, rfl, length,
          (parseDict_ok (Nat.le_refl _)).mp parsed, found, found', rfl⟩
    · rintro ⟨_, _, _, dict, u0, u1, u2, u3, s0, s1, user, subtype, shape, length, parsed,
        found, found', rfl⟩
      cases shape
      refine ⟨(), by simp, _, rfl, (), length, dict, (parseDict_ok (Nat.le_refl _)).mpr parsed,
        _, found, _, found', (), ⟨by simp, by simp⟩, _, rfl, _, rfl, rfl⟩

end ValidityFprintd.Capture

namespace ValidityFprintd.Device
open Effect Capture

variable {S : Type} (w : Usb.World S) (mine : Option Nat) (fuel : Nat) (calib : Calibration)
  (cfg : SensorConfig) (timeout : Nat) (sid : SidIdentity) (s : S)

/-- A verification up to the match the sensor reports: a capture that succeeded, a match
interrupt that begins with 3, and a reply that parses, with the world's state after each. -/
structure Matched where
  result : CaptureResult
  begun : S
  scanned : S
  glows : Yields (Act.ignore (glowStartScan w)) s () begun
  captured : Yields (capture w mine fuel calib cfg .identify timeout) begun result scanned
  accepted : S
  starts : Yields (Usb.exchange w matchCmd "starting match") scanned () accepted
  start : Nat
  timed : S
  clock : Yields (Usb.now w) accepted start timed
  interrupt : Bytes
  interrupted : S
  waits : Yields (waitInt w fuel (start + 10000)) timed interrupt interrupted
  three : interrupt.head? = some 3
  rsp : Bytes
  replied : S
  answers : w (.cmd [0x60, 0x00, 0x00, 0x00, 0x00]) interrupted = (.ok rsp, replied)
  report : MatchResult
  reports : Reports rsp report
  released : S
  releases : Yields (Act.ignore (Usb.cmd w [0x62, 0x00, 0x00, 0x00, 0x00])) replied () released

/-- The record of this id, as the sensor returns it, is the identity's. -/
def ReadsBack (dbid : UInt16) : Prop :=
  ∃ rsp user, (w (.cmd (Db.userQuery dbid)) s).1 = .ok rsp ∧ Usb.checkStatus rsp = .ok () ∧
    Db.parseUser (rsp.drop 2) = .ok user ∧ user.identity = sid

/-- The record of an id of 32 bits is the identity's: there is a record id of this value. -/
def Owns (id : UInt32) : Prop := ∃ dbid : UInt16, dbid.toNat = id.toNat ∧ ReadsBack w sid s dbid

/-- A match is only ever returned for a report of one of the identity's own records. -/
def MatchOwned (passwd : Except String Text) (username : Text) : Prop :=
  ∀ finger t, Yields (verify w passwd username mine fuel calib cfg timeout) s (.matched finger) t →
    ∃ m : Matched w mine fuel calib cfg timeout s, Owns w sid m.released m.report.userDbid

variable {w mine fuel calib cfg timeout sid s}

theorem getUser_yields {dbid : UInt16} {user : Db.User} {t : S} :
    Yields (Db.getUser w dbid) s user t ↔ ∃ rsp, w (.cmd (Db.userQuery dbid)) s = (.ok rsp, t) ∧
      Usb.checkStatus rsp = .ok () ∧ Db.parseUser (rsp.drop 2) = .ok user := by
  simp only [Db.getUser, Yields.bind_iff, Usb.cmd_yields, Usb.check, Yields.lift_iff,
    Yields.ofOutcome_iff]
  constructor
  · rintro ⟨rsp, _, answer, _, _, ⟨status, rfl⟩, parsed, rfl⟩
    exact ⟨rsp, answer, status, parsed⟩
  · rintro ⟨rsp, answer, status, parsed⟩
    exact ⟨rsp, t, answer, (), t, ⟨status, rfl⟩, parsed, rfl⟩

theorem readsBack_iff {dbid : UInt16} : ReadsBack w sid s dbid ↔
    ∃ user t, Yields (Db.getUser w dbid) s user t ∧ user.identity = sid := by
  simp only [getUser_yields]
  constructor
  · rintro ⟨rsp, user, answer, status, parsed, same⟩
    exact ⟨user, _, ⟨rsp, Prod.ext answer rfl, status, parsed⟩, same⟩
  · rintro ⟨user, t, ⟨rsp, answer, status, parsed⟩, same⟩
    exact ⟨rsp, user, congrArg Prod.fst answer, status, parsed, same⟩

theorem owned_matched {m : MatchResult} {finger : String} {t : S} :
    Yields (owned w sid m) s (.matched finger) t ↔
      ∃ user, Yields (Db.getUser w m.userDbid.toUInt16) s user t ∧ user.identity = sid ∧
        fingerName m.subtype = finger := by
  unfold owned
  rw [Yields.bind_iff]
  constructor
  · rintro ⟨owner, t', fetched, judged⟩
    cases owner with
    | error e =>
      obtain ⟨no, _⟩ := Yields.ret_iff.mp judged
      cases no
    | ok user =>
      dsimp only at judged
      split at judged
      · rename_i same
        obtain ⟨name, rfl⟩ := Yields.ret_iff.mp judged
        exact ⟨user, Yields.attempt_ok_iff.mp fetched, same, VerifyOutcome.matched.inj name⟩
      · obtain ⟨no, _⟩ := Yields.ret_iff.mp judged
        cases no
  · rintro ⟨user, fetched, same, rfl⟩
    refine ⟨.ok user, t, Yields.attempt_ok_iff.mpr fetched, ?_⟩
    dsimp only
    rw [if_pos same]
    exact Yields.ret_iff.mpr ⟨rfl, rfl⟩

theorem matchFinger_yields {m : MatchResult} {t : S} :
    Yields (matchFinger w fuel) s m t ↔ ∃ accepted start timed interrupt interrupted rsp replied,
      Yields (Usb.exchange w matchCmd "starting match") s () accepted ∧
      Yields (Usb.now w) accepted start timed ∧
      Yields (waitInt w fuel (start + 10000)) timed interrupt interrupted ∧
      interrupt.head? = some 3 ∧
      w (.cmd [0x60, 0x00, 0x00, 0x00, 0x00]) interrupted = (.ok rsp, replied) ∧ Reports rsp m ∧
      Yields (Act.ignore (Usb.cmd w [0x62, 0x00, 0x00, 0x00, 0x00])) replied () t := by
  have status : ∀ rsp : Bytes, (Usb.checkStatus rsp = .ok () ∧ parseMatch (rsp.drop 2) = .ok m) ↔
      Reports rsp m := by
    intro rsp
    rw [Usb.checkStatus_ok_iff, parseMatch_ok]
    constructor
    · rintro ⟨⟨rest, rfl⟩, reports⟩
      exact reports
    · rintro ⟨l0, l1, payload, dict, u0, u1, u2, u3, s0, s1, user, subtype, rfl, rest⟩
      exact ⟨⟨_, rfl⟩, l0, l1, payload, dict, u0, u1, u2, u3, s0, s1, user, subtype, rfl, rest⟩
  simp only [matchFinger, runMatch, Yields.bind_iff, Yields.lift_iff]
  constructor
  · rintro ⟨_, replied, tried, _, _, released, rfl, rfl⟩
    simp only [Yields.attempt_ok_iff, Yields.bind_iff, Yields.bailIf_iff, Usb.request_yields,
      Yields.ofOutcome_iff, not_not] at tried
    obtain ⟨_, accepted, starts, start, timed, clock, interrupt, interrupted, waits, _, _,
      ⟨three, rfl⟩, rsp, _, ⟨answers, ok⟩, parsed, rfl⟩ := tried
    exact ⟨accepted, start, timed, interrupt, interrupted, rsp, _, starts, clock, waits, three,
      answers, (status rsp).mp ⟨ok, parsed⟩, released⟩
  · rintro ⟨accepted, start, timed, interrupt, interrupted, rsp, replied, starts, clock, waits,
      three, answers, reports, released⟩
    obtain ⟨ok, parsed⟩ := (status rsp).mpr reports
    refine ⟨.ok m, replied, ?_, (), t, released, rfl, rfl⟩
    simp only [Yields.attempt_ok_iff, Yields.bind_iff, Yields.bailIf_iff, Usb.request_yields,
      Yields.ofOutcome_iff, not_not]
    exact ⟨(), accepted, starts, start, timed, clock, interrupt, interrupted, waits, (), _,
      ⟨three, rfl⟩, rsp, _, ⟨answers, ok⟩, parsed, rfl⟩

/-- Where a verification matches: the record under the low half of the reported id is the
user's. -/
theorem verify_matched_iff {passwd : Except String Text} {username : Text}
    (resolved : sidForUser passwd username = .ok sid) :
    (∃ finger t, Yields (verify w passwd username mine fuel calib cfg timeout) s
      (.matched finger) t) ↔ ∃ m : Matched w mine fuel calib cfg timeout s,
        ReadsBack w sid m.released m.report.userDbid.toUInt16 := by
  simp only [verify, Yields.bind_iff, Yields.lift_iff, Yields.ret_iff, resolved]
  constructor
  · rintro ⟨finger, t, _, _, ⟨same, rfl⟩, _, begun, glows, captured, scanned, scan, outcome, u,
      judged, _, _, _, rfl, rfl⟩
    cases same
    cases captured with
    | error e =>
      obtain ⟨no, _⟩ := Yields.ret_iff.mp judged
      cases no
    | ok result =>
      obtain ⟨found, released, looked, owner⟩ := Yields.bind_iff.mp judged
      cases found with
      | error e =>
        obtain ⟨no, _⟩ := Yields.ret_iff.mp owner
        cases no
      | ok report =>
        obtain ⟨accepted, start, timed, interrupt, interrupted, rsp, replied, starts, clock,
          waits, three, answers, reports, releases⟩ :=
          matchFinger_yields.mp (Yields.attempt_ok_iff.mp looked)
        obtain ⟨user, fetched, same, _⟩ := owned_matched.mp owner
        exact ⟨⟨result, begun, scanned, glows, Yields.attempt_ok_iff.mp scan, accepted, starts,
          start, timed, clock, interrupt, interrupted, waits, three, rsp, replied, answers,
          report, reports, released, releases⟩, readsBack_iff.mpr ⟨user, _, fetched, same⟩⟩
  · rintro ⟨m, readsBack⟩
    obtain ⟨user, u, fetched, same⟩ := readsBack_iff.mp readsBack
    have looked := matchFinger_yields.mpr ⟨_, _, _, _, _, _, _, m.starts, m.clock, m.waits,
      m.three, m.answers, m.reports, m.releases⟩
    obtain ⟨t, glow⟩ := Usb.ignore_exchange_yields w glowEndScanCmd "glow end" u
    refine ⟨fingerName m.report.subtype, t, sid, s, ⟨rfl, rfl⟩, (), m.begun, m.glows,
      .ok m.result, m.scanned, Yields.attempt_ok_iff.mpr m.captured, _, u, ?_, (), t, glow, rfl,
      rfl⟩
    refine Yields.bind_iff.mpr ⟨.ok m.report, m.released, Yields.attempt_ok_iff.mpr looked, ?_⟩
    exact owned_matched.mpr ⟨user, fetched, same, rfl⟩

theorem Matched.det (m m' : Matched w mine fuel calib cfg timeout s) :
    m.report = m'.report ∧ m.released = m'.released := by
  obtain ⟨_, begun⟩ := m.glows.det m'.glows
  have captured := m.captured
  rw [begun] at captured
  obtain ⟨_, scanned⟩ := captured.det m'.captured
  have looked := matchFinger_yields.mpr ⟨_, _, _, _, _, _, _, m.starts, m.clock, m.waits,
    m.three, m.answers, m.reports, m.releases⟩
  have looked' := matchFinger_yields.mpr ⟨_, _, _, _, _, _, _, m'.starts, m'.clock, m'.waits,
    m'.three, m'.answers, m'.reports, m'.releases⟩
  rw [scanned] at looked
  exact looked.det looked'

/-- A match is only ever the user's if and only if no reported id above 0xffff has low 16 bits
that name a record of the user. -/
theorem verify_match_owned {passwd : Except String Text} {username : Text}
    (resolved : sidForUser passwd username = .ok sid) :
    MatchOwned w mine fuel calib cfg timeout sid s passwd username ↔
      ∀ m : Matched w mine fuel calib cfg timeout s, m.report.userDbid.toNat ≤ 0xffff ∨
        ¬ ReadsBack w sid m.released m.report.userDbid.toUInt16 := by
  have matched : (∃ finger t, Yields (verify w passwd username mine fuel calib cfg timeout) s
      (.matched finger) t) ↔ ∃ m : Matched w mine fuel calib cfg timeout s,
        ReadsBack w sid m.released m.report.userDbid.toUInt16 := verify_matched_iff resolved
  constructor
  · intro owned m
    by_contra wide
    rw [not_or, not_not] at wide
    obtain ⟨finger, t, run⟩ := matched.mpr ⟨m, wide.2⟩
    obtain ⟨m', dbid, same, _⟩ := owned finger t run
    rw [(m'.det m).1] at same
    have room := dbid.toNat_lt
    omega
  · intro narrow finger t run
    obtain ⟨m, readsBack⟩ := matched.mp ⟨finger, t, run⟩
    have small := (narrow m).resolve_right (not_not.mpr readsBack)
    refine ⟨m, m.report.userDbid.toUInt16, ?_, readsBack⟩
    rw [UInt32.toNat_toUInt16]
    omega

/-- A sensor that scans at once and reports a match of the user `id`; the one record it has is
record 5, which is ann's. -/
def matching (id : UInt32) : Usb.World Nat
  | .cmd (0x51 :: _), s => (.ok ([0, 0] ++ Bytes.le32 12 ++ List.replicate 12 0), s)
  | .cmd (0x60 :: _), s =>
    (.ok ([0, 0] ++ Bytes.le16 14 ++ [1, 0, 4, 0] ++ Bytes.le32 id ++ [3, 0, 2, 0, 2, 0]), s)
  | .cmd (0x4a :: 5 :: 0 :: _), s =>
    (.ok ([0, 0, 5, 0, 0, 0, 0, 0] ++ Bytes.le16 0x4c ++ Sid.identityToBytes (syntheticSid 1000)),
      s)
  | .cmd _, s => (.ok [0, 0], s)
  | .pollInterrupt, 0 => (.ok (some [0]), 1)
  | .pollInterrupt, 1 => (.ok (some [2]), 2)
  | .pollInterrupt, s => (.ok (some [3, 0, 4]), s)
  | .readData, s => (.ok [], s)
  | .now, s => (0, s)
  | .current, s => (1, s)
  | .onStage _ _, s => ((), s)

def annsPasswd : Except String Text := .ok "ann:x:1000:1000::/home/ann:/bin/sh\n".toList

theorem ann_resolved : sidForUser annsPasswd "ann".toList = .ok (syntheticSid 1000) := by
  decide +kernel

theorem matching_reports {id : UInt32} {m : MatchResult} {rsp : Bytes} {s s' : Nat}
    (answers : matching id (.cmd [0x60, 0x00, 0x00, 0x00, 0x00]) s = (.ok rsp, s'))
    (reports : Reports rsp m) : m.userDbid = id := by
  cases answers
  have parsed := parseMatch_ok.mpr reports
  have whole : parseMatch (Bytes.le16 14 ++ [1, 0, 4, 0] ++ Bytes.le32 id ++ [3, 0, 2, 0, 2, 0]) =
      .ok ⟨Bytes.fromLe32 (UInt8.ofNat id.toNat) (UInt8.ofNat (id.toNat / 256))
        (UInt8.ofNat (id.toNat / 65536)) (UInt8.ofNat (id.toNat / 16777216)), 2, []⟩ := rfl
  rw [Bytes.fromLe32_le32] at whole
  obtain rfl := Outcome.ok.inj (whole.symm.trans parsed)
  rfl

theorem verify_match_owned_narrow :
    (∃ finger, (verify (matching 5) annsPasswd "ann".toList none 4 ⟨[]⟩ Enroll.smallConfig 10
      0).out = .ok (.matched finger)) ∧
    MatchOwned (matching 5) none 4 ⟨[]⟩ Enroll.smallConfig 10 (syntheticSid 1000) 0 annsPasswd
      "ann".toList := by
  refine ⟨⟨"right-index-finger", by decide +kernel⟩, (verify_match_owned ann_resolved).mpr ?_⟩
  intro m
  rw [matching_reports m.answers m.reports]
  exact .inl (by decide)

/-- Record 5 stands in for the record 0x10005 the sensor reported. -/
theorem verify_match_foreign : sidForUser annsPasswd "ann".toList = .ok (syntheticSid 1000) ∧
    ¬ MatchOwned (matching 0x10005) none 4 ⟨[]⟩ Enroll.smallConfig 10 (syntheticSid 1000) 0
      annsPasswd "ann".toList := by
  refine ⟨ann_resolved, fun owned => ?_⟩
  have run : (verify (matching 0x10005) annsPasswd "ann".toList none 4 ⟨[]⟩ Enroll.smallConfig 10
      0).out = .ok (.matched "right-index-finger") := by decide +kernel
  obtain ⟨m, dbid, same, _⟩ := owned _ _ ⟨run, rfl⟩
  rw [matching_reports m.answers m.reports] at same
  have room := dbid.toNat_lt
  rw [same] at room
  exact absurd room (by decide)

end ValidityFprintd.Device
