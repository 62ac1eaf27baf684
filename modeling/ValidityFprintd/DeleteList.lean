import Mathlib.Data.List.Forall2
import ValidityFprintd.HonestSensor
import ValidityFprintd.Returns
import ValidityFprintd.Traffic

/-! Deleting a user's fingers, and what listing and verification make of the rest. Deletion
asks the sensor for one record, by the exact bytes of the identity; listing and verification
decode every record and compare what it says. -/

namespace ValidityFprintd.DeleteList
open Effect Db Records Database Device

variable {S : Type} {w : Usb.World S}

/-- The sensor's key and the decoded identities single out the same record. -/
structure Agrees (db : Database) (sid : SidIdentity) : Prop where
  /-- Every user that is listed can be decoded. -/
  readable : ∀ s, db.mainStorage = some s → ∀ u ∈ db.usersOf s.dbid,
    ∃ identity, Sid.parseIdentity u.identity = .ok identity
  /-- No other record that reads as the user has a finger. -/
  single : ∀ u ∈ db.users, db.fingersOf u.dbid ≠ [] → Sid.parseIdentity u.identity = .ok sid →
    db.keyed sid = some u

section Claim

variable (h : Honest w) (passwd : Except String Text) (username : Text) (s : S)

/-- Nothing is listed, and nothing that is left is taken for a finger of the user: neither
by the check behind a match nor by a whole verification. -/
structure Forgotten : Prop where
  listed : (listEnrolledFingers w passwd username s).out = .ok []
  owned : ∀ sid m, sidForUser passwd username = .ok sid →
    (∃ f ∈ (h.db s).fingers, f.user = m.userDbid.toUInt16 ∧ f.ref.subtype = m.subtype) →
    ∀ t, h.db t = h.db s → ∀ finger, (owned w sid m t).out ≠ .ok (.matched finger)
  verified : ∀ mine fuel calib cfg timeout t, h.db t = h.db s → ∀ finger,
    (verify w passwd username mine fuel calib cfg timeout t).out ≠ .ok (.matched finger)

/-- Once a user's fingers are deleted, the user is forgotten. -/
def DeletionComplete : Prop :=
  ∀ n t l, deleteEnrolledFingers w passwd username s = ⟨.ok n, t, l⟩ →
    Forgotten h passwd username t

end Claim

/-! What is left of the database behind a deletion. -/

section Left

variable (db : Database) (sid : SidIdentity)

def left : Database := db.without (db.doomed sid)

variable {db sid}

theorem doomed_fingers {dbid : UInt16} (h : dbid ∈ db.doomed sid) :
    ∃ f ∈ db.fingers, f.ref.dbid = dbid := by
  obtain ⟨_, f, _, hf, _, same⟩ := doomed_mem h
  exact ⟨f, hf, same⟩

theorem left_users : (left db sid).users = db.users := without_users fun _ => doomed_fingers

theorem left_storages : (left db sid).storages = db.storages :=
  without_storages fun _ => doomed_fingers

theorem left_fetch (dbid : UInt16) : (left db sid).fetch dbid = db.fetch dbid := by
  simp only [fetch, user?, userOf?, left_users]

theorem mem_left {f : FingerRecord} :
    f ∈ (left db sid).fingers ↔ f ∈ db.fingers ∧ ∀ u, db.keyed sid = some u → f.user ≠ u.dbid := by
  simp only [left, without, List.mem_filter, decide_eq_true_eq]
  refine and_congr_right fun hf => ?_
  constructor
  · intro kept u key user
    refine kept ?_
    rw [doomed, key]
    exact List.mem_map.mpr ⟨f.ref, mem_fingersOf.mpr (user ▸ hf), rfl⟩
  · intro other doomed
    obtain ⟨u, g, key, hg, user, same⟩ := doomed_mem doomed
    rw [fingers_inj hg hf same] at user
    exact other u key user

theorem left_fingersOf {u : UserRecord} (hu : u ∈ db.users) :
    (left db sid).fingersOf u.dbid = if db.keyed sid = some u then [] else db.fingersOf u.dbid := by
  have kept : (left db sid).fingersOf u.dbid =
      ((db.fingers.filter fun f => f.user = u.dbid).filter fun f => f.ref.dbid ∉ db.doomed sid).map
        FingerRecord.ref := by
    simp only [fingersOf, left, without, List.filter_filter, Bool.and_comm]
  have doomed_iff : ∀ f ∈ db.fingers.filter fun f => f.user = u.dbid,
      (f.ref.dbid ∈ db.doomed sid ↔ db.keyed sid = some u) := by
    intro f hf
    obtain ⟨hf, user⟩ := List.mem_filter.mp hf
    have user : f.user = u.dbid := by simpa using user
    have gone : f ∈ (left db sid).fingers ↔
        f ∈ db.fingers ∧ ∀ u, db.keyed sid = some u → f.user ≠ u.dbid := mem_left
    simp only [left, without, List.mem_filter, decide_eq_true_eq, hf, true_and] at gone
    rw [← not_iff_not, gone]
    constructor
    · intro other key
      exact other u key user
    · intro notKeyed v key same
      refine notKeyed ?_
      rw [key, users_inj (keyed_mem key).1 hu (same.symm.trans user)]
  by_cases key : db.keyed sid = some u
  · rw [if_pos key, kept, List.filter_eq_nil_iff.mpr, List.map_nil]
    intro f hf
    simp [(doomed_iff f hf).mpr key]
  · rw [if_neg key, kept, fingersOf, List.filter_eq_self.mpr]
    intro f hf
    have other := mt (doomed_iff f hf).mp key
    simpa using other

end Left

/-! What the listing says of a database. -/

theorem listEnrolled_lands (h : Honest w) {passwd : Except String Text} {username : Text}
    {sid : SidIdentity} (resolved : sidForUser passwd username = .ok sid) {s : S} {D : Database}
    (at' : h.db s = D) : Lands h.db (listEnrolledFingers w passwd username) s
      (D.listed >>= fun users => .ok (namesOf sid users)) D := by
  have lifted : Lands h.db (Act.lift (sidForUser passwd username) : Usb.Drv S SidIdentity) s
      (.ok sid) D := by
    rw [resolved]
    exact ⟨rfl, at'⟩
  refine lifted.bind_ok fun t seen => (h.listUsers_lands seen).bind fun users t' seen' => ?_
  exact .ret _ seen'

theorem decoded_ok {db : Database} {u : UserRecord} {user : User} :
    db.decoded u = .ok user ↔ ∃ identity, Sid.parseIdentity u.identity = .ok identity ∧
      user = ⟨u.dbid, identity, db.fingersOf u.dbid⟩ := by
  simp only [decoded, Outcome.bind_eq_ok, Outcome.ok.injEq]
  exact exists_congr fun _ => and_congr_right fun _ => eq_comm

theorem namesOf_eq_nil {sid : SidIdentity} {users : List User} :
    namesOf sid users = [] ↔ ∀ u ∈ users, u.identity = sid → u.fingers = [] := by
  simp only [namesOf, List.flatMap_eq_nil_iff, List.mem_filter, decide_eq_true_eq,
    List.map_eq_nil_iff, and_imp]

theorem mem_listed {db : Database} {s : StorageRecord} {u : UserRecord} :
    u ∈ db.usersOf s.dbid ↔ u ∈ db.users ∧ u.storage = s.dbid := by
  simp only [usersOf, List.mem_filter, decide_eq_true_eq]

/-- The listing comes out empty exactly if every user of the storage can be decoded and
none that reads as the user has a finger. -/
theorem listed_empty {db : Database} {sid : SidIdentity} :
    (db.listed >>= fun users => (.ok (namesOf sid users) : Outcome String (List String))) = .ok [] ↔
      ∀ s, db.mainStorage = some s → ∀ u ∈ db.usersOf s.dbid,
        ∃ identity, Sid.parseIdentity u.identity = .ok identity ∧
          (identity = sid → db.fingersOf u.dbid = []) := by
  unfold listed
  cases storage : db.mainStorage with
  | none => simp [namesOf]
  | some s =>
    simp only [Outcome.bind_eq_ok, Outcome.ok.injEq, Outcome.each_eq_ok, namesOf_eq_nil,
      Option.some.injEq, forall_eq']
    constructor
    · rintro ⟨users, rows, empty⟩ u hu
      obtain ⟨i, hi, rfl⟩ := List.mem_iff_getElem.mp hu
      have inside : i < users.length := by
        rw [← rows.length_eq]
        exact hi
      obtain ⟨identity, parsed, row⟩ :=
        decoded_ok.mp (List.forall₂_iff_get.mp rows |>.2 i hi inside)
      refine ⟨identity, parsed, fun same => ?_⟩
      have none := empty (users.get ⟨i, inside⟩) (List.get_mem _ _)
      rw [row] at none
      exact none same
    · intro all
      have each : ∀ l : List UserRecord, (∀ u ∈ l, u ∈ db.usersOf s.dbid) →
          ∃ users, List.Forall₂ (fun u user => db.decoded u = .ok user) l users ∧
            ∀ user ∈ users, user.identity = sid → user.fingers = [] := by
        intro l hl
        induction l with
        | nil => exact ⟨[], .nil, by simp⟩
        | cons u l ih =>
          obtain ⟨users, rows, empty⟩ := ih fun v hv => hl v (by simp [hv])
          obtain ⟨identity, parsed, none⟩ := all u (hl u (by simp))
          refine ⟨_ :: users, .cons (decoded_ok.mpr ⟨identity, parsed, rfl⟩) rows, ?_⟩
          intro user huser same
          cases List.mem_cons.mp huser with
          | inl first =>
            rw [first] at same ⊢
            exact none same
          | inr rest => exact empty user rest same
      exact each _ fun u hu => hu

/-! What the check behind a match says. -/

theorem owned_matched (h : Honest w) {s : S} {D : Database} (at' : h.db s = D) {sid : SidIdentity}
    {m : Capture.MatchResult} : (∃ finger, (owned w sid m s).out = .ok (.matched finger)) ↔
      ∃ u, D.fetch m.userDbid.toUInt16 = some u ∧ Sid.parseIdentity u.identity = .ok sid := by
  cases found : D.fetch m.userDbid.toUInt16 with
  | none =>
    obtain ⟨e, missing⟩ := h.getUser_missing at' found
    have run : Lands h.db (owned w sid m) s (.ok .noMatch) D :=
      missing.attempt_err.bind_ok fun t seen => .ret _ seen
    simp [run.1]
  | some u =>
    have fetched := h.getUser_found at' found
    simp only [Option.some.injEq, exists_eq_left']
    have parsed := Sid.parseIdentity_returned u.identity
    cases identity : Sid.parseIdentity u.identity with
    | ok i =>
      have user : D.decoded u = .ok ⟨u.dbid, i, D.fingersOf u.dbid⟩ :=
        decoded_ok.mpr ⟨i, identity, rfl⟩
      rw [user] at fetched
      by_cases same : i = sid
      · have run : Lands h.db (owned w sid m) s (.ok (.matched (fingerName m.subtype))) D :=
          fetched.attempt_ok.bind_ok fun t seen =>
            .ite (fun _ => .ret _ seen) fun no => absurd same no
        simp [run.1, same]
      · have run : Lands h.db (owned w sid m) s (.ok .noMatch) D :=
          fetched.attempt_ok.bind_ok fun t seen =>
            .ite (fun yes => absurd yes same) fun _ => .ret _ seen
        simp [run.1, same]
    | err e =>
      rw [decoded, identity] at fetched
      have run : Lands h.db (owned w sid m) s (.ok .noMatch) D :=
        fetched.attempt_err.bind_ok fun t seen => .ret _ seen
      simp [run.1]
    | panic =>
      rw [identity] at parsed
      simp [Returned, Outcome.kind] at parsed
    | stuck =>
      rw [identity] at parsed
      simp [Returned, Outcome.kind] at parsed

/-! A verification changes nothing, and only the check behind a match can make it one. -/

section Verification

open World Traffic Capture

variable (h : Honest w)

theorem matchFinger_enrolled {fuel : Nat} {m : MatchResult} {s t : S}
    (run : Yields (matchFinger w fuel) s m t) : h.db t = h.db s ∧
      ∃ f ∈ (h.db s).fingers, f.user = m.userDbid.toUInt16 ∧ f.ref.subtype = m.subtype := by
  have quiet := everyday_unchanged h.keeps
  have command : ∀ c rest, c ≠ 0x02 → c ≠ 0x47 → c ≠ 0x48 →
      Respects (fun s _ t => h.db t = h.db s) (Usb.cmd w (c :: rest)) :=
    fun c rest h02 h47 h48 => cmd_respects (quiet.cmd c rest h02 h47 h48)
  obtain ⟨result, u, tried, rest⟩ := Yields.bind_iff.mp run
  obtain ⟨_, v, stopped, ends⟩ := Yields.bind_iff.mp rest
  obtain ⟨rfl, rfl⟩ := Yields.lift_iff.mp ends
  have stop : Respects (fun s _ t => h.db t = h.db s)
      (Act.ignore (Usb.cmd w [0x62, 0x00, 0x00, 0x00, 0x00])) :=
    .ignore (command _ _ (by decide) (by decide) (by decide))
  obtain ⟨_, seen5⟩ := stop.yields stopped
  obtain ⟨_, s1, started, rest⟩ := Yields.bind_iff.mp (Yields.attempt_ok_iff.mp tried)
  obtain ⟨start, s2, clock, rest⟩ := Yields.bind_iff.mp rest
  obtain ⟨b, s3, waited, rest⟩ := Yields.bind_iff.mp rest
  obtain ⟨_, s4, three, rest⟩ := Yields.bind_iff.mp rest
  obtain ⟨_, rfl⟩ := Yields.bailIf_iff.mp three
  obtain ⟨rsp, s5, asked, read⟩ := Yields.bind_iff.mp rest
  obtain ⟨parsed, rfl⟩ := Yields.ofOutcome_iff.mp read
  obtain ⟨_, seen1⟩ :=
    (exchange_respects (quiet.cmd _ _ (by decide) (by decide) (by decide)) _).yields
    started
  obtain ⟨_, seen2⟩ := Respects.yields (R := fun s _ t => h.db t = h.db s) quiet.now clock
  obtain ⟨_, seen3⟩ := (waitInt_respects quiet.idle fuel _).yields waited
  obtain ⟨_, seen4⟩ :=
    (request_respects (quiet.cmd _ _ (by decide) (by decide) (by decide)) _).yields asked
  obtain ⟨rsp', s6, sent, checked⟩ := Yields.bind_iff.mp asked
  obtain ⟨_, s7, _, same⟩ := Yields.bind_iff.mp checked
  obtain ⟨rfl, _⟩ := Yields.ret_iff.mp same
  have answer := congrArg Prod.fst (Usb.cmd_yields.mp sent)
  have enrolled := h.matchesEnrolled s3 rsp' m answer parsed
  have before : h.db s3 = h.db s := seen3.trans (seen2.trans seen1)
  rw [before] at enrolled
  exact ⟨seen5.trans (seen4.trans before), enrolled⟩

theorem verify_matched {passwd : Except String Text} {username : Text} {mine : Option Nat}
    {fuel : Nat} {calib : Calibration} {cfg : SensorConfig} {timeout : Nat} {s : S}
    {finger : String}
    (run : (verify w passwd username mine fuel calib cfg timeout s).out = .ok (.matched finger)) :
    ∃ sid m t, sidForUser passwd username = .ok sid ∧ h.db t = h.db s ∧
      (∃ f ∈ (h.db s).fingers, f.user = m.userDbid.toUInt16 ∧ f.ref.subtype = m.subtype) ∧
      (owned w sid m t).out = .ok (.matched finger) := by
  have quiet := everyday_unchanged h.keeps
  obtain ⟨sid, s1, lifted, rest⟩ := Yields.bind_iff.mp ⟨run, rfl⟩
  obtain ⟨resolved, rfl⟩ := Yields.lift_iff.mp lifted
  obtain ⟨_, s2, glow, rest⟩ := Yields.bind_iff.mp rest
  obtain ⟨captured, s3, scanned, rest⟩ := Yields.bind_iff.mp rest
  obtain ⟨outcome, s4, judged, rest⟩ := Yields.bind_iff.mp rest
  obtain ⟨_, s5, _, rest⟩ := Yields.bind_iff.mp rest
  obtain ⟨rfl, _⟩ := Yields.ret_iff.mp rest
  obtain ⟨_, seen1⟩ := Respects.yields (R := fun s _ t => h.db t = h.db s)
    (.ignore (glowStartScan_respects quiet)) glow
  obtain ⟨_, seen2⟩ := Respects.yields (R := fun s _ t => h.db t = h.db s)
    (.attempt (capture_respects quiet (ask_unchanged h.keeps rfl)
      (fun _ => ask_unchanged h.keeps rfl) _ _ _ _ _ _))
    scanned
  have before : h.db s3 = h.db s := seen2.trans seen1
  cases captured with
  | error e =>
    obtain ⟨no, _⟩ := Yields.ret_iff.mp judged
    cases no
  | ok scan =>
    obtain ⟨found, s6, looked, owner⟩ := Yields.bind_iff.mp judged
    cases found with
    | error e =>
      obtain ⟨no, _⟩ := Yields.ret_iff.mp owner
      cases no
    | ok m =>
      obtain ⟨kept, enrolled⟩ := matchFinger_enrolled h (Yields.attempt_ok_iff.mp looked)
      rw [before] at kept enrolled
      exact ⟨sid, m, s6, resolved, kept, enrolled, owner.1⟩

end Verification

theorem fetch_dbid {db : Database} {dbid : UInt16} {u : UserRecord} {sid : SidIdentity}
    (found : db.fetch dbid = some u) (parsed : Sid.parseIdentity u.identity = .ok sid) :
    u.dbid = dbid := by
  unfold fetch at found
  split at found
  · simpa using List.find?_some found
  · -- without an id the sensor looks for an empty identity, which is nobody's
    have empty := List.find?_some found
    simp only [decide_eq_true_eq] at empty
    rw [empty.2] at parsed
    cases parsed

section Behind

variable (h : Honest w) {sid : SidIdentity} {D : Database} {t : S} (at' : h.db t = left D sid)

include at'

theorem Agrees.unowned (agrees : Agrees D sid) {m : Capture.MatchResult}
    (kept : ∃ f ∈ (h.db t).fingers, f.user = m.userDbid.toUInt16 ∧ f.ref.subtype = m.subtype)
    {t' : S} (same : h.db t' = h.db t) (finger : String) :
    (owned w sid m t').out ≠ .ok (.matched finger) := by
  intro run
  obtain ⟨f, hf, user, _⟩ := kept
  obtain ⟨u, found, parsed⟩ := (owned_matched h (same.trans at')).mp ⟨finger, run⟩
  rw [left_fetch] at found
  have dbid := fetch_dbid found parsed
  rw [at'] at hf
  obtain ⟨hf, other⟩ := mem_left.mp hf
  have held : f.ref ∈ D.fingersOf u.dbid := by
    rw [mem_fingersOf, dbid, ← user]
    exact hf
  have key := agrees.single u (fetch_mem found) (List.ne_nil_of_mem held) parsed
  exact other u key (user.trans dbid.symm)

theorem owned_left {u : UserRecord} {ref : FingerRef} (hu : u ∈ D.users)
    (parsed : Sid.parseIdentity u.identity = .ok sid) :
    ∃ finger, (owned w sid ⟨u.dbid.toUInt32, ref.subtype, []⟩ t).out = .ok (.matched finger) := by
  have back : u.dbid.toUInt32.toUInt16 = u.dbid := by simp
  have nonzero : u.dbid ≠ 0 := ids_ne_zero (mem_ids.mpr (.inr (.inl ⟨u, hu, rfl⟩)))
  refine (owned_matched h at').mpr ⟨u, ?_, parsed⟩
  rw [back, left_fetch, fetch, if_pos nonzero, user?_of_mem hu]

variable {passwd : Except String Text} {username : Text}
  (resolved : sidForUser passwd username = .ok sid)

include resolved

theorem listed_left_iff : (listEnrolledFingers w passwd username t).out = .ok [] ↔
    ∀ s, D.mainStorage = some s → ∀ u ∈ D.usersOf s.dbid,
      ∃ identity, Sid.parseIdentity u.identity = .ok identity ∧
        (identity = sid → (left D sid).fingersOf u.dbid = []) := by
  have main : (left D sid).mainStorage = D.mainStorage :=
    mainStorage_of_storages (left_storages ..)
  rw [(listEnrolled_lands h resolved at').1, listed_empty, main]
  simp only [usersOf, left_users]

theorem Forgotten.agrees (forgotten : Forgotten h passwd username t) : Agrees D sid := by
  have readable := (listed_left_iff h at' resolved).mp forgotten.listed
  refine ⟨fun s hs u hu => ?_, fun u hu some' parsed => ?_⟩
  · obtain ⟨identity, parsed, _⟩ := readable s hs u hu
    exact ⟨identity, parsed⟩
  · by_contra other
    obtain ⟨ref, href⟩ := List.exists_mem_of_ne_nil _ some'
    have kept : ⟨u.dbid, ref⟩ ∈ (left D sid).fingers := by
      refine mem_left.mpr ⟨mem_fingersOf.mp href, fun v key same => ?_⟩
      refine other ?_
      rw [key, users_inj (keyed_mem key).1 hu same.symm]
    have back : u.dbid.toUInt32.toUInt16 = u.dbid := by simp
    obtain ⟨finger, run⟩ := owned_left h at' hu parsed
    exact forgotten.owned sid _ resolved ⟨⟨u.dbid, ref⟩, by rw [at']; exact kept, back.symm, rfl⟩
      t rfl finger run

theorem Agrees.forgotten (agrees : Agrees D sid) : Forgotten h passwd username t := by
  refine ⟨(listed_left_iff h at' resolved).mpr fun s hs u hu => ?_, ?_, ?_⟩
  · obtain ⟨identity, parsed⟩ := agrees.readable s hs u hu
    refine ⟨identity, parsed, fun same => ?_⟩
    have hu := (mem_listed.mp hu).1
    rw [left_fingersOf hu]
    by_cases key : D.keyed sid = some u
    · rw [if_pos key]
    · rw [if_neg key]
      by_contra some'
      exact key (agrees.single u hu some' (same ▸ parsed))
  · intro sid' m resolved' kept t' same finger
    rw [resolved] at resolved'
    cases resolved'
    exact agrees.unowned h at' kept same finger
  · intro mine fuel calib cfg timeout t' same finger run
    obtain ⟨sid', m, t'', resolved', kept, enrolled, owner⟩ := verify_matched h run
    rw [resolved] at resolved'
    cases resolved'
    rw [same] at kept enrolled
    exact agrees.unowned h at' enrolled kept finger owner

/-- Behind a deletion the user is forgotten exactly if key and decoded identity agree. -/
theorem forgotten_iff : Forgotten h passwd username t ↔ Agrees D sid :=
  ⟨Forgotten.agrees h at' resolved, Agrees.forgotten h at' resolved⟩

end Behind

/-- Deleting a user's fingers makes the user forgotten exactly where the sensor's key and
the decoded identities agree about who the user is. -/
theorem delete_agrees (h : Honest w) (passwd : Except String Text) (username : Text) (s : S) :
    DeletionComplete h passwd username s ↔
      ∀ sid, sidForUser passwd username = .ok sid → Agrees (h.db s) sid := by
  have deleted : ∀ sid, sidForUser passwd username = .ok sid →
      Lands h.db (deleteEnrolledFingers w passwd username) s
        (.ok ((h.db s).doomed sid).length) (left (h.db s) sid) := by
    intro sid resolved
    have lifted : Lands h.db (Act.lift (sidForUser passwd username) : Usb.Drv S SidIdentity) s
        (.ok sid) (h.db s) := by
      rw [resolved]
      exact ⟨rfl, rfl⟩
    exact lifted.bind_ok fun t seen => h.deleteAllFingers_lands seen (sidForUser_fits resolved)
  constructor
  · intro complete sid resolved
    have run := deleted sid resolved
    rcases done : deleteEnrolledFingers w passwd username s with ⟨out, t, l⟩
    rw [Lands, done] at run
    obtain ⟨rfl, at'⟩ := run
    exact (forgotten_iff h at' resolved).mp (complete _ t l done)
  · intro agrees n t l done
    obtain ⟨sid, u, _, _, lifted, _, _⟩ := Act.bind_eq_ok.mp done
    obtain ⟨resolved, _, _⟩ := Act.lift_eq_ok.mp lifted
    have run := deleted sid resolved
    rw [Lands, done] at run
    exact (forgotten_iff h run.2 resolved).mpr (agrees sid resolved)

/-- A sensor that is its database. -/
def sensor : Usb.World Database
  | .cmd out, db => (.ok ((db.reply out).getD [0, 0]), db.after out)
  | .pollInterrupt, db => (.ok none, db)
  | .readData, db => (.ok [], db)
  | .now, db => (0, db)
  | .current, db => (1, db)
  | .onStage _ _, db => ((), db)

def sensorHonest : Honest sensor where
  db := id
  answers := by
    intro out db rsp h
    show Except.ok ((db.reply out).getD [0, 0]) = _
    rw [show db.reply out = some rsp from h, Option.getD_some]
  deletes := fun dbid db => db.after_deletion dbid
  keeps := by
    intro q db hq
    cases q with
    | cmd out => exact db.after_quiet hq
    | _ => rfl
  matchesEnrolled := by
    intro db rsp m h parsed
    cases h
    cases parsed

/-- A user whose identity someone else stored without the padding, one finger with it. -/
def unpadded : Database where
  storages := [⟨3, storageName ++ [0]⟩]
  users := [⟨11, 3, Bytes.le32 3 ++ Bytes.le32 28 ++ (syntheticSid 1000).toBytes⟩]
  fingers := [⟨11, 12, 2, 3, 200⟩]
  distinct := by decide
  names := mainStorage_fits
  identities := by decide

def onePasswd : Except String Text := .ok "ann:x:1000:1000::/home/ann:/bin/sh\n".toList

/-- The deletion succeeds without deleting anything, and the finger is still listed. -/
theorem delete_incomplete : ¬ DeletionComplete sensorHonest onePasswd "ann".toList unpadded := by
  intro complete
  have deleted : (deleteEnrolledFingers sensor onePasswd "ann".toList unpadded).out = .ok 0 := by
    decide +kernel
  have listed : (listEnrolledFingers sensor onePasswd "ann".toList
      (deleteEnrolledFingers sensor onePasswd "ann".toList unpadded).state).out =
      .ok ["right-index-finger"] := by
    decide +kernel
  have empty := (complete 0 _ _ (by rw [← deleted])).listed
  rw [listed] at empty
  cases empty

end ValidityFprintd.DeleteList
