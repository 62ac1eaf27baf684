import ValidityFprintd.Device
import ValidityFprintd.Records

/-! The driver's database functions on an honest sensor: what each returns, and what it
leaves in the database. -/

namespace ValidityFprintd.Records
open Effect Db

variable {S : Type} {w : Usb.World S}

/-- A sensor that answers from its database, changes it by the commands alone, and matches
enrolled fingers only. -/
structure Honest (w : Usb.World S) where
  db : S → Database
  answers : ∀ out s rsp, (db s).reply out = some rsp → (w (.cmd out) s).1 = .ok rsp
  deletes : ∀ dbid s, db (w (.cmd (0x48 :: Bytes.le16 dbid)) s).2 = (db s).without [dbid]
  keeps : ∀ q s, Changes q = false → db (w q s).2 = db s
  matchesEnrolled : ∀ s rsp m, (w (.cmd [0x60, 0, 0, 0, 0]) s).1 = .ok rsp →
    Capture.parseMatch (rsp.drop 2) = .ok m →
    ∃ f ∈ (db s).fingers, f.user = m.userDbid.toUInt16 ∧ f.ref.subtype = m.subtype

namespace Database

variable (db : Database)

/-- The record a query by id finds. Id 0 asks for an empty identity instead. -/
def fetch (dbid : UInt16) : Option UserRecord :=
  if dbid ≠ 0 then db.user? dbid else db.userOf? 0 []

/-- The storage the driver keeps its users in. -/
def mainStorage : Option StorageRecord := db.storage? (storageName ++ [0])

/-- The record the sensor knows an identity by. -/
def keyed (sid : SidIdentity) : Option UserRecord :=
  db.mainStorage.bind fun s => db.userOf? s.dbid (Sid.identityToBytes sid)

/-- The fingers of that record. -/
def doomed (sid : SidIdentity) : List UInt16 :=
  match db.keyed sid with
  | some u => (db.fingersOf u.dbid).map FingerRef.dbid
  | none => []

def listed : Outcome String (List User) :=
  match db.mainStorage with
  | some s => Outcome.each db.decoded (db.usersOf s.dbid)
  | none => .ok []

variable {db}

theorem reply_userQuery (dbid : UInt16) :
    db.reply (userQuery dbid) = some (found ((db.fetch dbid).map db.userReply)) := by
  simp only [userQuery, Bytes.le16, List.cons_append, List.nil_append, reply, Bytes.fromLe16_le16]
  rfl

theorem reply_identityQuery (db : Database) (storage : UInt16) (identity : Bytes) :
    db.reply (identityQuery storage identity) =
      some (found ((db.userOf? storage identity).map db.userReply)) := by
  simp only [identityQuery, Bytes.le16, List.cons_append, List.nil_append, reply,
    Bytes.fromLe16_le16]
  rfl

theorem reply_storageQuery :
    db.reply (storageQuery storageName) = some (found (db.mainStorage.map db.storageReply)) := rfl

theorem mainStorage_of_storages {db' : Database} (storages : db'.storages = db.storages) :
    db'.mainStorage = db.mainStorage := by
  rw [mainStorage, mainStorage, storage?, storage?, storages]

theorem fetch_mem {dbid : UInt16} {u : UserRecord} (h : db.fetch dbid = some u) : u ∈ db.users := by
  unfold fetch at h
  split at h
  · exact List.mem_of_find?_eq_some h
  · exact List.mem_of_find?_eq_some h

theorem keyed_mem {sid : SidIdentity} {u : UserRecord} (h : db.keyed sid = some u) :
    u ∈ db.users ∧ u.identity = Sid.identityToBytes sid := by
  obtain ⟨s, _, found⟩ := Option.bind_eq_some_iff.mp h
  have key := List.find?_some found
  simp only [decide_eq_true_eq] at key
  exact ⟨List.mem_of_find?_eq_some found, key.2⟩

theorem keyed_decoded {sid : SidIdentity} (fits : sid.Fits) {u : UserRecord}
    (h : db.keyed sid = some u) : db.decoded u = .ok ⟨u.dbid, sid, db.fingersOf u.dbid⟩ := by
  rw [decoded, (keyed_mem h).2, Sid.parseIdentity_identityToBytes fits]
  rfl

theorem mem_fingersOf {user : UInt16} {ref : FingerRef} :
    ref ∈ db.fingersOf user ↔ ⟨user, ref⟩ ∈ db.fingers := by
  simp only [fingersOf, List.mem_map, List.mem_filter, decide_eq_true_eq]
  constructor
  · rintro ⟨f, ⟨hf, rfl⟩, rfl⟩
    exact hf
  · intro h
    exact ⟨⟨user, ref⟩, ⟨h, rfl⟩, rfl⟩

theorem doomed_mem {sid : SidIdentity} {dbid : UInt16} (h : dbid ∈ db.doomed sid) :
    ∃ u f, db.keyed sid = some u ∧ f ∈ db.fingers ∧ f.user = u.dbid ∧ f.ref.dbid = dbid := by
  unfold doomed at h
  cases key : db.keyed sid with
  | none =>
    rw [key] at h
    cases h
  | some u =>
    rw [key] at h
    obtain ⟨ref, href, rfl⟩ := List.mem_map.mp h
    exact ⟨u, ⟨u.dbid, ref⟩, rfl, mem_fingersOf.mp href, rfl, rfl⟩

theorem doomed_nodup (db : Database) (sid : SidIdentity) : (db.doomed sid).Nodup := by
  unfold doomed
  cases db.keyed sid with
  | none => exact List.nodup_nil
  | some u =>
    have sub : ((db.fingersOf u.dbid).map FingerRef.dbid).Sublist db.ids := by
      rw [fingersOf, List.map_map]
      exact (List.filter_sublist.map _).trans (List.sublist_append_right _ _)
    exact db.ids_nodup.sublist sub

theorem without_nil : db.without [] = db := by
  simp [without]

theorem without_cons (dbid : UInt16) (dbids : List UInt16) :
    (db.without [dbid]).without dbids = db.without (dbid :: dbids) := by
  simp only [without, List.filter_filter, mk.injEq]
  refine ⟨?_, ?_, ?_⟩
  · refine List.filter_congr fun s _ => ?_
    simp [Bool.and_comm]
  · refine List.filter_congr fun u _ => ?_
    simp [Bool.and_comm]
  · refine List.filter_congr fun f _ => ?_
    simp [Bool.and_comm]

/-- Only ids of fingers name fingers, so without some of these no other record is gone. -/
theorem without_users {dbids : List UInt16}
    (fingers : ∀ dbid ∈ dbids, ∃ f ∈ db.fingers, f.ref.dbid = dbid) :
    (db.without dbids).users = db.users := by
  refine List.filter_eq_self.mpr fun u hu => ?_
  have apart : u.dbid ∉ dbids := by
    intro named
    obtain ⟨f, hf, same⟩ := fingers _ named
    exact (finger_id_ne hf).2 u hu same.symm
  simpa using apart

theorem without_storages {dbids : List UInt16}
    (fingers : ∀ dbid ∈ dbids, ∃ f ∈ db.fingers, f.ref.dbid = dbid) :
    (db.without dbids).storages = db.storages := by
  refine List.filter_eq_self.mpr fun s hs => ?_
  have apart : s.dbid ∉ dbids := by
    intro named
    obtain ⟨f, hf, same⟩ := fingers _ named
    exact (finger_id_ne hf).1 s hs same.symm
  simpa using apart

theorem mem_ids_without {dbids : List UInt16} {dbid : UInt16} (h : dbid ∈ db.ids)
    (kept : dbid ∉ dbids) : dbid ∈ (db.without dbids).ids := by
  rw [mem_ids] at h ⊢
  simp only [without, List.mem_filter, decide_eq_true_eq]
  obtain ⟨s, hs, rfl⟩ | ⟨u, hu, rfl⟩ | ⟨f, hf, rfl⟩ := h
  · exact .inl ⟨s, ⟨hs, kept⟩, rfl⟩
  · exact .inr (.inl ⟨u, ⟨hu, kept⟩, rfl⟩)
  · exact .inr (.inr ⟨f, ⟨hf, kept⟩, rfl⟩)

end Database

namespace Honest

variable (h : Honest w) {s : S} {D : Database}

theorem cmd_lands (at' : h.db s = D) {out rsp : Bytes} (answer : D.reply out = some rsp)
    (quiet : Changes (.cmd out) = false) : Lands h.db (Usb.cmd w out) s (.ok rsp) D := by
  have run : Yields (Usb.cmd w out) s rsp (w (.cmd out) s).2 :=
    Usb.cmd_yields.mpr (Prod.ext (h.answers out s rsp (by rw [at', answer])) rfl)
  exact ⟨run.1, by rw [run.2, h.keeps _ _ quiet, at']⟩

theorem statusIs_found (body : Bytes) :
    Usb.statusIs statusNotFound (Database.found (some body)) = false := rfl

theorem found_body (body : Bytes) : (Database.found (some body)).drop 2 = body := rfl

theorem statusIs_none : Usb.statusIs statusNotFound (Database.found none) = true := rfl

theorem checked_found (body : Bytes) {T : Type} :
    (Usb.check (Database.found (some body)) : Act String (Usb.Entry S) T Unit) = Act.ret () := rfl

theorem getUserStorage_lands (at' : h.db s = D) :
    Lands h.db (getUserStorage w storageName) s (.ok (D.mainStorage.map D.storageRead)) D := by
  have quiet : Changes (.cmd (storageQuery storageName)) = false := rfl
  have asked := h.cmd_lands at' Database.reply_storageQuery quiet
  refine asked.bind_ok fun t seen => ?_
  cases storage : D.mainStorage with
  | none =>
    rw [Option.map_none, if_pos statusIs_none]
    exact .ret _ seen
  | some r =>
    have held : r ∈ D.storages := List.mem_of_find?_eq_some storage
    rw [Option.map_some, if_neg (by rw [statusIs_found]; decide), checked_found]
    refine Lands.bind_ok (.ret () seen) fun u seen' => ?_
    refine Lands.bind_ok (a := D.storageRead r) ?_ fun u' seen'' => .ret _ seen''
    rw [found_body, Database.parseUserStorage_reply held]
    exact .ofOutcome _ seen'

theorem getUser_found (at' : h.db s = D) {dbid : UInt16} {u : UserRecord}
    (found : D.fetch dbid = some u) : Lands h.db (getUser w dbid) s (D.decoded u) D := by
  have answer : D.reply (userQuery dbid) = some (Database.found (some (D.userReply u))) := by
    rw [Database.reply_userQuery, found]
    rfl
  refine (h.cmd_lands at' answer rfl).bind_ok fun t seen => ?_
  rw [checked_found]
  refine Lands.bind_ok (.ret () seen) fun t' seen' => ?_
  rw [found_body, Database.parseUser_reply (Database.fetch_mem found)]
  exact .ofOutcome _ seen'

theorem getUser_missing (at' : h.db s = D) {dbid : UInt16} (missing : D.fetch dbid = none) :
    ∃ e, Lands h.db (getUser w dbid) s (.err e) D := by
  have answer : D.reply (userQuery dbid) = some (Database.found none) := by
    rw [Database.reply_userQuery, missing]
    rfl
  refine ⟨_, (h.cmd_lands at' answer rfl).bind_ok fun t seen => Lands.bind_err ⟨rfl, seen⟩⟩

theorem getUser_lands (at' : h.db s = D) {u : UserRecord} (hu : u ∈ D.users) :
    Lands h.db (getUser w u.dbid) s (D.decoded u) D := by
  have nonzero : u.dbid ≠ 0 :=
    Database.ids_ne_zero (Database.mem_ids.mpr (.inr (.inl ⟨u, hu, rfl⟩)))
  exact h.getUser_found at' (by rw [Database.fetch, if_pos nonzero, Database.user?_of_mem hu])

theorem getUsers_lands (at' : h.db s = D) {us : List UserRecord} (hus : ∀ u ∈ us, u ∈ D.users) :
    Lands h.db (getUsers w (us.map fun u => ⟨u.dbid, Bytes.len16 u.identity⟩)) s
      (Outcome.each D.decoded us) D := by
  induction us generalizing s with
  | nil => exact .ret [] at'
  | cons u us ih =>
    refine (h.getUser_lands at' (hus u (by simp))).bind fun user t seen => ?_
    refine (ih seen fun v hv => hus v (by simp [hv])).bind fun users t' seen' => ?_
    exact .ret _ seen'

theorem listUsers_lands (at' : h.db s = D) : Lands h.db (listUsers w) s D.listed D := by
  refine (h.getUserStorage_lands at').bind_ok fun t seen => ?_
  unfold Database.listed
  cases D.mainStorage with
  | none => exact .ret [] seen
  | some r => exact h.getUsers_lands seen fun u hu => (List.mem_filter.mp hu).1

theorem lookupUser_lands (at' : h.db s = D) {sid : SidIdentity} (fits : sid.Fits) :
    Lands h.db (lookupUser w sid) s
      (.ok ((D.keyed sid).map fun u => ⟨u.dbid, sid, D.fingersOf u.dbid⟩)) D := by
  refine (h.getUserStorage_lands at').bind_ok fun t seen => ?_
  cases storage : D.mainStorage with
  | none =>
    rw [Database.keyed, storage]
    exact .ret none seen
  | some r =>
    have same : D.keyed sid = D.userOf? r.dbid (Sid.identityToBytes sid) := by
      rw [Database.keyed, storage]
      rfl
    have answer := D.reply_identityQuery r.dbid (Sid.identityToBytes sid)
    rw [← same] at answer
    refine (h.cmd_lands seen answer rfl).bind_ok fun t' seen' => ?_
    cases key : D.keyed sid with
    | none =>
      rw [Option.map_none, if_pos statusIs_none]
      exact .ret none seen'
    | some u =>
      rw [Option.map_some, if_neg (by rw [statusIs_found]; decide), checked_found]
      refine Lands.bind_ok (.ret () seen') fun t'' seen'' => ?_
      rw [found_body, Database.parseUser_reply (Database.keyed_mem key).1,
        Database.keyed_decoded fits key]
      refine Lands.bind_ok (.ofOutcome _ seen'') fun t''' seen''' => ?_
      exact .ret _ seen'''

theorem delRecord_lands (at' : h.db s = D) {dbid : UInt16} (held : dbid ∈ D.ids) :
    Lands h.db (delRecord w dbid) s (.ok ()) (D.without [dbid]) := by
  have answer : D.reply (0x48 :: Bytes.le16 dbid) = some (Database.found (some [])) := by
    simp only [Bytes.le16, Database.reply, Bytes.fromLe16_le16, if_pos held]
  have run : Yields (Usb.cmd w (0x48 :: Bytes.le16 dbid)) s (Database.found (some []))
      (w (.cmd (0x48 :: Bytes.le16 dbid)) s).2 :=
    Usb.cmd_yields.mpr (Prod.ext (h.answers _ s _ (by rw [at', answer])) rfl)
  have asked : Lands h.db (Usb.cmd w (0x48 :: Bytes.le16 dbid)) s (.ok (Database.found (some [])))
      (D.without [dbid]) := ⟨run.1, by rw [run.2, h.deletes, at']⟩
  have requested : Lands h.db (Usb.request w (0x48 :: Bytes.le16 dbid) "deleting database record") s
      (.ok (Database.found (some []))) (D.without [dbid]) :=
    asked.bind_ok fun t seen => Lands.bind_ok (a := ()) ⟨rfl, seen⟩ fun t' seen' => .ret _ seen'
  exact requested.bind_ok fun t seen => .ret () seen

theorem delRecords_lands (at' : h.db s = D) {dbids : List UInt16} (held : ∀ d ∈ dbids, d ∈ D.ids)
    (nodup : dbids.Nodup) : Lands h.db (delRecords w dbids) s (.ok ()) (D.without dbids) := by
  induction dbids generalizing s D with
  | nil =>
    rw [Database.without_nil]
    exact .ret () at'
  | cons dbid dbids ih =>
    have apart := List.nodup_cons.mp nodup
    refine (h.delRecord_lands at' (held dbid (by simp))).bind_ok fun t seen => ?_
    rw [← Database.without_cons]
    refine ih seen (fun d hd => ?_) apart.2
    refine Database.mem_ids_without (held d (by simp [hd])) ?_
    intro same
    rw [List.mem_singleton.mp same] at hd
    exact apart.1 hd

theorem deleteAllFingers_lands (at' : h.db s = D) {sid : SidIdentity} (fits : sid.Fits) :
    Lands h.db (deleteAllFingers w sid) s (.ok (D.doomed sid).length)
      (D.without (D.doomed sid)) := by
  refine (h.lookupUser_lands at' fits).bind_ok fun t seen => ?_
  unfold Database.doomed
  have held : ∀ d ∈ D.doomed sid, d ∈ D.ids := by
    intro d hd
    obtain ⟨_, f, _, hf, _, rfl⟩ := Database.doomed_mem hd
    exact Database.mem_ids.mpr (.inr (.inr ⟨f, hf, rfl⟩))
  have nodup := D.doomed_nodup sid
  unfold Database.doomed at held nodup
  cases key : D.keyed sid with
  | none =>
    rw [Database.without_nil]
    exact .ret 0 seen
  | some u =>
    rw [key] at held nodup
    have all : (D.fingersOf u.dbid).filter (fun _ => true) = D.fingersOf u.dbid :=
      List.filter_true _
    simp only [Option.map_some, all]
    refine (h.delRecords_lands seen held nodup).bind_ok fun t' seen' => .ret _ seen'

end Honest

end ValidityFprintd.Records
