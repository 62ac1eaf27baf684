import ValidityFprintd.EnrollLoss

/-! A sensor that keeps its database as it is told, behind a transport that may fail at any
command, before the command takes effect or after it: what each of the driver's database
functions returns there, and what it leaves wherever it is cut off. -/

namespace ValidityFprintd.Records
open Effect World Db Traffic EnrollLoss

variable {S : Type} {w : Usb.World S}

/-- The subtype of a finger, at the head of its value. -/
def subtypeOf (value : Bytes) : UInt16 :=
  match value with
  | b0 :: b1 :: _ => Bytes.fromLe16 b0 b1
  | _ => 0

/-- The database with the child record that a creation asks for. -/
def Makes (db : Database) (parent kind storage : UInt16) (data : Bytes) (recid : UInt16)
    (db' : Database) : Prop :=
  (kind = 4 ∧ db'.storages = ⟨recid, data⟩ :: db.storages ∧ db'.users = db.users ∧
    db'.fingers = db.fingers) ∨
  (kind = recordUser ∧ db'.storages = db.storages ∧
    db'.users = ⟨recid, parent, data⟩ :: db.users ∧ db'.fingers = db.fingers) ∨
  (kind = recordFingerRequested ∧ db'.storages = db.storages ∧ db'.users = db.users ∧
    db'.fingers = ⟨parent, recid, subtypeOf data, storage, Bytes.len16 data⟩ :: db.fingers)

/-- The value fits its length field, and that of a finger has a subtype. -/
def Creatable (kind : UInt16) (data : Bytes) : Prop :=
  data.length < 65536 ∧ (kind = recordFingerRequested → 2 ≤ data.length)

/-- Beside what it may not do when it fails: what the sensor accepts it does, and what it has it
does not deny. -/
structure Keeper (w : Usb.World S) extends Faulty w where
  missing : ∀ out s rsp honest, Changes (.cmd out) = false → (w (.cmd out) s).1 = .ok rsp →
    Usb.statusIs statusNotFound rsp = true → (db s).reply out = some honest →
    honest = Database.found none
  deleted : ∀ dbid s rsp, (w (.cmd (0x48 :: Bytes.le16 dbid)) s).1 = .ok rsp →
    Usb.checkStatus rsp = .ok () →
    db (w (.cmd (0x48 :: Bytes.le16 dbid)) s).2 = (db s).without [dbid]
  makes : ∀ parent kind storage data s, Creatable kind data →
    db (w (.cmd (recordCreation parent kind storage data)) s).2 = db s ∨ ∃ recid,
      Makes (db s) parent kind storage data recid
        (db (w (.cmd (recordCreation parent kind storage data)) s).2)
  made : ∀ parent kind storage data s rsp, Creatable kind data →
    (w (.cmd (recordCreation parent kind storage data)) s).1 = .ok rsp →
    Usb.checkStatus rsp = .ok () → ∃ recid,
      (4 ≤ rsp.length → Bytes.rd16 rsp 2 = (.ok recid : Outcome String UInt16)) ∧
      Makes (db s) parent kind storage data recid
        (db (w (.cmd (recordCreation parent kind storage data)) s).2)

section Driver

variable (h : Keeper w) {D : Database}

include h

theorem Keeper.still : Everyday w (Still h.db) :=
  ⟨ask_still w fun s => h.keeps _ s rfl, ask_still w fun s => h.keeps _ s rfl,
    fun _ _ => ask_still w fun s => h.keeps _ s rfl,
    fun c rest _ h47 h48 => ask_still w fun s => h.keeps _ s (by simp [Changes, h47, h48])⟩

theorem Keeper.getUserStorage_leaves : Leaves h.db D (getUserStorage w storageName)
    (fun r D' => D' = D ∧ r.map UserStorage.dbid = D.mainStorage.map StorageRecord.dbid)
    fun D' => D' = D := by
  refine (Leaves.still (getUserStorage_respects h.still _)).mono ?_ fun _ same => same
  rintro r D' ⟨rfl, s, t, rfl, run⟩
  refine ⟨rfl, ?_⟩
  cases r with
  | some storage =>
    obtain ⟨r, main, dbid⟩ := getUserStorage_read h.toFaulty run
    rw [main, Option.map_some, Option.map_some, dbid]
  | none =>
    obtain ⟨rsp, s1, asked, rest⟩ := Yields.bind_iff.mp run
    by_cases missing : Usb.statusIs statusNotFound rsp = true
    · have sent := congrArg Prod.fst (Usb.cmd_yields.mp asked)
      have denied := h.missing _ s rsp _ rfl sent missing Database.reply_storageQuery
      cases main : (h.db s).mainStorage with
      | none => rfl
      | some r =>
        rw [main] at denied
        cases denied
    · rw [if_neg missing] at rest
      obtain ⟨_, _, _, rest⟩ := Yields.bind_iff.mp rest
      obtain ⟨_, _, _, rest⟩ := Yields.bind_iff.mp rest
      obtain ⟨no, _⟩ := Yields.ret_iff.mp rest
      cases no

theorem Keeper.lookupUser_leaves {sid : SidIdentity} : Leaves h.db D (lookupUser w sid)
    (fun r D' => D' = D ∧ r.map (fun u => (u.dbid, u.fingers)) =
      (D.keyed sid).map fun u => (u.dbid, D.fingersOf u.dbid)) fun D' => D' = D := by
  refine (Leaves.still (lookupUser_respects h.still _)).mono ?_ fun _ same => same
  rintro r D' ⟨rfl, s, t, rfl, run⟩
  refine ⟨rfl, ?_⟩
  cases r with
  | some user =>
    obtain ⟨u, key, dbid, fingers⟩ := lookupUser_read h.toFaulty run
    rw [key, Option.map_some, Option.map_some, dbid, fingers]
  | none =>
    obtain ⟨storage, s1, got, rest⟩ := Yields.bind_iff.mp run
    obtain ⟨same, main⟩ := (h.getUserStorage_leaves s rfl).2.2 _ got.1
    rw [got.2] at same
    cases storage with
    | none =>
      have none_ := Option.map_eq_none_iff.mp main.symm
      rw [Database.keyed, none_]
      rfl
    | some storage =>
      obtain ⟨r, found, dbid⟩ := Option.map_eq_some_iff.mp main.symm
      obtain ⟨rsp, s2, asked, rest⟩ := Yields.bind_iff.mp rest
      by_cases missing : Usb.statusIs statusNotFound rsp = true
      · have sent := congrArg Prod.fst (Usb.cmd_yields.mp asked)
        have denied := h.missing _ s1 rsp _ rfl sent missing (Database.reply_identityQuery _ _ _)
        rw [same, ← dbid] at denied
        have key : (h.db s).keyed sid = (h.db s).userOf? r.dbid (Sid.identityToBytes sid) := by
          rw [Database.keyed, found]
          rfl
        rw [key]
        cases held : (h.db s).userOf? r.dbid (Sid.identityToBytes sid) with
        | none => rfl
        | some u =>
          rw [held] at denied
          cases denied
      · rw [if_neg missing] at rest
        obtain ⟨_, _, _, rest⟩ := Yields.bind_iff.mp rest
        obtain ⟨_, _, _, rest⟩ := Yields.bind_iff.mp rest
        obtain ⟨no, _⟩ := Yields.ret_iff.mp rest
        cases no

theorem Keeper.delRecord_leaves (dbid : UInt16) : Leaves h.db D (delRecord w dbid)
    (fun _ D' => D' = D.without [dbid]) fun D' => D' = D ∨ D' = D.without [dbid] := by
  have asked : Leaves h.db D (Usb.request w (0x48 :: Bytes.le16 dbid) "deleting database record")
      (fun _ D' => D' = D.without [dbid]) fun D' => D' = D ∨ D' = D.without [dbid] := by
    refine Usb.request_leaves (.inl rfl) ?_ ?_
    · rintro s rfl
      obtain same | ⟨dbid', bytes, gone⟩ := h.deletes (Bytes.le16 dbid) s
      · exact .inl same
      · obtain rfl := Bytes.le16_inj bytes
        exact .inr gone
    · rintro s rsp rfl sent accepted
      exact h.deleted dbid s rsp sent accepted
  exact asked.bind (fun _ _ gone => .ret gone (.inr gone)) fun _ cut => cut

/-- Some of the records are gone where the deletions are cut off, and all where they are not. -/
theorem Keeper.delRecords_leaves (dbids : List UInt16) : Leaves h.db D (delRecords w dbids)
    (fun _ D' => D' = D.without dbids) fun D' => ∃ gone ⊆ dbids, D' = D.without gone := by
  induction dbids generalizing D with
  | nil => exact .ret Database.without_nil.symm ⟨[], List.nil_subset _, Database.without_nil.symm⟩
  | cons dbid dbids ih =>
    refine (h.delRecord_leaves dbid).bind ?_ ?_
    · rintro _ _ rfl
      refine ih.mono (fun _ D' all => ?_) fun D' cut => ?_
      · rw [all, Database.without_cons]
      · obtain ⟨gone, some', rfl⟩ := cut
        exact ⟨dbid :: gone, List.cons_subset_cons _ some', Database.without_cons _ _⟩
    · rintro D' (rfl | rfl)
      · exact ⟨[], List.nil_subset _, Database.without_nil.symm⟩
      · exact ⟨[dbid], by simp, rfl⟩

/-- A creation that is cut off has taken place or not. -/
theorem Keeper.newRecord_leaves (blob : WriteEnable) {parent kind storage : UInt16} {data : Bytes}
    (creatable : Creatable kind data) :
    Leaves h.db D (newRecord w blob parent kind storage data)
      (fun recid D' => Makes D parent kind storage data recid D')
      fun D' => D' = D ∨ ∃ recid, Makes D parent kind storage data recid D' := by
  have create : Leaves h.db D (createRecord w parent kind storage data)
      (fun recid D' => Makes D parent kind storage data recid D')
      fun D' => D' = D ∨ ∃ recid, Makes D parent kind storage data recid D' := by
    have asked : Leaves h.db D (Usb.request w (recordCreation parent kind storage data)
        "creating database record") (fun rsp D' => ∃ recid,
          (4 ≤ rsp.length → Bytes.rd16 rsp 2 = (.ok recid : Outcome String UInt16)) ∧
          Makes D parent kind storage data recid D')
        fun D' => D' = D ∨ ∃ recid, Makes D parent kind storage data recid D' := by
      refine Usb.request_leaves (.inl rfl) ?_ ?_
      · rintro s rfl
        exact h.makes parent kind storage data s creatable
      · rintro s rsp rfl sent accepted
        exact h.made parent kind storage data s rsp creatable sent accepted
    refine asked.bind ?_ fun _ cut => cut
    rintro rsp D' ⟨recid, read, made⟩
    refine Leaves.bind (J := fun _ D'' => D'' = D' ∧ ¬ rsp.length < 4)
      (.bailIf (fun long => ⟨rfl, long⟩) (.inr ⟨recid, made⟩)) ?_ fun _ cut => cut
    rintro _ _ ⟨rfl, long⟩
    refine .ofOutcome (fun recid' parsed => ?_) (.inr ⟨recid, made⟩)
    rw [read (by omega)] at parsed
    obtain rfl := Outcome.ok.inj parsed
    exact made
  have info : Respects (Still h.db) (dbInfo w) :=
    .bind (cmd_respects (h.still.cmd _ _ (by decide) (by decide) (by decide))) fun rsp =>
      .bind (.lift _) fun _ => .ofOutcome _
  refine (Leaves.still info).bind ?_ fun _ same => .inl same
  rintro _ _ ⟨rfl, _⟩
  refine (Leaves.still (writeEnable_respects h.still blob)).bind ?_ fun _ same => .inl same
  rintro _ _ ⟨rfl, _⟩
  refine create.attempt.bind ?_ fun _ cut => cut
  rintro result D' ⟨cut, made⟩
  refine (Leaves.still (closing_respects h.still result)).mono ?_ ?_
  · rintro recid _ ⟨rfl, s, t, _, run⟩
    obtain ⟨_, _, _, run⟩ := Yields.bind_iff.mp run
    obtain ⟨recid', _, lifted, run⟩ := Yields.bind_iff.mp run
    obtain ⟨_, _, _, run⟩ := Yields.bind_iff.mp run
    obtain ⟨rfl, _⟩ := Yields.ret_iff.mp run
    exact made recid' (Yields.lift_iff.mp lifted).1
  · rintro _ rfl
    exact cut

end Driver

/-! A keeper whose commands fail as they are told to. -/

namespace Database

/-- These records, if they can be a database. -/
def ofRecords (storages : List StorageRecord) (users : List UserRecord)
    (fingers : List FingerRecord) : Option Database :=
  if sound : (0 :: idsOf storages users fingers).Nodup ∧
      (∀ s ∈ storages, s.name.length < 65536) ∧ ∀ u ∈ users, u.identity.length < 65536 then
    some ⟨storages, users, fingers, sound.1, sound.2.1, sound.2.2⟩
  else none

theorem ofRecords_some {storages : List StorageRecord} {users : List UserRecord}
    {fingers : List FingerRecord} {db : Database}
    (h : ofRecords storages users fingers = some db) :
    db.storages = storages ∧ db.users = users ∧ db.fingers = fingers := by
  unfold ofRecords at h
  split at h
  · cases h
    exact ⟨rfl, rfl, rfl⟩
  · cases h

variable (db : Database)

def nextId : UInt16 := db.ids.foldl max 9 + 1

def create (parent kind storage : UInt16) (data : Bytes) : Option Database :=
  if kind = 4 then ofRecords (⟨db.nextId, data⟩ :: db.storages) db.users db.fingers
  else if kind = recordUser then
    ofRecords db.storages (⟨db.nextId, parent, data⟩ :: db.users) db.fingers
  else if kind = recordFingerRequested then
    ofRecords db.storages db.users
      (⟨parent, db.nextId, subtypeOf data, storage, Bytes.len16 data⟩ :: db.fingers)
  else none

variable {db}

theorem create_makes {parent kind storage : UInt16} {data : Bytes} {db' : Database}
    (h : db.create parent kind storage data = some db') :
    Makes db parent kind storage data db.nextId db' := by
  unfold create at h
  split at h
  · exact .inl ⟨‹_›, ofRecords_some h⟩
  · split at h
    · exact .inr (.inl ⟨‹_›, ofRecords_some h⟩)
    · split at h
      · exact .inr (.inr ⟨‹_›, ofRecords_some h⟩)
      · cases h

theorem reply_found {out honest : Bytes} (h : db.reply out = some honest) :
    ∃ body, honest = found body := by
  unfold reply at h
  split at h
  · exact ⟨_, (Option.some.inj h).symm⟩
  · exact ⟨_, (Option.some.inj h).symm⟩
  · exact ⟨_, (Option.some.inj h).symm⟩
  · cases h

end Database

/-- What becomes of a command. -/
inductive Fate
  | works
  | lostBefore
  | lostAfter
  deriving DecidableEq

/-- A sensor, the fates of the commands to come and the polls since the last scan began. -/
structure Fated where
  db : Database
  fates : List Fate
  polls : Nat

namespace Fated

/-- Every scan is a good one, and the first completes a template. -/
def scanned (out : Bytes) : Bytes :=
  match out with
  | 0x51 :: _ => [0, 0] ++ Bytes.le32 12 ++ List.replicate 12 0
  | 0x68 :: _ => List.replicate 6 0
  | 0x6b :: _ => [0, 0] ++ Bytes.le16 57 ++ [3, 0, 1, 0] ++ List.replicate 52 0 ++ [7]
  | 0x45 :: _ => [0, 0] ++ List.replicate 24 0
  | _ => [0, 0]

def answered (db : Database) : Option Database → Bytes × Database
  | some db' => ([0, 0] ++ Bytes.le16 db.nextId, db')
  | none => ([0x01, 0x04], db)

/-- The answer to a command, and what it makes of the database. -/
def serve (db : Database) (out : Bytes) : Bytes × Database :=
  match out with
  | 0x47 :: p0 :: p1 :: k0 :: k1 :: s0 :: s1 :: _ :: _ :: data =>
    answered db (db.create (Bytes.fromLe16 p0 p1) (Bytes.fromLe16 k0 k1) (Bytes.fromLe16 s0 s1)
      data)
  | _ => ((db.reply out).getD (scanned out), db.after out)

def obey (d : Fated) (out : Bytes) : Fate → Except String Bytes × Database
  | .works => (.ok (serve d.db out).1, (serve d.db out).2)
  | .lostBefore => (.error "device is gone", d.db)
  | .lostAfter => (.error "device is gone", (serve d.db out).2)

def world : Usb.World Fated
  | .cmd out, d =>
    let (answer, db) := obey d out (d.fates.headD .works)
    (answer, ⟨db, d.fates.tail, if out.head? = some 0x02 then 0 else d.polls⟩)
  | .pollInterrupt, ⟨db, fates, 0⟩ => (.ok (some [0]), ⟨db, fates, 1⟩)
  | .pollInterrupt, ⟨db, fates, 1⟩ => (.ok (some [2]), ⟨db, fates, 2⟩)
  | .pollInterrupt, d => (.ok (some [3, 0, 4]), d)
  | .readData, d => (.ok [], d)
  | .now, d => (0, d)
  | .current, d => (1, d)
  | .onStage _ _, d => ((), d)

theorem serve_creation (db : Database) (parent kind storage : UInt16) (data : Bytes) :
    serve db (recordCreation parent kind storage data) =
      answered db (db.create parent kind storage data) := by
  simp only [recordCreation, Bytes.le16, List.cons_append, List.nil_append, serve,
    Bytes.fromLe16_le16]

theorem serve_other {db : Database} {out : Bytes} (h : out.head? ≠ some 0x47) :
    serve db out = ((db.reply out).getD (scanned out), db.after out) := by
  unfold serve
  split
  · exact absurd rfl h
  · rfl

theorem answered_cases (db : Database) (db' : Option Database) :
    (∃ made, db' = some made ∧ answered db db' = ([0, 0] ++ Bytes.le16 db.nextId, made)) ∨
      answered db db' = ([0x01, 0x04], db) := by
  cases db' with
  | some made => exact .inl ⟨made, rfl, rfl⟩
  | none => exact .inr rfl

theorem makes_created {db db' : Database} {parent kind storage recid : UInt16} {data : Bytes}
    (h : Makes db parent kind storage data recid db') : Created db db' := by
  obtain ⟨_, made⟩ | ⟨_, made⟩ | ⟨_, made⟩ := h
  · exact .inl ⟨_, made⟩
  · exact .inr (.inl ⟨_, made⟩)
  · exact .inr (.inr ⟨_, made⟩)

theorem serve_creates (db : Database) (rest : Bytes) :
    (serve db (0x47 :: rest)).2 = db ∨ Created db (serve db (0x47 :: rest)).2 := by
  unfold serve
  split
  · obtain ⟨made, created, run⟩ | run := answered_cases db _
    · rw [run]
      exact .inr (makes_created (Database.create_makes created))
    · rw [run]
      exact .inl rfl
  · exact .inl rfl

/-- Whatever becomes of a command, it leaves what serving it does, or nothing. -/
theorem obey_cases (d : Fated) (out : Bytes) (fate : Fate) :
    ((obey d out fate).2 = d.db ∨ (obey d out fate).2 = (serve d.db out).2) ∧
      ∀ rsp, (obey d out fate).1 = .ok rsp →
        rsp = (serve d.db out).1 ∧ (obey d out fate).2 = (serve d.db out).2 := by
  cases fate with
  | works => exact ⟨.inr rfl, fun rsp sent => ⟨(Except.ok.inj sent).symm, rfl⟩⟩
  | lostBefore => exact ⟨.inl rfl, fun rsp sent => nomatch sent⟩
  | lostAfter => exact ⟨.inr rfl, fun rsp sent => nomatch sent⟩

theorem world_cmd (d : Fated) (out : Bytes) :
    ((world (.cmd out) d).2.db = d.db ∨ (world (.cmd out) d).2.db = (serve d.db out).2) ∧
      ∀ rsp, (world (.cmd out) d).1 = .ok rsp →
        rsp = (serve d.db out).1 ∧ (world (.cmd out) d).2.db = (serve d.db out).2 :=
  obey_cases d out _

theorem world_keeps (q : Usb.Query) (d : Fated) (quiet : Changes q = false) :
    (world q d).2.db = d.db := by
  cases q with
  | cmd out =>
    have other : out.head? ≠ some 0x47 := by
      intro creation
      cases out with
      | nil => cases creation
      | cons c rest =>
        obtain rfl := Option.some.inj creation
        cases quiet
    obtain same | served := (world_cmd d out).1
    · exact same
    · rw [served, serve_other other]
      exact d.db.after_quiet quiet
  | pollInterrupt =>
    obtain ⟨db, fates, _ | _ | polls⟩ := d
    · rfl
    · rfl
    · rfl
  | _ => rfl

theorem reply_not_creation {db : Database} {out honest : Bytes} (h : db.reply out = some honest) :
    out.head? ≠ some 0x47 := by
  intro creation
  cases out with
  | nil => cases creation
  | cons c rest =>
    obtain rfl := Option.some.inj creation
    cases h

theorem world_answers {d : Fated} {out rsp honest : Bytes}
    (sent : (world (.cmd out) d).1 = .ok rsp) (h : d.db.reply out = some honest) :
    rsp = honest := by
  obtain ⟨same, _⟩ := (world_cmd d out).2 rsp sent
  rw [same, serve_other (reply_not_creation h), h, Option.getD_some]

def keeper : Keeper world where
  db := Fated.db
  answers := fun _ _ _ _ sent _ h => world_answers sent h
  deletes := by
    intro rest d
    obtain same | served := (world_cmd d (0x48 :: rest)).1
    · exact .inl same
    · rw [served, serve_other (by simp)]
      exact after_deletes d.db rest
  creates := by
    intro rest d
    obtain same | served := (world_cmd d (0x47 :: rest)).1
    · exact .inl same
    · rw [served]
      exact serve_creates d.db rest
  keeps := world_keeps
  missing := by
    intro out d rsp honest _ sent denied h
    obtain ⟨body, rfl⟩ := Database.reply_found h
    rw [world_answers sent h] at denied
    cases body with
    | none => rfl
    | some body => cases denied
  deleted := by
    intro dbid d rsp sent _
    rw [((world_cmd d _).2 rsp sent).2, serve_other (by simp), Database.after_deletion]
  makes := by
    intro parent kind storage data d _
    obtain same | served := (world_cmd d (recordCreation parent kind storage data)).1
    · exact .inl same
    · rw [served, serve_creation]
      obtain ⟨made, created, run⟩ | run :=
        answered_cases d.db (d.db.create parent kind storage data)
      · rw [run]
        exact .inr ⟨_, Database.create_makes created⟩
      · rw [run]
        exact .inl rfl
  made := by
    intro parent kind storage data d rsp _ sent accepted
    obtain ⟨answer, served⟩ := (world_cmd d _).2 rsp sent
    rw [serve_creation] at answer served
    obtain ⟨made, created, run⟩ | run :=
      answered_cases d.db (d.db.create parent kind storage data)
    · rw [run] at answer served
      rw [answer, served]
      exact ⟨_, fun _ => Bytes.rd16_at [0, 0] [] (List.append_nil _).symm rfl,
        Database.create_makes created⟩
    · rw [answer, run] at accepted
      cases accepted

end Fated

end ValidityFprintd.Records
