import Mathlib.Data.Set.Subsingleton
import ValidityFprintd.Keeper

/-! The shape of the database: one storage, one record for each user, one for each of the
user's fingers. What each kind of change makes of it, and of the records of the other users. -/

namespace ValidityFprintd.Records
open Effect Db

namespace Database

variable (db : Database)

def empty : Database where
  storages := []
  users := []
  fingers := []
  distinct := List.nodup_singleton 0
  names := fun _ mem => nomatch mem
  identities := fun _ mem => nomatch mem

/-- The records of a user, as whoever reads them back tells users apart. -/
def userRecords (sid : SidIdentity) : Set UserRecord :=
  {u | u ∈ db.users ∧ Sid.parseIdentity u.identity = .ok sid}

def fingerRecords (sid : SidIdentity) : Set FingerRecord :=
  {f | f ∈ db.fingers ∧ ∃ u ∈ db.userRecords sid, f.user = u.dbid}

/-- At most one storage, one record for a user and one finger of a subtype, and each under the
record it belongs to. -/
structure Shaped : Prop where
  storage : {s | s ∈ db.storages ∧ s.name = storageName ++ [0]}.Subsingleton
  user : ∀ sid, (db.userRecords sid).Subsingleton
  finger : ∀ sid subtype, {f | f ∈ db.fingerRecords sid ∧ f.ref.subtype = subtype}.Subsingleton
  known : ∀ u ∈ db.users, ∃ sid : SidIdentity, sid.Fits ∧ u.identity = Sid.identityToBytes sid
  underStorage : ∀ u ∈ db.users, ∃ s, db.mainStorage = some s ∧ u.storage = s.dbid
  underUser : ∀ f ∈ db.fingers, ∃ u ∈ db.users, f.user = u.dbid

theorem empty_shaped : Shaped empty where
  storage := fun _ mem => nomatch mem.1
  user := fun _ _ mem => nomatch mem.1
  finger := fun _ _ _ mem => nomatch mem.1.1
  known := fun _ mem => nomatch mem
  underStorage := fun _ mem => nomatch mem
  underUser := fun _ mem => nomatch mem

variable {db} {sid : SidIdentity}

theorem known_records {u : UserRecord} (fits : sid.Fits)
    (known : ∃ sid : SidIdentity, sid.Fits ∧ u.identity = Sid.identityToBytes sid) :
    Sid.parseIdentity u.identity = .ok sid ↔ u.identity = Sid.identityToBytes sid := by
  obtain ⟨sid', fits', encoded⟩ := known
  constructor
  · intro parsed
    rw [encoded, Sid.parseIdentity_identityToBytes fits'] at parsed
    rw [encoded, Outcome.ok.inj parsed]
  · intro same
    rw [same, Sid.parseIdentity_identityToBytes fits]

/-- The sensor finds a user by the identity's bytes if and only if the record is the user's. -/
theorem Shaped.keyed_iff (shaped : db.Shaped) (fits : sid.Fits) {u : UserRecord} :
    db.keyed sid = some u ↔ u ∈ db.userRecords sid := by
  constructor
  · intro key
    obtain ⟨held, identity⟩ := keyed_mem key
    exact ⟨held, (known_records fits (shaped.known u held)).mpr identity⟩
  · rintro ⟨held, parsed⟩
    obtain ⟨s, main, storage⟩ := shaped.underStorage u held
    have identity := (known_records fits (shaped.known u held)).mp parsed
    have key : db.keyed sid = db.userOf? s.dbid (Sid.identityToBytes sid) := by
      rw [keyed, main]
      rfl
    cases found : db.userOf? s.dbid (Sid.identityToBytes sid) with
    | none =>
      have no := List.find?_eq_none.mp found u held
      simp [storage, identity] at no
    | some v =>
      rw [found] at key
      obtain ⟨held', identity'⟩ := keyed_mem key
      have parsed' := (known_records fits (shaped.known v held')).mpr identity'
      rw [key, shaped.user sid ⟨held, parsed⟩ ⟨held', parsed'⟩]

theorem Shaped.mem_fingerRecords (shaped : db.Shaped) {u : UserRecord} (hu : u ∈ db.userRecords sid)
    {f : FingerRecord} : f ∈ db.fingerRecords sid ↔ f ∈ db.fingers ∧ f.user = u.dbid := by
  refine and_congr_right fun _ => ?_
  constructor
  · rintro ⟨v, hv, user⟩
    rw [user, shaped.user sid hv hu]
  · intro user
    exact ⟨u, hu, user⟩

theorem fingerRecords_eq_empty (none_ : db.userRecords sid = ∅) : db.fingerRecords sid = ∅ := by
  ext f
  simp [fingerRecords, none_]

/-- What an operation for a user makes of a database: it is in shape still, and no other user's
records are touched. -/
structure Confined (sid : SidIdentity) (db db' : Database) : Prop where
  shaped : db'.Shaped
  users : ∀ other ≠ sid, db'.userRecords other = db.userRecords other
  fingers : ∀ other ≠ sid, db'.fingerRecords other = db.fingerRecords other

theorem Shaped.confined (shaped : db.Shaped) : Confined sid db db :=
  ⟨shaped, fun _ _ => rfl, fun _ _ => rfl⟩

theorem Confined.trans {db' db'' : Database} (first : Confined sid db db')
    (second : Confined sid db' db'') : Confined sid db db'' where
  shaped := second.shaped
  users := fun other apart => (second.users other apart).trans (first.users other apart)
  fingers := fun other apart => (second.fingers other apart).trans (first.fingers other apart)

/-! One lemma for each kind of change. -/

theorem userRecords_of_users {db' : Database} (users : db'.users = db.users) :
    db'.userRecords sid = db.userRecords sid := by
  ext u
  simp only [userRecords, users]

theorem fingerRecords_of {db' : Database} (users : db'.users = db.users)
    (fingers : db'.fingers = db.fingers) : db'.fingerRecords sid = db.fingerRecords sid := by
  ext f
  simp only [fingerRecords, fingers, userRecords_of_users users]

theorem Shaped.without (shaped : db.Shaped) {gone : List UInt16}
    (own : ∀ dbid ∈ gone, ∃ f ∈ db.fingerRecords sid, f.ref.dbid = dbid) :
    Confined sid db (db.without gone) ∧
      (db.without gone).fingerRecords sid = {f | f ∈ db.fingerRecords sid ∧ f.ref.dbid ∉ gone} := by
  have named : ∀ dbid ∈ gone, ∃ f ∈ db.fingers, f.ref.dbid = dbid := by
    intro dbid mem
    obtain ⟨f, hf, same⟩ := own dbid mem
    exact ⟨f, hf.1, same⟩
  have users := without_users named
  have storages := without_storages named
  have fingers : ∀ f, f ∈ (db.without gone).fingers ↔ f ∈ db.fingers ∧ f.ref.dbid ∉ gone := by
    intro f
    simp [Database.without]
  have left : ∀ other, (db.without gone).fingerRecords other =
      {f | f ∈ db.fingerRecords other ∧ f.ref.dbid ∉ gone} := by
    intro other
    ext f
    simp only [fingerRecords, Set.mem_ofPred_eq, fingers, userRecords_of_users users]
    tauto
  have main := mainStorage_of_storages storages
  refine ⟨⟨⟨?_, ?_, ?_, ?_, ?_, ?_⟩, ?_, ?_⟩, left sid⟩
  · rw [storages]
    exact shaped.storage
  · intro other
    rw [userRecords_of_users users]
    exact shaped.user other
  · intro other subtype
    refine (shaped.finger other subtype).anti ?_
    rintro f ⟨hf, same⟩
    rw [left] at hf
    exact ⟨hf.1, same⟩
  · rw [users]
    exact shaped.known
  · rw [users, main]
    exact shaped.underStorage
  · intro f hf
    rw [users]
    exact shaped.underUser f ((fingers f).mp hf).1
  · exact fun other _ => userRecords_of_users users
  · intro other apart
    rw [left]
    ext f
    refine ⟨fun hf => hf.1, fun hf => ⟨hf, fun doomed => apart ?_⟩⟩
    obtain ⟨g, hg, same⟩ := own _ doomed
    obtain rfl := fingers_inj hg.1 hf.1 same
    obtain ⟨u, hu, user⟩ := hg.2
    obtain ⟨v, hv, user'⟩ := hf.2
    obtain rfl := users_inj hu.1 hv.1 (user.symm.trans user')
    exact Outcome.ok.inj (hv.2.symm.trans hu.2)

section Creations

variable {db' : Database} {parent storage recid : UInt16} {data : Bytes}

theorem makes_storage : Makes db parent 4 storage data recid db' ↔
    db'.storages = ⟨recid, data⟩ :: db.storages ∧ db'.users = db.users ∧
      db'.fingers = db.fingers := by
  simp [Makes, recordUser, recordFingerRequested]

theorem makes_user : Makes db parent recordUser storage data recid db' ↔
    db'.storages = db.storages ∧ db'.users = ⟨recid, parent, data⟩ :: db.users ∧
      db'.fingers = db.fingers := by
  simp [Makes, recordUser, recordFingerRequested]

theorem makes_finger : Makes db parent recordFingerRequested storage data recid db' ↔
    db'.storages = db.storages ∧ db'.users = db.users ∧
      db'.fingers = ⟨parent, recid, subtypeOf data, storage, Bytes.len16 data⟩ :: db.fingers := by
  simp [Makes, recordUser, recordFingerRequested]

theorem Shaped.storageMade (shaped : db.Shaped) (none_ : db.mainStorage = none)
    (made : Makes db parent 4 storage (storageName ++ [0]) recid db') :
    db'.Shaped ∧ db'.users = db.users ∧ db'.fingers = db.fingers ∧
      db'.mainStorage = some ⟨recid, storageName ++ [0]⟩ := by
  obtain ⟨storages, users, fingers⟩ := makes_storage.mp made
  have fresh : ∀ s ∈ db.storages, s.name ≠ storageName ++ [0] := by
    intro s hs
    simpa using List.find?_eq_none.mp none_ s hs
  have main : db'.mainStorage = some ⟨recid, storageName ++ [0]⟩ := by
    rw [mainStorage, storage?, storages, List.find?_cons_of_pos (by simp)]
  refine ⟨⟨?_, ?_, ?_, ?_, ?_, ?_⟩, users, fingers, main⟩
  · have only : ∀ s ∈ db'.storages, s.name = storageName ++ [0] →
        s = ⟨recid, storageName ++ [0]⟩ := by
      intro s hs name
      rw [storages] at hs
      cases List.mem_cons.mp hs with
      | inl new => exact new
      | inr old => exact absurd name (fresh s old)
    intro s hs t ht
    rw [only s hs.1 hs.2, only t ht.1 ht.2]
  · intro sid
    rw [userRecords_of_users users]
    exact shaped.user sid
  · intro sid
    rw [fingerRecords_of users fingers]
    exact shaped.finger sid
  · rw [users]
    exact shaped.known
  · intro u hu
    rw [users] at hu
    obtain ⟨s, held, _⟩ := shaped.underStorage u hu
    rw [none_] at held
    cases held
  · rw [users, fingers]
    exact shaped.underUser

section UserAdded

variable {u : UserRecord} (users : db'.users = u :: db.users)

include users

theorem Shaped.fingerRecords_added (shaped : db.Shaped) (absent : db.userRecords sid = ∅)
    (fingers : db'.fingers = db.fingers) : db'.fingerRecords sid = ∅ := by
  ext f
  refine iff_of_false (fun hf => ?_) (Set.notMem_empty f)
  obtain ⟨held, v, hv, user⟩ := hf
  rw [fingers] at held
  obtain ⟨v', old, user'⟩ := shaped.underUser f held
  have old' : v' ∈ db'.users := by
    rw [users]
    exact List.mem_cons_of_mem u old
  have same := users_inj old' hv.1 (user'.symm.trans user)
  have no : v' ∈ db.userRecords sid := ⟨old, by rw [same]; exact hv.2⟩
  rw [absent] at no
  cases no

variable (own : Sid.parseIdentity u.identity = .ok sid)

include own

theorem userRecords_insert : db'.userRecords sid = insert u (db.userRecords sid) := by
  ext v
  simp only [userRecords, users, List.mem_cons, Set.mem_ofPred_eq, Set.mem_insert_iff]
  constructor
  · rintro ⟨same | old, parsed⟩
    · exact .inl same
    · exact .inr ⟨old, parsed⟩
  · rintro (rfl | ⟨old, parsed⟩)
    · exact ⟨.inl rfl, own⟩
    · exact ⟨.inr old, parsed⟩

theorem userRecords_other {other : SidIdentity} (apart : other ≠ sid) :
    db'.userRecords other = db.userRecords other := by
  ext v
  simp only [userRecords, users, List.mem_cons, Set.mem_ofPred_eq]
  refine and_congr_left fun parsed => or_iff_right ?_
  rintro rfl
  exact apart (Outcome.ok.inj (parsed.symm.trans own))

end UserAdded

theorem Shaped.userMade (shaped : db.Shaped) (fits : sid.Fits) (none_ : db.keyed sid = none)
    {s : StorageRecord} (main : db.mainStorage = some s)
    (made : Makes db s.dbid recordUser storage (Sid.identityToBytes sid) recid db') :
    Confined sid db db' ∧ ⟨recid, s.dbid, Sid.identityToBytes sid⟩ ∈ db'.userRecords sid ∧
      db'.fingerRecords sid = db.fingerRecords sid ∧ db'.mainStorage = db.mainStorage := by
  obtain ⟨storages, users, fingers⟩ := makes_user.mp made
  have own := Sid.parseIdentity_identityToBytes fits
  have absent : db.userRecords sid = ∅ := by
    ext u
    refine iff_of_false (fun hu => ?_) (Set.notMem_empty u)
    rw [(shaped.keyed_iff fits).mpr hu] at none_
    cases none_
  have held : ∀ u, u ∈ db'.users ↔
      u = ⟨recid, s.dbid, Sid.identityToBytes sid⟩ ∨ u ∈ db.users := by
    intro u
    rw [users, List.mem_cons]
  have single : db'.userRecords sid = {⟨recid, s.dbid, Sid.identityToBytes sid⟩} := by
    rw [userRecords_insert users own, absent, insert_empty_eq]
  have others : ∀ other ≠ sid, db'.userRecords other = db.userRecords other := fun _ apart =>
    userRecords_other users own apart
  have mine := shaped.fingerRecords_added users absent fingers
  have kept : ∀ other ≠ sid, db'.fingerRecords other = db.fingerRecords other := by
    intro other apart
    ext f
    simp only [fingerRecords, fingers, others other apart]
  have main' := mainStorage_of_storages storages
  refine ⟨⟨⟨?_, ?_, ?_, ?_, ?_, ?_⟩, others, kept⟩, ⟨(held _).mpr (.inl rfl), own⟩, ?_, main'⟩
  · rw [storages]
    exact shaped.storage
  · intro other
    by_cases same : other = sid
    · rw [same, single]
      exact Set.subsingleton_singleton
    · rw [others other same]
      exact shaped.user other
  · intro other
    by_cases same : other = sid
    · rw [same, mine]
      exact fun _ _ mem => nomatch mem.1
    · rw [kept other same]
      exact shaped.finger other
  · intro u hu
    cases (held u).mp hu with
    | inl new => exact ⟨sid, fits, by rw [new]⟩
    | inr old => exact shaped.known u old
  · intro u hu
    rw [main']
    cases (held u).mp hu with
    | inl new => exact ⟨s, main, by rw [new]⟩
    | inr old => exact shaped.underStorage u old
  · intro f hf
    rw [fingers] at hf
    obtain ⟨u, hu, user⟩ := shaped.underUser f hf
    exact ⟨u, (held u).mpr (.inr hu), user⟩
  · rw [mine, fingerRecords_eq_empty absent]

section FingerAdded

variable {f : FingerRecord} {u : UserRecord} (users : db'.users = db.users)
  (fingers : db'.fingers = f :: db.fingers) (hu : u ∈ db.userRecords sid) (user : f.user = u.dbid)

include users fingers hu user

theorem fingerRecords_insert : db'.fingerRecords sid = insert f (db.fingerRecords sid) := by
  ext g
  simp only [fingerRecords, userRecords_of_users users, fingers, List.mem_cons,
    Set.mem_ofPred_eq, Set.mem_insert_iff]
  constructor
  · rintro ⟨same | old, owner⟩
    · exact .inl same
    · exact .inr ⟨old, owner⟩
  · rintro (rfl | ⟨old, owner⟩)
    · exact ⟨.inl rfl, u, hu, user⟩
    · exact ⟨.inr old, owner⟩

theorem fingerRecords_other {other : SidIdentity} (apart : other ≠ sid) :
    db'.fingerRecords other = db.fingerRecords other := by
  ext g
  simp only [fingerRecords, userRecords_of_users users, fingers, List.mem_cons, Set.mem_ofPred_eq]
  refine ⟨fun ⟨mem, owner⟩ => ⟨?_, owner⟩, fun ⟨mem, owner⟩ => ⟨.inr mem, owner⟩⟩
  refine mem.resolve_left fun same => apart ?_
  obtain ⟨v, hv, user'⟩ := owner
  rw [same, user] at user'
  have same' := users_inj hu.1 hv.1 user'
  rw [← same'] at hv
  exact Outcome.ok.inj (hv.2.symm.trans hu.2)

end FingerAdded

theorem Shaped.fingerMade (shaped : db.Shaped) {u : UserRecord} (hu : u ∈ db.userRecords sid)
    (free : ∀ f ∈ db.fingerRecords sid, f.ref.subtype ≠ subtypeOf data)
    (made : Makes db u.dbid recordFingerRequested storage data recid db') :
    Confined sid db db' ∧ ∃ f, f.ref.dbid = recid ∧ f.ref.subtype = subtypeOf data ∧
      db'.fingerRecords sid = insert f (db.fingerRecords sid) := by
  obtain ⟨storages, users, fingers⟩ := makes_finger.mp made
  generalize new : (⟨u.dbid, recid, subtypeOf data, storage, Bytes.len16 data⟩ : FingerRecord) = f
    at fingers
  have user : f.user = u.dbid := by rw [← new]
  have subtype : f.ref.subtype = subtypeOf data := by rw [← new]
  have held : ∀ g, g ∈ db'.fingers ↔ g = f ∨ g ∈ db.fingers := by
    intro g
    rw [fingers, List.mem_cons]
  have mine := fingerRecords_insert users fingers hu user
  have kept : ∀ other ≠ sid, db'.fingerRecords other = db.fingerRecords other := fun _ apart =>
    fingerRecords_other users fingers hu user apart
  have main := mainStorage_of_storages storages
  refine ⟨⟨⟨?_, ?_, ?_, ?_, ?_, ?_⟩, fun other _ => userRecords_of_users users, kept⟩, f,
    by rw [← new], subtype, mine⟩
  · rw [storages]
    exact shaped.storage
  · intro other
    rw [userRecords_of_users users]
    exact shaped.user other
  · intro other kind
    by_cases same : other = sid
    · rw [same, mine]
      rintro g ⟨rfl | hg, first⟩ g' ⟨rfl | hg', second⟩
      · rfl
      · exact absurd (second.trans (first.symm.trans subtype)) (free g' hg')
      · exact absurd (first.trans (second.symm.trans subtype)) (free g hg)
      · exact shaped.finger sid kind ⟨hg, first⟩ ⟨hg', second⟩
    · rw [kept other same]
      exact shaped.finger other kind
  · rw [users]
    exact shaped.known
  · rw [users, main]
    exact shaped.underStorage
  · intro g hg
    rw [users]
    cases (held g).mp hg with
    | inl same => exact ⟨u, hu.1, by rw [same, user]⟩
    | inr old => exact shaped.underUser g old

end Creations

/-- Only the storage may be new. -/
structure Founded (db db' : Database) : Prop where
  shaped : db'.Shaped
  users : db'.users = db.users
  fingers : db'.fingers = db.fingers

theorem Founded.confined {db' : Database} (founded : Founded db db') : Confined sid db db' where
  shaped := founded.shaped
  users := fun _ _ => userRecords_of_users founded.users
  fingers := fun _ _ => fingerRecords_of founded.users founded.fingers

theorem Founded.keyed {db' : Database} (founded : Founded db db') (shaped : db.Shaped)
    (fits : sid.Fits) : db'.keyed sid = db.keyed sid := by
  ext u
  rw [founded.shaped.keyed_iff fits, shaped.keyed_iff fits, userRecords_of_users founded.users]

end Database

end ValidityFprintd.Records
