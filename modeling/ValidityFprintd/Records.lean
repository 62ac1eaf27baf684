import Mathlib.Data.List.Nodup
import Mathlib.Data.List.Perm.Subperm
import ValidityFprintd.Db

/-! The sensor's side of the database: the records it holds, what it answers to the
queries and what the commands change. -/

namespace ValidityFprintd.Records
open Effect Db

structure StorageRecord where
  dbid : UInt16
  /-- As stored, with the zero at its end. -/
  name : Bytes
  deriving DecidableEq

structure UserRecord where
  dbid : UInt16
  storage : UInt16
  /-- The identity as whoever wrote the record encoded it. -/
  identity : Bytes
  deriving DecidableEq

structure FingerRecord where
  user : UInt16
  ref : FingerRef
  deriving DecidableEq

def idsOf (storages : List StorageRecord) (users : List UserRecord) (fingers : List FingerRecord) :
    List UInt16 :=
  storages.map StorageRecord.dbid ++ users.map UserRecord.dbid ++
    fingers.map fun f => f.ref.dbid

theorem mainStorage_fits : ∀ storage ∈ [(⟨3, storageName ++ [0]⟩ : StorageRecord)],
    storage.name.length < 65536 := by
  decide

/-- Any set of records under distinct ids. Id 0 stands for no record in the commands. -/
structure Database where
  storages : List StorageRecord
  users : List UserRecord
  fingers : List FingerRecord
  distinct : (0 :: idsOf storages users fingers).Nodup
  names : ∀ storage ∈ storages, storage.name.length < 65536
  identities : ∀ user ∈ users, user.identity.length < 65536

namespace Database

variable (db : Database)

def ids : List UInt16 := idsOf db.storages db.users db.fingers

def storage? (name : Bytes) : Option StorageRecord := db.storages.find? fun s => s.name = name

def user? (dbid : UInt16) : Option UserRecord := db.users.find? fun u => u.dbid = dbid

/-- The user of a storage whose identity is these bytes: the same identity encoded at another
length is another key. -/
def userOf? (storage : UInt16) (identity : Bytes) : Option UserRecord :=
  db.users.find? fun u => u.storage = storage ∧ u.identity = identity

def usersOf (storage : UInt16) : List UserRecord := db.users.filter fun u => u.storage = storage

def fingersOf (user : UInt16) : List FingerRef :=
  (db.fingers.filter fun f => f.user = user).map FingerRecord.ref

def storageRow (u : UserRecord) : Bytes :=
  Bytes.le16 u.dbid ++ Bytes.le16 (Bytes.len16 u.identity)

def storageReply (s : StorageRecord) : Bytes :=
  Bytes.le16 s.dbid ++ Bytes.le16 (UInt16.ofNat (db.usersOf s.dbid).length) ++
    Bytes.le16 (Bytes.len16 s.name) ++ Bytes.le16 0 ++ (db.usersOf s.dbid).flatMap storageRow ++
    s.name

def fingerRow (f : FingerRef) : Bytes :=
  Bytes.le16 f.dbid ++ Bytes.le16 f.subtype ++ Bytes.le16 f.storage ++ Bytes.le16 f.valueSize

def userReply (u : UserRecord) : Bytes :=
  Bytes.le16 u.dbid ++ Bytes.le16 (UInt16.ofNat (db.fingersOf u.dbid).length) ++ Bytes.le16 0 ++
    Bytes.le16 (Bytes.len16 u.identity) ++ (db.fingersOf u.dbid).flatMap fingerRow ++ u.identity

def found (body : Option Bytes) : Bytes :=
  match body with
  | some body => [0, 0] ++ body
  | none => Bytes.le16 statusNotFound

/-- The honest answer to a command of the database, if it is one. -/
def reply (out : Bytes) : Option Bytes :=
  match out with
  | 0x4b :: _ :: _ :: _ :: _ :: name => some (found ((db.storage? name).map db.storageReply))
  | 0x4a :: d0 :: d1 :: s0 :: s1 :: _ :: _ :: identity =>
    let dbid := Bytes.fromLe16 d0 d1
    let user := if dbid ≠ 0 then db.user? dbid else db.userOf? (Bytes.fromLe16 s0 s1) identity
    some (found (user.map db.userReply))
  | [0x48, d0, d1] =>
    some (found (if Bytes.fromLe16 d0 d1 ∈ db.ids then some [] else none))
  | _ => none

/-- The database without the records of these ids. -/
def without (dbids : List UInt16) : Database where
  storages := db.storages.filter fun s => s.dbid ∉ dbids
  users := db.users.filter fun u => u.dbid ∉ dbids
  fingers := db.fingers.filter fun f => f.ref.dbid ∉ dbids
  distinct := by
    refine db.distinct.sublist (List.Sublist.cons_cons _ ?_)
    refine List.Sublist.append (List.Sublist.append ?_ ?_) ?_
    · exact List.filter_sublist.map _
    · exact List.filter_sublist.map _
    · exact List.filter_sublist.map _
  names := fun s hs => db.names s (List.mem_filter.mp hs).1
  identities := fun u hu => db.identities u (List.mem_filter.mp hu).1

/-- What an honest sensor makes of its database on a command, creations apart. -/
def after (out : Bytes) : Database :=
  match out with
  | [0x48, d0, d1] => db.without [Bytes.fromLe16 d0 d1]
  | _ => db

theorem after_deletion (dbid : UInt16) :
    db.after (0x48 :: Bytes.le16 dbid) = db.without [dbid] := by
  simp only [after, Bytes.le16, Bytes.fromLe16_le16]

theorem after_quiet {out : Bytes} (h : Changes (.cmd out) = false) : db.after out = db := by
  unfold after
  split
  · cases h
  · rfl

/-! The ids are distinct, so each names one record. -/

theorem ids_nodup : db.ids.Nodup := (List.nodup_cons.mp db.distinct).2

variable {db}

theorem ids_ne_zero {dbid : UInt16} (h : dbid ∈ db.ids) : dbid ≠ 0 := by
  intro zero
  rw [zero] at h
  exact (List.nodup_cons.mp db.distinct).1 h

theorem mem_ids {dbid : UInt16} : dbid ∈ db.ids ↔ (∃ s ∈ db.storages, s.dbid = dbid) ∨
    (∃ u ∈ db.users, u.dbid = dbid) ∨ ∃ f ∈ db.fingers, f.ref.dbid = dbid := by
  simp only [ids, idsOf, List.mem_append, List.mem_map, or_assoc]

theorem users_inj {u v : UserRecord} (hu : u ∈ db.users) (hv : v ∈ db.users)
    (h : u.dbid = v.dbid) : u = v := by
  have nodup := (List.nodup_append.mp (List.nodup_append.mp db.ids_nodup).1).2.1
  exact List.inj_on_of_nodup_map nodup hu hv h

theorem fingers_inj {f g : FingerRecord} (hf : f ∈ db.fingers) (hg : g ∈ db.fingers)
    (h : f.ref.dbid = g.ref.dbid) : f = g := by
  have nodup := (List.nodup_append.mp db.ids_nodup).2.1
  exact List.inj_on_of_nodup_map nodup hf hg h

theorem finger_id_ne {f : FingerRecord} (hf : f ∈ db.fingers) :
    (∀ s ∈ db.storages, s.dbid ≠ f.ref.dbid) ∧ ∀ u ∈ db.users, u.dbid ≠ f.ref.dbid := by
  have apart := (List.nodup_append.mp db.ids_nodup).2.2
  have last : f.ref.dbid ∈ db.fingers.map fun f => f.ref.dbid := List.mem_map_of_mem hf
  constructor
  · intro s hs
    exact apart _ (List.mem_append_left _ (List.mem_map_of_mem hs)) _ last
  · intro u hu
    exact apart _ (List.mem_append_right _ (List.mem_map_of_mem hu)) _ last

theorem user?_of_mem {u : UserRecord} (hu : u ∈ db.users) : db.user? u.dbid = some u := by
  cases found : db.user? u.dbid with
  | none =>
    have no := List.find?_eq_none.mp found u hu
    simp at no
  | some v =>
    have same := List.find?_some found
    rw [users_inj (List.mem_of_find?_eq_some found) hu (by simpa using same)]

/-! Every table fits its count, and every reply is read back as what it says. -/

theorem length_lt_of_nodup {l : List UInt16} (h : (0 :: l).Nodup) : l.length < 65536 := by
  have nodup : ((0 :: l).map UInt16.toNat).Nodup :=
    h.map fun a b hab => UInt16.toNat_inj.mp hab
  have inside : (0 :: l).map UInt16.toNat ⊆ List.range 65536 := by
    intro n hn
    obtain ⟨a, _, rfl⟩ := List.mem_map.mp hn
    exact List.mem_range.mpr a.toNat_lt
  have short := (List.subperm_of_subset nodup inside).length_le
  simp only [List.length_map, List.length_cons, List.length_range] at short
  omega

theorem usersOf_length (db : Database) (storage : UInt16) :
    (db.usersOf storage).length < 65536 := by
  have sub : ((db.usersOf storage).map UserRecord.dbid).Sublist db.ids := by
    refine (List.filter_sublist.map _).trans ?_
    exact (List.sublist_append_right _ _).trans (List.sublist_append_left _ _)
  have short := length_lt_of_nodup (db.distinct.sublist (List.Sublist.cons_cons 0 sub))
  simpa using short

theorem fingersOf_length (db : Database) (user : UInt16) : (db.fingersOf user).length < 65536 := by
  have sub : ((db.fingersOf user).map FingerRef.dbid).Sublist db.ids := by
    rw [fingersOf, List.map_map]
    exact (List.filter_sublist.map _).trans (List.sublist_append_right _ _)
  have short := length_lt_of_nodup (db.distinct.sublist (List.Sublist.cons_cons 0 sub))
  simpa using short

theorem ofNat_toNat {n : Nat} (h : n < 65536) : (UInt16.ofNat n).toNat = n := by
  rw [UInt16.toNat_ofNat']
  omega

/-- What a storage's reply is read as. -/
def storageRead (db : Database) (s : StorageRecord) : UserStorage where
  dbid := s.dbid
  name := (s.name.reverse.dropWhile (· = 0)).reverse
  users := (db.usersOf s.dbid).map fun u => ⟨u.dbid, Bytes.len16 u.identity⟩

theorem storageRow_length (u : UserRecord) : (storageRow u).length = 4 := rfl

theorem fingerRow_length (f : FingerRef) : (fingerRow f).length = 8 := rfl

theorem storageRows_read (l : List UserRecord) :
    Outcome.each (ε := String) (fun i => do
      let dbid ← Bytes.rd16 (l.flatMap storageRow) (i * 4)
      let valueSize ← Bytes.rd16 (l.flatMap storageRow) (i * 4 + 2)
      .ok (⟨dbid, valueSize⟩ : UserRef)) (List.range l.length) =
      .ok (l.map fun u => ⟨u.dbid, Bytes.len16 u.identity⟩) := by
  rw [← List.length_map (fun u : UserRecord => (⟨u.dbid, Bytes.len16 u.identity⟩ : UserRef))]
  refine Outcome.each_range fun i hi => ?_
  have inside : i < l.length := by rwa [List.length_map] at hi
  have dbid : (Bytes.rd16 (l.flatMap storageRow) (i * 4) : Outcome String UInt16) =
      .ok l[i].dbid :=
    Bytes.rd16_row storageRow_length inside [] (Bytes.le16 (Bytes.len16 l[i].identity)) rfl rfl
  have valueSize : (Bytes.rd16 (l.flatMap storageRow) (i * 4 + 2) : Outcome String UInt16) =
      .ok (Bytes.len16 l[i].identity) :=
    Bytes.rd16_row storageRow_length inside (Bytes.le16 l[i].dbid) []
      (by rw [storageRow, List.append_nil]) rfl
  simp only [dbid, valueSize, Outcome.ok_bind, List.getElem_map]

theorem fingerRows_read (l : List FingerRef) :
    Outcome.each (ε := String) (fun i => do
      let dbid ← Bytes.rd16 (l.flatMap fingerRow) (i * 8)
      let subtype ← Bytes.rd16 (l.flatMap fingerRow) (i * 8 + 2)
      let storage ← Bytes.rd16 (l.flatMap fingerRow) (i * 8 + 4)
      let valueSize ← Bytes.rd16 (l.flatMap fingerRow) (i * 8 + 6)
      .ok (⟨dbid, subtype, storage, valueSize⟩ : FingerRef)) (List.range l.length) = .ok l := by
  refine Outcome.each_range fun i hi => ?_
  generalize at_ : l[i] = f
  have dbid : (Bytes.rd16 (l.flatMap fingerRow) (i * 8) : Outcome String UInt16) = .ok f.dbid :=
    Bytes.rd16_row fingerRow_length hi []
      (Bytes.le16 f.subtype ++ Bytes.le16 f.storage ++ Bytes.le16 f.valueSize)
      (by rw [at_, fingerRow]; simp only [List.append_assoc, List.nil_append]) rfl
  have subtype : (Bytes.rd16 (l.flatMap fingerRow) (i * 8 + 2) : Outcome String UInt16) =
      .ok f.subtype :=
    Bytes.rd16_row fingerRow_length hi (Bytes.le16 f.dbid)
      (Bytes.le16 f.storage ++ Bytes.le16 f.valueSize)
      (by rw [at_, fingerRow]; simp only [List.append_assoc]) rfl
  have storage : (Bytes.rd16 (l.flatMap fingerRow) (i * 8 + 4) : Outcome String UInt16) =
      .ok f.storage :=
    Bytes.rd16_row fingerRow_length hi (Bytes.le16 f.dbid ++ Bytes.le16 f.subtype)
      (Bytes.le16 f.valueSize) (by rw [at_, fingerRow]) rfl
  have valueSize : (Bytes.rd16 (l.flatMap fingerRow) (i * 8 + 6) : Outcome String UInt16) =
      .ok f.valueSize :=
    Bytes.rd16_row fingerRow_length hi
      (Bytes.le16 f.dbid ++ Bytes.le16 f.subtype ++ Bytes.le16 f.storage) []
      (by rw [at_, fingerRow, List.append_nil]) rfl
  simp only [dbid, subtype, storage, valueSize, Outcome.ok_bind]

theorem parseUserStorage_reply {s : StorageRecord} (hs : s ∈ db.storages) :
    parseUserStorage (db.storageReply s) = .ok (db.storageRead s) := by
  have few := ofNat_toNat (db.usersOf_length s.dbid)
  have name := Bytes.len16_toNat (db.names s hs)
  have tableSize := Bytes.table_length storageRow_length (db.usersOf s.dbid)
  have size : (db.storageReply s).length =
      8 + 4 * (db.usersOf s.dbid).length + s.name.length := by
    simp only [storageReply, List.length_append, Bytes.le16_length, tableSize]
  have recid : (Bytes.rd16 (db.storageReply s) 0 : Outcome String UInt16) = .ok s.dbid :=
    Bytes.rd16_at [] _ (by simp only [storageReply, List.append_assoc, List.nil_append]; rfl) rfl
  have count : (Bytes.rd16 (db.storageReply s) 2 : Outcome String UInt16) =
      .ok (UInt16.ofNat (db.usersOf s.dbid).length) :=
    Bytes.rd16_at (Bytes.le16 s.dbid) _ (by simp only [storageReply, List.append_assoc]; rfl) rfl
  have namesz : (Bytes.rd16 (db.storageReply s) 4 : Outcome String UInt16) =
      .ok (Bytes.len16 s.name) :=
    Bytes.rd16_at (Bytes.le16 s.dbid ++ Bytes.le16 (UInt16.ofNat (db.usersOf s.dbid).length)) _
      (by simp only [storageReply, List.append_assoc]; rfl) rfl
  have table : Bytes.range? (db.storageReply s) 8 (8 + 4 * (db.usersOf s.dbid).length) =
      some ((db.usersOf s.dbid).flatMap storageRow) :=
    Bytes.range?_at _ _ rfl rfl (by rw [tableSize]; rfl)
  have nameField : Bytes.range? (db.storageReply s) (8 + 4 * (db.usersOf s.dbid).length)
      (8 + 4 * (db.usersOf s.dbid).length + s.name.length) = some s.name :=
    Bytes.range?_at _ [] (List.append_nil _).symm
      (by simp only [List.length_append, Bytes.le16_length, tableSize])
      (by simp only [List.length_append, Bytes.le16_length, tableSize])
  have rows := storageRows_read (db.usersOf s.dbid)
  unfold parseUserStorage
  simp only [Outcome.bailIf, size, recid, count, namesz, few, name, table, nameField, rows,
    Outcome.ok_bind, Outcome.ofOption]
  rw [if_neg (by omega)]
  rfl

/-- What a user's reply is read as: an identity nobody can decode fails the whole reply. -/
def decoded (db : Database) (u : UserRecord) : Outcome String User := do
  let identity ← Sid.parseIdentity u.identity
  .ok ⟨u.dbid, identity, db.fingersOf u.dbid⟩

theorem parseUser_reply {u : UserRecord} (hu : u ∈ db.users) :
    parseUser (db.userReply u) = db.decoded u := by
  have few := ofNat_toNat (db.fingersOf_length u.dbid)
  have length := Bytes.len16_toNat (db.identities u hu)
  have tableSize := Bytes.table_length fingerRow_length (db.fingersOf u.dbid)
  have size : (db.userReply u).length =
      8 + 8 * (db.fingersOf u.dbid).length + u.identity.length := by
    simp only [userReply, List.length_append, Bytes.le16_length, tableSize]
  have recid : (Bytes.rd16 (db.userReply u) 0 : Outcome String UInt16) = .ok u.dbid :=
    Bytes.rd16_at [] _ (by simp only [userReply, List.append_assoc, List.nil_append]; rfl) rfl
  have count : (Bytes.rd16 (db.userReply u) 2 : Outcome String UInt16) =
      .ok (UInt16.ofNat (db.fingersOf u.dbid).length) :=
    Bytes.rd16_at (Bytes.le16 u.dbid) _ (by simp only [userReply, List.append_assoc]; rfl) rfl
  have identitysz : (Bytes.rd16 (db.userReply u) 6 : Outcome String UInt16) =
      .ok (Bytes.len16 u.identity) :=
    Bytes.rd16_at (Bytes.le16 u.dbid ++
      Bytes.le16 (UInt16.ofNat (db.fingersOf u.dbid).length) ++ Bytes.le16 0) _
      (by simp only [userReply, List.append_assoc]; rfl) rfl
  have table : Bytes.range? (db.userReply u) 8 (8 + 8 * (db.fingersOf u.dbid).length) =
      some ((db.fingersOf u.dbid).flatMap fingerRow) :=
    Bytes.range?_at _ _ rfl rfl (by rw [tableSize]; rfl)
  have identity : Bytes.range? (db.userReply u) (8 + 8 * (db.fingersOf u.dbid).length)
      (8 + 8 * (db.fingersOf u.dbid).length + u.identity.length) = some u.identity :=
    Bytes.range?_at _ [] (List.append_nil _).symm
      (by simp only [List.length_append, Bytes.le16_length, tableSize])
      (by simp only [List.length_append, Bytes.le16_length, tableSize])
  have rows := fingerRows_read (db.fingersOf u.dbid)
  unfold parseUser decoded
  simp only [Outcome.bailIf, size, recid, count, identitysz, few, length, table, identity, rows,
    Outcome.ok_bind, Outcome.ofOption]
  rw [if_neg (by omega)]
  rfl

end Database

end ValidityFprintd.Records
