import ValidityFprintd.Flash
import ValidityFprintd.Sid

/-! The sensor's on-chip record database: a named storage object holds users, and each
user holds fingers. -/

namespace ValidityFprintd.Db
open Effect

variable {S : Type}

/-- `StgWindsor`. -/
def storageName : Bytes := [0x53, 0x74, 0x67, 0x57, 0x69, 0x6e, 0x64, 0x73, 0x6f, 0x72]

def statusNotFound : UInt16 := 0x04b3

structure FingerRef where
  dbid : UInt16
  subtype : UInt16
  storage : UInt16
  valueSize : UInt16
  deriving DecidableEq

structure UserRef where
  dbid : UInt16
  valueSize : UInt16
  deriving DecidableEq

/-- `name` is the bytes of the storage's name, without the zeros at its end. -/
structure UserStorage where
  dbid : UInt16
  name : Bytes
  users : List UserRef
  deriving DecidableEq

structure User where
  dbid : UInt16
  identity : SidIdentity
  fingers : List FingerRef
  deriving DecidableEq

structure DbInfo where
  total : UInt32
  used : UInt32
  free : UInt32
  records : UInt16
  roots : List UInt16
  deriving DecidableEq

def parseDbInfo (b : Bytes) : Outcome String DbInfo := do
  Outcome.bailIf (b.length < 0x18) s!"db info reply too short ({b.length} bytes)"
  let nroots ← Bytes.rd16 b 22
  -- a table cut short leaves its last roots out
  let roots ← Outcome.each (Bytes.rd16 · 0) ((List.range nroots.toNat).filterMap fun i =>
    Bytes.range? b (0x18 + i * 2) (0x18 + i * 2 + 2))
  let total ← Bytes.rd32 b 8
  let used ← Bytes.rd32 b 12
  let free ← Bytes.rd32 b 16
  let records ← Bytes.rd16 b 20
  .ok ⟨total, used, free, records, roots⟩

def dbInfo (w : Usb.World S) : Usb.Drv S DbInfo := do
  let rsp ← Usb.cmd w [0x45]
  Usb.check rsp
  Act.ofOutcome (parseDbInfo (rsp.drop 2))

def parseUserStorage (b : Bytes) : Outcome String UserStorage := do
  Outcome.bailIf (b.length < 8) s!"user storage reply too short ({b.length} bytes)"
  let recid ← Bytes.rd16 b 0
  let usercnt ← Bytes.rd16 b 2
  let namesz ← Bytes.rd16 b 4
  let tab ← Outcome.ofOption "user table truncated" (Bytes.range? b 8 (8 + 4 * usercnt.toNat))
  let nameField ← Outcome.ofOption "storage name truncated"
    (Bytes.range? b (8 + 4 * usercnt.toNat) (8 + 4 * usercnt.toNat + namesz.toNat))
  let users ← Outcome.each (fun i => do
    let dbid ← Bytes.rd16 tab (i * 4)
    let valueSize ← Bytes.rd16 tab (i * 4 + 2)
    .ok (⟨dbid, valueSize⟩ : UserRef)) (List.range usercnt.toNat)
  .ok ⟨recid, (nameField.reverse.dropWhile (· = 0)).reverse, users⟩

def storageQuery (name : Bytes) : Bytes :=
  let nameBytes := if name.isEmpty then name else name ++ [0]
  0x4b :: (Bytes.le16 0 ++ Bytes.le16 (Bytes.len16 nameBytes) ++ nameBytes)

def getUserStorage (w : Usb.World S) (name : Bytes) : Usb.Drv S (Option UserStorage) := do
  let rsp ← Usb.cmd w (storageQuery name)
  if Usb.statusIs statusNotFound rsp then Act.ret none
  else do
    Usb.check rsp
    let storage ← Act.ofOutcome (parseUserStorage (rsp.drop 2))
    Act.ret (some storage)

def parseUser (b : Bytes) : Outcome String User := do
  Outcome.bailIf (b.length < 8) s!"user reply too short ({b.length} bytes)"
  let recid ← Bytes.rd16 b 0
  let fingercnt ← Bytes.rd16 b 2
  let identitysz ← Bytes.rd16 b 6
  let tab ← Outcome.ofOption "finger table truncated" (Bytes.range? b 8 (8 + 8 * fingercnt.toNat))
  let identity ← Outcome.ofOption "identity field truncated"
    (Bytes.range? b (8 + 8 * fingercnt.toNat) (8 + 8 * fingercnt.toNat + identitysz.toNat))
  let fingers ← Outcome.each (fun i => do
    let dbid ← Bytes.rd16 tab (i * 8)
    let subtype ← Bytes.rd16 tab (i * 8 + 2)
    let storage ← Bytes.rd16 tab (i * 8 + 4)
    let valueSize ← Bytes.rd16 tab (i * 8 + 6)
    .ok (⟨dbid, subtype, storage, valueSize⟩ : FingerRef)) (List.range fingercnt.toNat)
  let identity ← Sid.parseIdentity identity
  .ok ⟨recid, identity, fingers⟩

def userQuery (dbid : UInt16) : Bytes := 0x4a :: (Bytes.le16 dbid ++ Bytes.le16 0 ++ Bytes.le16 0)

def getUser (w : Usb.World S) (dbid : UInt16) : Usb.Drv S User := do
  let rsp ← Usb.cmd w (userQuery dbid)
  Usb.check rsp
  Act.ofOutcome (parseUser (rsp.drop 2))

def getUsers (w : Usb.World S) : List UserRef → Usb.Drv S (List User)
  | [] => Act.ret []
  | u :: us => do
    let user ← getUser w u.dbid
    let users ← getUsers w us
    Act.ret (user :: users)

structure RecordChild where
  dbid : UInt16
  kind : UInt16
  deriving DecidableEq

structure Record where
  dbid : UInt16
  kind : UInt16
  storage : UInt16
  value : Bytes
  children : List RecordChild
  deriving DecidableEq

def parseRecordChildren (rsp : Bytes) : Outcome String Record := do
  Outcome.bailIf (rsp.length < 14) s!"record children reply too short ({rsp.length} bytes)"
  let cnt ← Bytes.rd16 rsp 10
  -- a table cut short leaves its last children out
  let children ← Outcome.each (fun c => do
    let dbid ← Bytes.rd16 c 0
    let kind ← Bytes.rd16 c 2
    .ok (⟨dbid, kind⟩ : RecordChild)) ((List.range cnt.toNat).filterMap fun i =>
    Bytes.range? (rsp.drop 14) (i * 4) (i * 4 + 4))
  let dbid ← Bytes.rd16 rsp 2
  let kind ← Bytes.rd16 rsp 4
  let storage ← Bytes.rd16 rsp 6
  .ok ⟨dbid, kind, storage, [], children⟩

def getRecordChildren (w : Usb.World S) (dbid : UInt16) : Usb.Drv S Record := do
  let rsp ← Usb.cmd w (0x46 :: Bytes.le16 dbid)
  Usb.check rsp
  Act.ofOutcome (parseRecordChildren rsp)

def listUsers (w : Usb.World S) : Usb.Drv S (List User) := do
  let storage ← getUserStorage w storageName
  match storage with
  | none => Act.ret []
  | some storage => getUsers w storage.users

def recordUser : UInt16 := 5

def recordFingerRequested : UInt16 := 0xb

def recordCreation (parent kind storage : UInt16) (data : Bytes) : Bytes :=
  0x47 :: (Bytes.le16 parent ++ Bytes.le16 kind ++ Bytes.le16 storage ++
    Bytes.le16 (Bytes.len16 data) ++ data)

def createRecord (w : Usb.World S) (parent kind storage : UInt16) (data : Bytes) :
    Usb.Drv S UInt16 := do
  let rsp ← Usb.request w (recordCreation parent kind storage data) "creating database record"
  Act.bailIf (rsp.length < 4) "record creation reply too short"
  Act.ofOutcome (Bytes.rd16 rsp 2)

def newRecord (w : Usb.World S) (blob : WriteEnable) (parent kind storage : UInt16)
    (data : Bytes) : Usb.Drv S UInt16 := do
  let _ ← dbInfo w
  Flash.commitAfter w blob (createRecord w parent kind storage data)

def identityQuery (storage : UInt16) (data : Bytes) : Bytes :=
  0x4a :: (Bytes.le16 0 ++ Bytes.le16 storage ++ Bytes.le16 (Bytes.len16 data) ++ data)

/-- `0x4a` with an identity: find a user by SID. -/
def lookupUser (w : Usb.World S) (identity : SidIdentity) : Usb.Drv S (Option User) := do
  let storage ← getUserStorage w storageName
  match storage with
  | none => Act.ret none
  | some storage => do
    let rsp ← Usb.cmd w (identityQuery storage.dbid (Sid.identityToBytes identity))
    if Usb.statusIs statusNotFound rsp then Act.ret none
    else do
      Usb.check rsp
      let user ← Act.ofOutcome (parseUser (rsp.drop 2))
      Act.ret (some user)

def ensureUserStorage (w : Usb.World S) (blob : WriteEnable) : Usb.Drv S UserStorage := do
  let storage ← getUserStorage w storageName
  match storage with
  | some storage => Act.ret storage
  | none => do
    let _ ← newRecord w blob 1 4 3 (storageName ++ [0])
    let storage ← getUserStorage w storageName
    match storage with
    | some storage => Act.ret storage
    | none => Act.fail "storage object missing after creation"

def newUser (w : Usb.World S) (blob : WriteEnable) (identity : SidIdentity) :
    Usb.Drv S UInt16 := do
  let storage ← ensureUserStorage w blob
  newRecord w blob storage.dbid recordUser storage.dbid (Sid.identityToBytes identity)

def newFinger (w : Usb.World S) (blob : WriteEnable) (userDbid : UInt16) (template : Bytes) :
    Usb.Drv S UInt16 := do
  let storage ← ensureUserStorage w blob
  newRecord w blob userDbid recordFingerRequested storage.dbid template

def delRecord (w : Usb.World S) (dbid : UInt16) : Usb.Drv S Unit :=
  Usb.exchange w (0x48 :: Bytes.le16 dbid) "deleting database record"

def delRecords (w : Usb.World S) : List UInt16 → Usb.Drv S Unit
  | [] => Act.ret ()
  | dbid :: dbids => do
    delRecord w dbid
    delRecords w dbids

/-- The fingers of a user that `doomed` picks: what `delete_fingers_of_subtype` and
`delete_all_fingers` have in common. -/
def deleteFingers (w : Usb.World S) (identity : SidIdentity) (doomed : FingerRef → Bool) :
    Usb.Drv S Nat := do
  let user ← lookupUser w identity
  match user with
  | none => Act.ret 0
  | some user => do
    let dbids := (user.fingers.filter doomed).map FingerRef.dbid
    delRecords w dbids
    Act.ret dbids.length

def deleteFingersOfSubtype (w : Usb.World S) (identity : SidIdentity) (subtype : UInt16) :
    Usb.Drv S Nat :=
  deleteFingers w identity fun f => f.subtype = subtype

def deleteAllFingers (w : Usb.World S) (identity : SidIdentity) : Usb.Drv S Nat :=
  deleteFingers w identity fun _ => true

/-- A command that deletes a record (`0x48`) or creates one (`0x47`). -/
def Changes : Usb.Query → Bool
  | .cmd (c :: _) => c = 0x48 || c = 0x47
  | _ => false

end ValidityFprintd.Db
