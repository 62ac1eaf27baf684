import ValidityFprintd.LiteralPairing
import ValidityFprintd.Enroll

/-! The parsers of the sensor's replies as the source writes them: database records, enrolment
updates, capture states and matches. None of their steps panics, so each is the parser modelled
without them. -/

namespace ValidityFprintd.Literal
open Effect

variable {S : Type}

theorem get_byteAt (b : Bytes) (i : Nat) :
    (Checked.get b i : Outcome String UInt8) = Bytes.byteAt b i := by
  unfold Checked.get Bytes.byteAt
  cases b[i]? <;> rfl

section Status

def checkStatus (rsp : Bytes) : Outcome String Unit := do
  Outcome.bailIf (rsp.length < 2) s!"short reply: {rsp.length} bytes"
  let status ← rd16 rsp 0
  if status = 0 then .ok ()
  else if status = 0x044f then .err "signature validation failed (0x044f)"
  else .err s!"sensor returned error status {Bytes.hexNumber 4 status.toNat}"

def statusIs (status : UInt16) (rsp : Bytes) : Outcome String Bool :=
  if 2 ≤ rsp.length then do
    let word ← rd16 rsp 0
    .ok (word = status)
  else .ok false

def check {E T : Type} (rsp : Bytes) : Act String E T Unit := Act.ofOutcome (checkStatus rsp)

def request (w : Usb.World S) (out : Bytes) (c : String) : Usb.Drv S Bytes := do
  let rsp ← Usb.cmd w out
  Act.mapErr (Usb.context c) (check rsp)
  Act.ret rsp

def exchange (w : Usb.World S) (out : Bytes) (c : String) : Usb.Drv S Unit := do
  let _ ← request w out c
  Act.ret ()

theorem checkStatus_eq (rsp : Bytes) : checkStatus rsp = ofExcept (Usb.checkStatus rsp) := by
  match rsp with
  | [] | [_] => rfl
  | a :: b :: rest =>
    have word : rd16 (a :: b :: rest) 0 = .ok (Bytes.fromLe16 a b) := rd16_eq (by decide)
    have size : (a :: b :: rest).length = rest.length + 2 := rfl
    rw [checkStatus, word, Outcome.bailIf, if_neg (by omega), Outcome.ok_bind, Outcome.ok_bind]
    simp only [Usb.checkStatus, apply_ite ofExcept]
    rfl

theorem statusIs_eq (status : UInt16) (rsp : Bytes) :
    statusIs status rsp = .ok (Usb.statusIs status rsp) := by
  match rsp with
  | [] | [_] => rfl
  | a :: b :: rest =>
    have word : rd16 (a :: b :: rest) 0 = .ok (Bytes.fromLe16 a b) := rd16_eq (by decide)
    have size : 2 ≤ (a :: b :: rest).length := Nat.le_add_left 2 _
    rw [statusIs, if_pos size, word]
    rfl

theorem check_eq {E T : Type} (rsp : Bytes) :
    (check rsp : Act String E T Unit) = Usb.check rsp := by
  rw [check, checkStatus_eq, ofOutcome_ofExcept, Usb.check]

theorem request_eq (w : Usb.World S) (out : Bytes) (c : String) :
    request w out c = Usb.request w out c := by
  simp only [request, Usb.request, check_eq]

theorem exchange_eq (w : Usb.World S) (out : Bytes) (c : String) :
    exchange w out c = Usb.exchange w out c := by
  simp only [exchange, Usb.exchange, request_eq]

theorem check_slice {α : Type} (rsp : Bytes) (f : Bytes → Usb.Drv S α) :
    (Usb.check rsp >>= fun _ => Act.ofOutcome (Checked.sliceFrom rsp 2) >>= f) =
      (Usb.check rsp >>= fun _ => f (rsp.drop 2)) := by
  unfold Usb.check
  cases status : Usb.checkStatus rsp with
  | error e => rfl
  | ok u =>
    obtain ⟨rest, rfl⟩ := (Usb.checkStatus_ok_iff rsp).mp status
    rw [Checked.sliceFrom_eq (Nat.le_add_left 2 _)]
    rfl

theorem request_slice {α : Type} (w : Usb.World S) (out : Bytes) (c : String)
    (f : Bytes → Usb.Drv S α) :
    (Usb.request w out c >>= fun rsp => Act.ofOutcome (Checked.sliceFrom rsp 2) >>= f) =
      (Usb.request w out c >>= fun rsp => f (rsp.drop 2)) := by
  funext s
  rw [Act.bind_run, Act.bind_run]
  obtain ⟨e, t, _, ⟨rsp, _, status, run⟩ | ⟨_, err, run⟩⟩ := Usb.request_run w out c s
  · obtain ⟨rest, rfl⟩ := (Usb.checkStatus_ok_iff rsp).mp status
    rw [run, Act.follow_ok, Act.follow_ok, Checked.sliceFrom_eq (Nat.le_add_left 2 _)]
    rfl
  · rw [run, Act.follow_err, Act.follow_err]

end Status

section Identities

def fromBytes (b : Bytes) : Outcome String SidIdentity := do
  Outcome.bailIf (b.length < 8) s!"SID is too short ({b.length} bytes)"
  let revision ← Checked.get b 0
  let subcnt ← Checked.get b 1
  let authority ← Checked.slice b 2 8
  let auth := authority.foldl (fun (auth : UInt64) byte => auth <<< 8 ||| byte.toUInt64) 0
  let size ← Checked.mul 4 subcnt.toNat
  let needed ← Checked.add 8 size
  Outcome.bailIf (b.length < needed)
    s!"SID declares {subcnt} sub-authorities but is only {b.length} bytes"
  let subauth ← Outcome.each (fun i => do
    let at4 ← Checked.mul i 4
    let o ← Checked.add 8 at4
    rd32 b o) (List.range subcnt.toNat)
  .ok ⟨revision, auth, subauth⟩

def parseIdentity (b : Bytes) : Outcome String SidIdentity := do
  Outcome.bailIf (b.length < 8) s!"identity blob is too short ({b.length} bytes)"
  let t ← rd32 b 0
  Outcome.bailIf (t ≠ 3) s!"unsupported identity type {t}"
  let l ← rd32 b 4
  let stop ← Checked.add 8 l.toNat
  let sid ← Outcome.ofOption "identity blob is truncated" (Bytes.range? b 8 stop)
  fromBytes sid

theorem fromBytes_eq (b : Bytes) : fromBytes b = SidIdentity.fromBytes b := by
  simp only [fromBytes, get_byteAt]
  refine Checked.guard_congr fun long => ?_
  refine Checked.bind_congr fun revision _ => ?_
  refine Checked.bind_congr fun subcnt _ => ?_
  have few := subcnt.toNat_lt
  rw [Checked.slice_eq (by decide) (by omega), Outcome.ok_bind, Checked.mul_eq (by omega),
    Outcome.ok_bind, Checked.add_eq (by omega), Outcome.ok_bind]
  refine Checked.guard_congr fun complete => ?_
  rw [Outcome.each_congr fun i inside => ?_]
  have small := List.mem_range.mp inside
  rw [Checked.mul_eq (by omega), Outcome.ok_bind, Checked.add_eq (by omega), Outcome.ok_bind,
    rd32_eq (by omega)]

theorem parseIdentity_eq (b : Bytes) : parseIdentity b = Sid.parseIdentity b := by
  refine Checked.guard_congr fun long => ?_
  rw [rd32_eq (by decide)]
  refine Checked.bind_congr fun t _ => Checked.guard_congr fun _ => ?_
  rw [rd32_eq (by decide)]
  refine Checked.bind_congr fun l _ => ?_
  have small := l.toNat_lt
  rw [Checked.add_eq (by omega), Outcome.ok_bind]
  exact Checked.bind_congr fun sid _ => fromBytes_eq sid

end Identities

section Records

/-- A word of row `i` of a table. -/
def field (tab : Bytes) (width i k : Nat) : Outcome String UInt16 := do
  let row ← Checked.mul i width
  let o ← Checked.add row k
  rd16 tab o

theorem field_eq {tab : Bytes} {width i k n : Nat} (inside : i ∈ List.range n) (few : n < 65536)
    (narrow : width ≤ 8) (word : k < 8) : field tab width i k = Bytes.rd16 tab (i * width + k) := by
  have row := List.mem_range.mp inside
  have place : i * width ≤ 65536 * 8 := Nat.mul_le_mul (by omega) narrow
  rw [field, Checked.mul_eq (by omega), Outcome.ok_bind, Checked.add_eq (by omega),
    Outcome.ok_bind, rd16_eq (by omega)]

def parseUserStorage (b : Bytes) : Outcome String Db.UserStorage := do
  Outcome.bailIf (b.length < 8) s!"user storage reply too short ({b.length} bytes)"
  let recid ← rd16 b 0
  let usercnt ← rd16 b 2
  let namesz ← rd16 b 4
  let size ← Checked.mul 4 usercnt.toNat
  let stop ← Checked.add 8 size
  let tab ← Outcome.ofOption "user table truncated" (Bytes.range? b 8 stop)
  let nameStop ← Checked.add stop namesz.toNat
  let nameField ← Outcome.ofOption "storage name truncated" (Bytes.range? b stop nameStop)
  let users ← Outcome.each (fun i => do
    let dbid ← field tab 4 i 0
    let valueSize ← field tab 4 i 2
    .ok (⟨dbid, valueSize⟩ : Db.UserRef)) (List.range usercnt.toNat)
  .ok ⟨recid, (nameField.reverse.dropWhile (· = 0)).reverse, users⟩

def parseUser (b : Bytes) : Outcome String Db.User := do
  Outcome.bailIf (b.length < 8) s!"user reply too short ({b.length} bytes)"
  let recid ← rd16 b 0
  let fingercnt ← rd16 b 2
  let identitysz ← rd16 b 6
  let size ← Checked.mul 8 fingercnt.toNat
  let stop ← Checked.add 8 size
  let tab ← Outcome.ofOption "finger table truncated" (Bytes.range? b 8 stop)
  let identityStop ← Checked.add stop identitysz.toNat
  let identity ← Outcome.ofOption "identity field truncated" (Bytes.range? b stop identityStop)
  let fingers ← Outcome.each (fun i => do
    let dbid ← field tab 8 i 0
    let subtype ← field tab 8 i 2
    let storage ← field tab 8 i 4
    let valueSize ← field tab 8 i 6
    .ok (⟨dbid, subtype, storage, valueSize⟩ : Db.FingerRef)) (List.range fingercnt.toNat)
  let identity ← parseIdentity identity
  .ok ⟨recid, identity, fingers⟩

theorem parseUserStorage_eq (b : Bytes) : parseUserStorage b = Db.parseUserStorage b := by
  unfold parseUserStorage Db.parseUserStorage
  rw [rd16_eq (by decide), rd16_eq (by decide), rd16_eq (by decide)]
  refine Checked.guard_congr fun long => Checked.bind_congr fun recid _ => ?_
  refine Checked.bind_congr fun usercnt _ => Checked.bind_congr fun namesz _ => ?_
  have few := usercnt.toNat_lt
  have short := namesz.toNat_lt
  rw [Checked.mul_eq (by omega), Outcome.ok_bind, Checked.add_eq (by omega), Outcome.ok_bind]
  refine Checked.bind_congr fun tab _ => ?_
  rw [Checked.add_eq (by omega), Outcome.ok_bind]
  refine Checked.bind_congr fun nameField _ => ?_
  rw [Outcome.each_congr fun i inside => ?_]
  rw [field_eq inside few (by decide) (by decide), field_eq inside few (by decide) (by decide)]
  rfl

theorem parseUser_eq (b : Bytes) : parseUser b = Db.parseUser b := by
  unfold parseUser Db.parseUser
  rw [rd16_eq (by decide), rd16_eq (by decide), rd16_eq (by decide)]
  refine Checked.guard_congr fun long => Checked.bind_congr fun recid _ => ?_
  refine Checked.bind_congr fun fingercnt _ => Checked.bind_congr fun identitysz _ => ?_
  have few := fingercnt.toNat_lt
  have short := identitysz.toNat_lt
  rw [Checked.mul_eq (by omega), Outcome.ok_bind, Checked.add_eq (by omega), Outcome.ok_bind]
  refine Checked.bind_congr fun tab _ => ?_
  rw [Checked.add_eq (by omega), Outcome.ok_bind]
  refine Checked.bind_congr fun identity _ => ?_
  rw [parseIdentity_eq, Outcome.each_congr fun i inside => ?_]
  rw [field_eq inside few (by decide) (by decide), field_eq inside few (by decide) (by decide),
    field_eq inside few (by decide) (by decide), field_eq inside few (by decide) (by decide)]
  rfl

def getUserStorage (w : Usb.World S) (name : Bytes) : Usb.Drv S (Option Db.UserStorage) := do
  let rsp ← Usb.cmd w (Db.storageQuery name)
  let missing ← Act.ofOutcome (statusIs Db.statusNotFound rsp)
  if missing then Act.ret none
  else do
    check rsp
    let b ← Act.ofOutcome (Checked.sliceFrom rsp 2)
    let storage ← Act.ofOutcome (parseUserStorage b)
    Act.ret (some storage)

def getUser (w : Usb.World S) (dbid : UInt16) : Usb.Drv S Db.User := do
  let rsp ← Usb.cmd w (Db.userQuery dbid)
  check rsp
  let b ← Act.ofOutcome (Checked.sliceFrom rsp 2)
  Act.ofOutcome (parseUser b)

def lookupUser (w : Usb.World S) (identity : SidIdentity) : Usb.Drv S (Option Db.User) := do
  let storage ← getUserStorage w Db.storageName
  match storage with
  | none => Act.ret none
  | some storage => do
    let rsp ← Usb.cmd w (Db.identityQuery storage.dbid (Sid.identityToBytes identity))
    let missing ← Act.ofOutcome (statusIs Db.statusNotFound rsp)
    if missing then Act.ret none
    else do
      check rsp
      let b ← Act.ofOutcome (Checked.sliceFrom rsp 2)
      let user ← Act.ofOutcome (parseUser b)
      Act.ret (some user)

theorem getUserStorage_eq (w : Usb.World S) (name : Bytes) :
    getUserStorage w name = Db.getUserStorage w name := by
  simp only [getUserStorage, Db.getUserStorage, statusIs_eq, Act.ofOutcome_ok_bind, check_eq,
    check_slice, parseUserStorage_eq]

theorem getUser_eq (w : Usb.World S) (dbid : UInt16) : getUser w dbid = Db.getUser w dbid := by
  simp only [getUser, Db.getUser, check_eq, check_slice, parseUser_eq]

theorem lookupUser_eq (w : Usb.World S) (identity : SidIdentity) :
    lookupUser w identity = Db.lookupUser w identity := by
  rw [lookupUser, Db.lookupUser, getUserStorage_eq]
  refine congrArg (Db.getUserStorage w Db.storageName >>= ·) (funext fun storage => ?_)
  cases storage with
  | none => rfl
  | some storage =>
    simp only [statusIs_eq, Act.ofOutcome_ok_bind, check_eq, check_slice, parseUser_eq]

end Records

section Enrolment

/-- What a record leaves in the result: the template keeps its header. -/
def keepRecord (r : Enroll.Records) (tag : UInt16) (rest : Bytes) (stop : Nat) :
    Outcome String Enroll.Records :=
  if tag = 0 then do
    let template ← Checked.sliceTo rest stop
    .ok { r with template := template }
  else if tag = 1 then do
    let header ← Checked.slice rest Enroll.magicLen stop
    .ok { r with header := header }
  else if tag = 3 then do
    let tid ← Checked.slice rest Enroll.magicLen stop
    .ok { r with tid := tid }
  else .ok r

/-- Each record takes at least its header off. -/
def parseRecords : Nat → Bytes → Enroll.Records → Outcome String Enroll.Records
  | 0, rest, r => if rest.length < 4 then .ok r else .stuck
  | fuel + 1, rest, r =>
    if rest.length < 4 then .ok r
    else do
      let tag ← rd16 rest 0
      let len ← rd16 rest 2
      let stop ← Checked.add Enroll.magicLen len.toNat
      Outcome.bailIf (rest.length < stop) s!"enrolment record {tag} is truncated"
      let r ← keepRecord r tag rest stop
      let rest ← Checked.sliceFrom rest stop
      parseRecords fuel rest r

def parseUpdate (res : Bytes) : Outcome String Enroll.Records := do
  Outcome.bailIf (res.length < 2) "enrolment reply too short"
  let l ← rd16 res 0
  let rest ← Checked.sliceFrom res 2
  Outcome.bailIf (l.toNat ≠ rest.length)
    s!"enrolment reply length mismatch: {l} != {rest.length}"
  parseRecords rest.length rest ⟨[], [], []⟩

def appendNewImage (w : Usb.World S) (fuel : Nat) (blob : WriteEnable) (prev : Bytes) :
    Usb.Drv S Enroll.Records := do
  let _ ← Enroll.enrollmentUpdate w blob prev
  let start ← Usb.now w
  let _ ← Capture.waitInt w fuel (start + 10000)
  let res ← Enroll.enrollmentUpdate w blob prev
  Act.ofOutcome (parseUpdate res)

theorem keepRecord_eq {r : Enroll.Records} {tag : UInt16} {rest : Bytes} {stop : Nat}
    (behind : Enroll.magicLen ≤ stop) (complete : stop ≤ rest.length) :
    keepRecord r tag rest stop = .ok
      (if tag = 0 then { r with template := rest.take stop }
      else if tag = 1 then { r with header := (rest.take stop).drop Enroll.magicLen }
      else if tag = 3 then { r with tid := (rest.take stop).drop Enroll.magicLen }
      else r) := by
  rw [keepRecord, Checked.sliceTo_eq complete, Checked.slice_eq behind complete]
  simp only [Outcome.ok_bind, apply_ite Outcome.ok]

theorem parseRecords_eq (fuel : Nat) (rest : Bytes) (r : Enroll.Records) :
    parseRecords fuel rest r = Enroll.parseRecords fuel rest r := by
  induction fuel generalizing rest r with
  | zero => rfl
  | succ fuel ih =>
    rw [parseRecords, Enroll.parseRecords, rd16_eq (by decide), rd16_eq (by decide)]
    split
    · rfl
    · refine Checked.bind_congr fun tag _ => Checked.bind_congr fun len _ => ?_
      have short := len.toNat_lt
      have header : Enroll.magicLen = 0x38 := rfl
      rw [Checked.add_eq (by omega), Outcome.ok_bind]
      refine Checked.guard_congr fun complete => ?_
      rw [keepRecord_eq (Nat.le_add_right _ _) (Nat.not_lt.mp complete), Outcome.ok_bind,
        Checked.sliceFrom_eq (Nat.not_lt.mp complete), Outcome.ok_bind, ih]

theorem parseUpdate_eq (res : Bytes) : parseUpdate res = Enroll.parseUpdate res := by
  unfold parseUpdate Enroll.parseUpdate
  rw [rd16_eq (by decide)]
  refine Checked.guard_congr fun long => Checked.bind_congr fun l _ => ?_
  rw [Checked.sliceFrom_eq (Nat.not_lt.mp long), Outcome.ok_bind]
  exact Checked.guard_congr fun _ => parseRecords_eq _ _ _

theorem appendNewImage_eq (w : Usb.World S) (fuel : Nat) (blob : WriteEnable) (prev : Bytes) :
    appendNewImage w fuel blob prev = Enroll.appendNewImage w fuel blob prev := by
  simp only [appendNewImage, Enroll.appendNewImage, parseUpdate_eq]

end Enrolment

section Captures

open Capture (CaptureResult MatchResult)

def parseCaptureStatus (body : Bytes) : Outcome String CaptureResult := do
  Outcome.bailIf (body.length < 4 + 12) s!"capture status reply too short ({body.length} bytes)"
  let l ← rd32 body 0
  let payload ← Checked.sliceFrom body 4
  Outcome.bailIf (l.toNat ≠ payload.length)
    s!"capture status length mismatch: {l} != {payload.length}"
  let error ← rd32 payload 8
  Outcome.bailIf (error ≠ 0) s!"scan failed with error {Bytes.hexNumber 8 error.toNat}"
  let x ← rd16 payload 0
  let y ← rd16 payload 2
  let w1 ← rd16 payload 4
  let w2 ← rd16 payload 6
  .ok ⟨x, y, w1, w2⟩

def captureStatus (w : Usb.World S) : Usb.Drv S CaptureResult := do
  let res ← request w [0x51, 0x00, 0x20, 0x00, 0x00] "reading capture status"
  let body ← Act.ofOutcome (Checked.sliceFrom res 2)
  Act.ofOutcome (parseCaptureStatus body)

/-- Each entry takes at least four bytes off. -/
def parseDict : Nat → Bytes → Outcome String (List (UInt16 × Bytes))
  | _, [] => .ok []
  | 0, _ :: _ => .stuck
  | fuel + 1, b => do
    Outcome.bailIf (b.length < 4) "truncated dictionary entry"
    let t ← rd16 b 0
    let l ← rd16 b 2
    let stop ← Checked.add 4 l.toNat
    let v ← Outcome.ofOption "dictionary value truncated" (Bytes.range? b 4 stop)
    let rest ← Checked.sliceFrom b stop
    let entries ← parseDict fuel rest
    .ok ((t, v) :: entries)

def parseMatch (body : Bytes) : Outcome String MatchResult := do
  Outcome.bailIf (body.length < 2) "match result reply too short"
  let l ← rd16 body 0
  let payload ← Checked.sliceFrom body 2
  Outcome.bailIf (l.toNat ≠ payload.length)
    s!"match result length mismatch: {l} != {payload.length}"
  let dict ← parseDict payload.length payload
  let user ← Outcome.ofOption "match result has no user id" (Capture.dictGet dict 1)
  let subtype ← Outcome.ofOption "match result has no finger subtype" (Capture.dictGet dict 3)
  let hash := (Capture.dictGet dict 4).getD []
  Outcome.bailIf (user.length < 4 ∨ subtype.length < 2) "match result fields are truncated"
  let userDbid ← rd32 user 0
  let subtype ← rd16 subtype 0
  .ok ⟨userDbid, subtype, hash⟩

def runMatch (w : Usb.World S) (fuel : Nat) : Usb.Drv S MatchResult := do
  exchange w Capture.matchCmd "starting match"
  let start ← Usb.now w
  let b ← Capture.waitInt w fuel (start + 10000)
  Act.bailIf (b.head? ≠ some 3) ("finger not recognised (interrupt " ++ Bytes.hex b ++ ")")
  let rsp ← request w [0x60, 0x00, 0x00, 0x00, 0x00] "reading match result"
  let body ← Act.ofOutcome (Checked.sliceFrom rsp 2)
  Act.ofOutcome (parseMatch body)

def matchFinger (w : Usb.World S) (fuel : Nat) : Usb.Drv S MatchResult := do
  let result ← Act.attempt (runMatch w fuel)
  Act.ignore (Usb.cmd w [0x62, 0x00, 0x00, 0x00, 0x00])
  Act.lift result

theorem parseCaptureStatus_eq (body : Bytes) :
    parseCaptureStatus body = Capture.parseCaptureStatus body := by
  unfold parseCaptureStatus Capture.parseCaptureStatus
  refine Checked.guard_congr fun long => ?_
  rw [rd32_eq (by decide)]
  refine Checked.bind_congr fun l _ => ?_
  rw [Checked.sliceFrom_eq (by omega), Outcome.ok_bind, rd32_eq (by decide), rd16_eq (by decide),
    rd16_eq (by decide), rd16_eq (by decide), rd16_eq (by decide)]

theorem captureStatus_eq (w : Usb.World S) : captureStatus w = Capture.captureStatus w := by
  simp only [captureStatus, Capture.captureStatus, request_eq, request_slice, parseCaptureStatus_eq]

theorem range?_entry (t0 t1 l0 l1 : UInt8) (tail : Bytes) (l : Nat) :
    Bytes.range? (t0 :: t1 :: l0 :: l1 :: tail) 4 (4 + l) = Bytes.range? tail 0 l := by
  unfold Bytes.range?
  rw [Nat.add_comm 4 l]
  simp only [List.length_cons, Nat.le_add_left, Nat.zero_le, true_and, Nat.add_le_add_iff_right]
  rfl

theorem parseDict_eq (fuel : Nat) (b : Bytes) : parseDict fuel b = Capture.parseDict fuel b := by
  induction fuel generalizing b with
  | zero => cases b <;> rfl
  | succ fuel ih =>
    match b with
    | [] | [_] | [_, _] | [_, _, _] => rfl
    | t0 :: t1 :: l0 :: l1 :: tail =>
      have tag : rd16 (t0 :: t1 :: l0 :: l1 :: tail) 0 = .ok (Bytes.fromLe16 t0 t1) :=
        rd16_eq (by decide)
      have length : rd16 (t0 :: t1 :: l0 :: l1 :: tail) 2 = .ok (Bytes.fromLe16 l0 l1) :=
        rd16_eq (by decide)
      have size : (t0 :: t1 :: l0 :: l1 :: tail).length = tail.length + 4 := rfl
      have short := (Bytes.fromLe16 l0 l1).toNat_lt
      rw [parseDict, Capture.parseDict, tag, length, Outcome.bailIf, if_neg (by omega),
        Outcome.ok_bind, Outcome.ok_bind, Outcome.ok_bind, Checked.add_eq (by omega),
        Outcome.ok_bind, range?_entry]
      · refine Checked.bind_congr fun v sliced => ?_
        have fits := (Bytes.range?_inside (Outcome.ofOption_eq_ok.mp sliced)).2
        rw [Checked.sliceFrom_eq (by omega), Outcome.ok_bind, ih, Nat.add_comm 4]
        rfl
      · exact List.cons_ne_nil _ _

theorem parseMatch_eq (body : Bytes) : parseMatch body = Capture.parseMatch body := by
  unfold parseMatch Capture.parseMatch
  refine Checked.guard_congr fun long => ?_
  rw [rd16_eq (by decide)]
  refine Checked.bind_congr fun l _ => ?_
  rw [Checked.sliceFrom_eq (Nat.not_lt.mp long), Outcome.ok_bind]
  refine Checked.guard_congr fun _ => ?_
  rw [parseDict_eq]
  refine Checked.bind_congr fun dict _ => Checked.bind_congr fun user _ => ?_
  refine Checked.bind_congr fun subtype _ => Checked.guard_congr fun _ => ?_
  rw [rd32_eq (by decide), rd16_eq (by decide)]

theorem runMatch_eq (w : Usb.World S) (fuel : Nat) : runMatch w fuel = Capture.runMatch w fuel := by
  simp only [runMatch, Capture.runMatch, exchange_eq, request_eq, request_slice, parseMatch_eq]

theorem matchFinger_eq (w : Usb.World S) (fuel : Nat) :
    matchFinger w fuel = Capture.matchFinger w fuel := by
  rw [matchFinger, Capture.matchFinger, runMatch_eq]

end Captures

end ValidityFprintd.Literal
