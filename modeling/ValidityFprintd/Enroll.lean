import ValidityFprintd.Capture
import ValidityFprintd.Db

/-! Fingerprint enrolment: scan after scan, each fed back with the template so far, until
the sensor hands out a template id. -/

namespace ValidityFprintd.Enroll
open Effect Capture

variable {S : Type} (w : Usb.World S)

def magicLen : Nat := 0x38

def maxStages : Nat := 32

def createEnrollment : Usb.Drv S Unit :=
  Usb.exchange w (0x69 :: Bytes.le32 1) "creating enrolment"

def enrollmentUpdateEnd : Usb.Drv S Unit :=
  Usb.exchange w (0x69 :: Bytes.le32 0) "ending enrolment step"

def enrollmentUpdateStart (fuel : Nat) (key : UInt32) : Usb.Drv S UInt32 := do
  let rsp ← Usb.request w (0x68 :: (Bytes.le32 key ++ Bytes.le32 0)) "starting enrolment update"
  Act.bailIf (rsp.length < 6) "enrolment update reply too short"
  let newKey ← Act.ofOutcome (Bytes.rd32 rsp 2)
  let start ← Usb.now w
  let _ ← waitInt w fuel (start + 5000)
  Act.ret newKey

def feedTemplate (prev : Bytes) : Usb.Drv S Bytes := do
  let rsp ← Usb.request w (0x6b :: prev) "enrolment update"
  Bytes.sliceFrom rsp 2

/-- `0x6b`: feed the accumulated template back to the sensor. -/
def enrollmentUpdate (blob : WriteEnable) (prev : Bytes) : Usb.Drv S Bytes :=
  Flash.commitAfter w blob (feedTemplate w prev)

/-- The records of an enrolment reply: header, template and template id. -/
structure Records where
  header : Bytes
  template : Bytes
  tid : Bytes
  deriving DecidableEq

/-- Each record takes at least its header off. -/
def parseRecords : Nat → Bytes → Records → Outcome String Records
  | 0, rest, r => if rest.length < 4 then .ok r else .stuck
  | fuel + 1, rest, r =>
    if rest.length < 4 then .ok r
    else do
      let tag ← Bytes.rd16 rest 0
      let len ← Bytes.rd16 rest 2
      let end' := magicLen + len.toNat
      Outcome.bailIf (rest.length < end') s!"enrolment record {tag} is truncated"
      -- the template keeps its header, the others are payload only
      let r :=
        if tag = 0 then { r with template := rest.take end' }
        else if tag = 1 then { r with header := (rest.take end').drop magicLen }
        else if tag = 3 then { r with tid := (rest.take end').drop magicLen }
        else r
      parseRecords fuel (rest.drop end') r

def parseUpdate (res : Bytes) : Outcome String Records := do
  Outcome.bailIf (res.length < 2) "enrolment reply too short"
  let l ← Bytes.rd16 res 0
  let rest := res.drop 2
  Outcome.bailIf (l.toNat ≠ rest.length)
    s!"enrolment reply length mismatch: {l} != {rest.length}"
  parseRecords rest.length rest ⟨[], [], []⟩

/-- The two updates of a round: the first arms the sensor, the second returns the updated
template. A template id that is not empty completes the enrolment. -/
def appendNewImage (fuel : Nat) (blob : WriteEnable) (prev : Bytes) : Usb.Drv S Records := do
  let _ ← enrollmentUpdate w blob prev
  let start ← Usb.now w
  let _ ← waitInt w fuel (start + 10000)
  let res ← enrollmentUpdate w blob prev
  Act.ofOutcome (parseUpdate res)

def makeFingerData (subtype : UInt16) (template tid : Bytes) : Bytes :=
  let tinfo := Bytes.le16 1 ++ Bytes.le16 (Bytes.len16 template) ++ template ++
    Bytes.le16 2 ++ Bytes.le16 (Bytes.len16 tid) ++ tid
  Bytes.le16 subtype ++ Bytes.le16 3 ++ Bytes.le16 (Bytes.len16 tinfo) ++ Bytes.le16 0x20 ++
    tinfo ++ List.replicate 0x20 0

/-- What an enrolment asks for, and on whose behalf it runs. -/
structure Request where
  mine : Option Nat
  calib : Calibration
  cfg : SensorConfig
  blob : WriteEnable
  identity : SidIdentity
  subtype : UInt16
  fingerTimeout : Nat

structure Progress where
  key : UInt32
  template : Bytes
  tid : Bytes
  stage : Nat

def updates (fuel : Nat) (r : Request) (key : UInt32) (template : Bytes) :
    Usb.Drv S (UInt32 × Except String Records) := do
  let started ← Act.attempt (enrollmentUpdateStart w fuel key)
  match started with
  | .error e => Act.ret (key, .error e)
  | .ok key => do
    let appended ← Act.attempt (appendNewImage w fuel r.blob template)
    Act.ret (key, appended)

/-- One round: its next key, and what it made of the template. -/
def round (fuel : Nat) (r : Request) (key : UInt32) (template : Bytes) :
    Usb.Drv S (UInt32 × Except String Records) := do
  let captured ← Act.attempt (capture w r.mine fuel r.calib r.cfg .enroll r.fingerTimeout)
  match captured with
  | .error e => Act.ret (key, .error e)
  | .ok _ => updates w fuel r key template

/-- What follows from a round. -/
def settle (r : Request) (p : Progress) :
    UInt32 × Except String Records → Usb.Drv S (Progress ⊕ Progress)
  | (key, .ok records) => do
    w.ask (.onStage (p.stage + 1) none)
    let next : Progress := ⟨key, records.template, records.tid, p.stage + 1⟩
    if records.tid.isEmpty then Act.ret (.inl next) else Act.ret (.inr next)
  | (key, .error e) => do
    let isStopped ← stopped w r.mine
    if isStopped then do
      Act.ignore (glowEndScan w)
      Act.fail "enrolment stopped"
    else do
      -- a bad scan does not count as a stage
      w.ask (.onStage p.stage (some e))
      Act.ret (.inl { p with key := key })

def enrollStep (fuel : Nat) (r : Request) (p : Progress) : Usb.Drv S (Progress ⊕ Progress) :=
  if p.stage < maxStages then do
    Act.ignore (glowStartScan w)
    let result ← round w fuel r p.key p.template
    Act.ignore (enrollmentUpdateEnd w)
    settle w r p result
  else Act.ret (.inr p)

def findOrCreateUser (r : Request) : Usb.Drv S UInt16 := do
  let user ← Db.lookupUser w r.identity
  match user with
  | some u => Act.ret u.dbid
  | none => Db.newUser w r.blob r.identity

/-- From the finished template to the finger's record, which replaces an older one. -/
def store (fuel : Nat) (r : Request) (p : Progress) : Usb.Drv S UInt16 := do
  Act.ignore (enrollmentUpdateEnd w)
  let _ ← Db.deleteFingersOfSubtype w r.identity r.subtype
  let userDbid ← findOrCreateUser w r
  let recid ← Db.newFinger w r.blob userDbid (makeFingerData r.subtype p.template p.tid)
  let start ← Usb.now w
  Act.ignore (waitInt w fuel (start + 5000))
  Act.ret recid

def rounds (fuel : Nat) (r : Request) : Usb.Drv S Progress :=
  Act.loop (enrollStep w fuel r) fuel ⟨0, [], [], 0⟩

def conclude (fuel : Nat) (r : Request) (p : Progress) : Usb.Drv S UInt16 := do
  Act.ignore (glowEndScan w)
  Act.bailIf (p.tid.isEmpty = true) s!"enrolment did not complete after {maxStages} scans"
  store w fuel r p

def enroll (fuel : Nat) (r : Request) : Usb.Drv S UInt16 := do
  createEnrollment w
  let p ← rounds w fuel r
  conclude w fuel r p

/-! A request on the smallest type-1 program: two Enable Rx and a calibration write. -/

def smallConfig : SensorConfig where
  typeInfo := ⟨1, 1, 0, []⟩
  captureProg := Bytes.le16 0x34 ++ Bytes.le16 7 ++ [6, 0, 6, 0, 0x4f, 0, 0]
  linesPerFrame := 1
  bytesPerLine := 1
  keyCalibrationLine := 0
  calibrationFrames := 3
  factoryCalibrationValues := [1]
  factoryCalibData := none
  lineUpdateType1 := true

def smallRequest : Request where
  mine := some 1
  calib := ⟨[]⟩
  cfg := smallConfig
  blob := ⟨[0x06, 0x02, 0x00, 0x00, 0x01], rfl⟩
  identity := ⟨1, 5, [21, 1000]⟩
  subtype := 2
  fingerTimeout := 1000

example : ∃ cmd, smallRequest.calib.buildCmd02 .enroll smallRequest.cfg = .ok cmd :=
  ⟨_, rfl⟩

end ValidityFprintd.Enroll
