import ValidityFprintd.Calibrate
import ValidityFprintd.Provision

/-! The sensor's blank reference image in partition 6: the record it is kept in, and the tool
that checks it and writes a new one. -/

namespace ValidityFprintd.Baseline
open Effect Crypto

def partitionCalibration : UInt8 := 6

def cleanSlateMagic : UInt16 := 0x5002

def bodyOffset : UInt32 := 0x44

/-- The stored baseline, beside a candidate record. -/
inductive BaselineState where
  /-- Flash already holds exactly this record. -/
  | matched
  /-- The partition is erased. -/
  | blank
  /-- Flash holds a different record, which must be erased first. -/
  | differs
  deriving DecidableEq

section Records

variable (C : Primitives)

/-- Wrap a body in its header: magic, length, SHA-256, 32 reserved zeros. -/
def encodeRecord (body : Bytes) : Bytes :=
  Bytes.le16 cleanSlateMagic ++ Bytes.le16 (Bytes.len16 body) ++ (C.sha256 body).toList ++
    List.replicate 0x20 0 ++ body

theorem encodeRecord_length {C : Primitives} (body : Bytes) :
    (encodeRecord C body).length = 0x44 + body.length := by
  simp only [encodeRecord, List.length_append, Bytes.le16_length, Vector.length_toList,
    List.length_replicate]

def encodeBody (img : Bytes) : Bytes :=
  Bytes.le16 (Bytes.len16 img) ++ img ++ Bytes.le16 0

end Records

section Device

variable {S : Type} (C : Primitives) (w : Usb.World S)

def build (calib : Calibration) (cfg : SensorConfig) : Usb.Drv S Bytes := do
  let img ← Calibration.blankFrame w cfg calib "requesting a blank frame"
  Act.ret (encodeRecord C (encodeBody img))

def readStored : Usb.Drv S (Option Bytes) := do
  let head ← Flash.readFlash w partitionCalibration 0 bodyOffset
  if head.length < bodyOffset.toNat then Act.ret none
  else do
    let magic ← Act.ofOutcome (Bytes.rd16 head 0)
    if magic ≠ cleanSlateMagic then Act.ret none
    else do
      let len ← Act.ofOutcome (Bytes.rd16 head 2)
      let body ← Flash.readFlashAll w partitionCalibration bodyOffset len.toUInt32
      Act.ret (some (head ++ body))

def checkCleanSlate : Usb.Drv S Bool := do
  let head ← Flash.readFlash w partitionCalibration 0 0x44
  if head.length < 0x44 then Act.ret false
  else do
    let magic ← Act.ofOutcome (Bytes.rd16 head 0)
    let len ← Act.ofOutcome (Bytes.rd16 head 2)
    if magic ≠ cleanSlateMagic then Act.ret false
    else if ((head.take 0x44).drop 0x24).any (fun b => b ≠ 0) then Act.ret false
    else do
      let img ← Flash.readFlashAll w partitionCalibration 0x44 len.toUInt32
      Act.ret ((C.sha256 img).toList = (head.take 0x24).drop 4)

/-- What a round-trip check found. -/
structure RoundTrip where
  recordMatches : Bool
  bodyWellFormed : Bool
  imageLen : Nat
  deriving DecidableEq

def roundTrip (stored : Bytes) : RoundTrip :=
  let body := stored.drop bodyOffset.toNat
  let declared := match body with
    | a :: b :: _ => (Bytes.fromLe16 a b).toNat
    | _ => 0
  ⟨encodeRecord C body = stored,
    body.length = declared + 4 ∧ 2 ≤ body.length ∧ body.drop (body.length - 2) = [0, 0], declared⟩

def verifyRoundtrip : Usb.Drv S RoundTrip := do
  let stored ← readStored w
  match stored with
  | none => Act.fail "no baseline record in flash to check against"
  | some stored => Act.ret (roundTrip C stored)

def compare (candidate : Bytes) : Usb.Drv S BaselineState := do
  let head ← Flash.readFlash w partitionCalibration 0 bodyOffset
  if head.all (fun b => b = 0xff) then Act.ret .blank
  -- the header alone identifies a record, by its hash
  else if bodyOffset.toNat ≤ candidate.length ∧ head = candidate.take bodyOffset.toNat then
    Act.ret .matched
  else Act.ret .differs

/-- Store a record, erasing an existing one if it differs. Was anything written? -/
def persist (blob : WriteEnable) (candidate : Bytes) : Usb.Drv S Bool := do
  let state ← compare w candidate
  match state with
  | .matched => Act.ret false
  | .blank => do
    Flash.writeFlashAll w blob partitionCalibration 0 candidate
    Act.ret true
  | .differs => do
    Flash.eraseFlash w blob partitionCalibration
    Flash.writeFlashAll w blob partitionCalibration 0 candidate
    Act.ret true

/-- The tool stops before a write if its encoder does not reproduce what is stored. -/
def checkEncoder (write : Bool) : Option Bytes → Usb.Drv S Unit
  | none => Act.ret ()
  | some _ => do
    let rt ← verifyRoundtrip C w
    Act.bailIf (rt.recordMatches = false ∧ write = true)
      "refusing to write: the encoder does not reproduce the stored record"

/-- The baseline tool up to its call of `persist`, and the record it calls it with; `none` where
it ends without one. -/
def candidateFor (cfg : SensorConfig) (iterations : UInt32) (write force : Bool) :
    Usb.Drv S (Option Bytes) := do
  let stored ← readStored w
  let _ ← checkCleanSlate C w
  checkEncoder C w write stored
  if write = false ∨ (stored.isSome ∧ force = false) then do
    Provision.reboot w
    Act.ret none
  else do
    let calib ← Calibration.calibrate w cfg iterations ⟨[]⟩
    let candidate ← build C w calib cfg
    Act.ret (some candidate)

/-- `main` of the tool, its session open and its sensor known. -/
def baselineTool (blob : WriteEnable) (cfg : SensorConfig) (iterations : UInt32)
    (write force : Bool) : Usb.Drv S Unit := do
  let candidate ← candidateFor C w cfg iterations write force
  match candidate with
  | none => Act.ret ()
  | some candidate => do
    let written ← persist w blob candidate
    if written then do
      let ok ← checkCleanSlate C w
      Act.bailIf (ok = false)
        "the written baseline does not verify; the sensor may not capture correctly"
      Provision.reboot w
    else Provision.reboot w

end Device

end ValidityFprintd.Baseline
