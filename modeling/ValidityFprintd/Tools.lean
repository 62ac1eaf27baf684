import ValidityFprintd.OverSession

/-! The programs of the package, each from the device it found on: the read-only reports, the tools
that write behind a flag, and the daemon. What they print is left out. -/

namespace ValidityFprintd.Tools
open Effect Crypto Init Tls
open Provision (Sent probe withSession inSession)

section Reports

variable {S : Type} (w : Usb.World S)

def validityDb : Usb.Drv S Unit := do
  let _ ← Db.dbInfo w
  let storage ← Db.getUserStorage w Db.storageName
  match storage with
  | none => Provision.reboot w
  | some storage => do
    let _ ← Db.getRecordChildren w storage.dbid
    let _ ← Db.listUsers w
    Provision.reboot w

def validitySession : Usb.Drv S Unit := do
  let _ ← Flash.getFlashInfo w
  Provision.reboot w

def chunkTimeslotOffset : UInt16 := 0x29

def timeslotStart (prog : Bytes) : Outcome String (Option UInt32) := do
  let chunks ← Timeslot.splitChunks prog
  match chunks.find? fun c => c.kind = Timeslot.chunkTimeslotTable,
    chunks.find? fun c => c.kind = chunkTimeslotOffset with
  | some _, some off => do
    let o ← Bytes.rd32 off.body 0
    .ok (some o)
  | _, _ => .ok none

def validitySensor (devices : List Sensor.DeviceInfo) : Usb.Drv S Unit := do
  let cfg ← Sensor.probe w devices
  let _ ← Act.ofOutcome (timeslotStart cfg.captureProg)
  let _ ← Flash.getFlashInfo w
  Provision.reboot w

def matchCaptured (fuel : Nat) : Usb.Drv S Unit := do
  let matched ← Act.attempt (Capture.matchFinger w fuel)
  match matched with
  | .error _ => Act.ret ()
  | .ok m => Act.ignore (Db.getUser w m.userDbid.toUInt16)

variable (C : Primitives)

def validityVerify (devices : List Sensor.DeviceInfo) (fuel : Nat) : Usb.Drv S Unit := do
  let cfg ← Sensor.probe w devices
  let enrolled ← Db.listUsers w
  if (enrolled.map fun u => u.fingers.length).sum = 0 then Provision.reboot w
  else do
    let _ ← Baseline.checkCleanSlate C w
    let calib ← Calibration.calibrate w cfg.toSensorConfig cfg.calibrationIterations ⟨[]⟩
    Capture.glowStartScan w
    let result ← Act.attempt
      (Capture.capture w none fuel calib cfg.toSensorConfig .identify 30000)
    match result with
    | .error _ => Act.ret ()
    | .ok _ => matchCaptured w fuel
    Act.ignore (Capture.glowEndScan w)
    Provision.reboot w

/-- Stars for all but the end of a serial number. That end is cut at a byte. -/
def mask (serial : String) : Outcome String String :=
  let len := serial.utf8ByteSize
  if len ≤ 4 then .ok (String.ofList (List.replicate len '*'))
  else
    match serial.toList.tails.find? fun rest => (String.ofList rest).utf8ByteSize = 4 with
    | some rest => .ok (String.ofList (List.replicate (len - 4) '*' ++ rest))
    | none => .panic

def reportPairing (identity : Except String (String × String)) (record : Bytes) :
    Usb.Drv S Unit := do
  let blocks ← Act.lift (Pairing.parseFlashBlocks C record)
  match identity with
  | .error _ => Act.ret ()
  | .ok (productName, productSerial) => do
    let _ ← Act.ofOutcome (mask productSerial)
    let _ ← Act.lift (Pairing.inspectPairing C blocks
      (HostKeys.derive C productName productSerial))
    Act.ret ()

def validityProbe (identity : Except String (String × String)) : Usb.Drv S Unit := do
  Act.ignore (Usb.cmd w [0x01])
  Act.ignore (Firmware.getFwInfo w 2)
  Act.ignore (Flash.getFlashInfo w)
  let flash ← Act.attempt (readTlsFlash w)
  match flash with
  | .error _ => Act.ret ()
  | .ok record => reportPairing C identity record

end Reports

/-- `char::is_whitespace`. -/
def isWhitespace (c : Char) : Bool :=
  (0x09 ≤ c.val ∧ c.val ≤ 0x0d) ∨ (0x2000 ≤ c.val ∧ c.val ≤ 0x200a) ∨
    c.val ∈ [0x20, 0x85, 0xa0, 0x1680, 0x2028, 0x2029, 0x202f, 0x205f, 0x3000]

def trim (line : String) : String :=
  String.ofList ((line.toList.dropWhile isWhitespace).reverse.dropWhile isWhitespace).reverse

def confirm (line : Except String String) (expected : String) : Except String Bool := do
  let line ← line
  .ok (trim line = expected)

section Main

variable {S : Type} (C : Primitives) (P : Curve) (w : Usb.World S) (start : Device.Start S)

def overSession {α : Type} (x : Usb.Drv (Link S) α) : Act String (Sent S) S α := do
  let (tls, _) ← probe
    (openSession w C P start.blobs start.vid start.pid start.identity start.rng)
  withSession tls (inSession x)

def blobsFor : Act String (Sent S) S DeviceBlobs :=
  Act.ofOutcome (Outcome.ofOption s!"no blobs for {usbId start.vid start.pid}" start.blobs)

def validityBaseline (devices : List Sensor.DeviceInfo) (write force : Bool) :
    Act String (Sent S) S Unit := do
  let blobs ← blobsFor start
  let t := transport C w
  overSession C P w start do
    let cfg ← Sensor.probe t devices
    Baseline.baselineTool C t blobs.dbWriteEnable cfg.toSensorConfig cfg.calibrationIterations
      write force

def validityFirmware (devices : List Sensor.DeviceInfo) (doUpload : Bool)
    (file : Option String) (isFile : String → Bool) (read : String → Except String Bytes) :
    Act String (Sent S) S Unit := do
  let blobs ← blobsFor start
  let onDisk := Firmware.findFirmwareFile isFile start.vid start.pid
  overSession C P w start
    (Firmware.firmwareTool (transport C w) devices blobs.dbWriteEnable doUpload file onDisk read)

/-- The paths of the provisioning tool behind its flags. A reset goes first. -/
def provisionAsked (blobs : DeviceBlobs) (partitioned doInit doReset : Bool)
    (line : Except String String) : Act String (Sent S) S Unit :=
  if doReset then do
    let agreed ← Act.lift (confirm line "RESET MY FINGERPRINT SENSOR")
    if agreed then probe (Provision.factoryReset w blobs.resetBlob) else Act.ret ()
  else if doInit = false ∨ partitioned then Act.ret ()
  else do
    let agreed ← Act.lift (confirm line "PROVISION")
    if agreed then do
      let (name, serial) ← Act.lift start.identity
      let done ← Provision.initFlash C w P start.vid start.pid blobs.dbWriteEnable
        blobs.resetBlob name serial start.rng
      Act.bailIf (done = false)
        "provisioning reported nothing to do, which was not expected here"
    else Act.ret ()

def validityProvision (doInit doReset : Bool) (line : Except String String) :
    Act String (Sent S) S Unit := do
  let blobs ← blobsFor start
  let flash ← probe (Act.attempt (Flash.getFlashInfo w))
  let partitioned := match flash with
    | .ok info => decide (info.partitions ≠ [])
    | .error _ => false
  probe (Act.ignore (Firmware.getFwInfo w 2))
  -- whose the pairing record is, is only printed
  if partitioned then probe (Act.ignore (readTlsFlash w)) else Act.ret ()
  provisionAsked C P w start blobs partitioned doInit doReset line

end Main

/-- A program of the package, and what it was told. The daemon's calls come after its start, with
the handle that it opened. -/
inductive Program where
  | validityProbe
  | validitySession
  | validityDb
  | validitySensor (devices : List Sensor.DeviceInfo)
  | validityVerify (devices : List Sensor.DeviceInfo) (fuel : Nat)
  | validityBaseline (devices : List Sensor.DeviceInfo) (write force : Bool)
  | validityFirmware (devices : List Sensor.DeviceInfo) (doUpload : Bool)
      (file : Option String) (isFile : String → Bool) (read : String → Except String Bytes)
  | validityProvision (doInit doReset : Bool) (line : Except String String)
  | validityFprintd (devices : List Sensor.DeviceInfo)
      (jobs : Device.Handle → List Likeness.Job)

section Run

variable {S D : Type} (C : Primitives) (P : Curve) (w : Usb.World S) (disk : Disk D)
  (start : Device.Start S)

def validityFprintd (devices : List Sensor.DeviceInfo)
    (jobs : Device.Handle → List Likeness.Job) : Act String (Sent S) (Host S D) Unit := do
  let (handle, tls) ← Device.openSensor C P w disk devices start
  let _ ← Device.onSession tls (onSensor (Likeness.work C (transport C w) (jobs handle)))
  Act.ret ()

def Program.run : Program → Act String (Sent S) (Host S D) Unit
  | validityProbe => onSensor (probe (Tools.validityProbe w C start.identity))
  | validitySession => onSensor (overSession C P w start (Tools.validitySession (transport C w)))
  | validityDb => onSensor (overSession C P w start (Tools.validityDb (transport C w)))
  | validitySensor devices =>
    onSensor (overSession C P w start (Tools.validitySensor (transport C w) devices))
  | validityVerify devices fuel =>
    onSensor (overSession C P w start (Tools.validityVerify (transport C w) C devices fuel))
  | validityBaseline devices write force =>
    onSensor (Tools.validityBaseline C P w start devices write force)
  | validityFirmware devices doUpload file isFile read =>
    onSensor (Tools.validityFirmware C P w start devices doUpload file isFile read)
  | validityProvision doInit doReset line =>
    onSensor (Tools.validityProvision C P w start doInit doReset line)
  | validityFprintd devices jobs => Tools.validityFprintd C P w disk start devices jobs

end Run

end ValidityFprintd.Tools
