import ValidityFprintd.Provision
import ValidityFprintd.Sensor

/-! The firmware extension of partition 2: what the sensor says of it, the file it comes in, and
its upload. A sensor that has one already is left alone. -/

namespace ValidityFprintd.Firmware
open Effect

def partitionFirmware : UInt8 := 2

/-- The trailing bytes of the file are its vendor signature. -/
def signatureLen : Nat := 0x100

def regUploadEnable : UInt32 := 0x8000205c

def regUploadStatus : UInt32 := 0x80002080

structure ModuleInfo where
  kind : UInt16
  subtype : UInt16
  major : UInt16
  minor : UInt16
  size : UInt32
  deriving DecidableEq

structure FirmwareInfo where
  major : UInt16
  minor : UInt16
  buildtime : UInt32
  modules : List ModuleInfo
  deriving DecidableEq

/-- The rows of a module table, up to the first that is not all there. -/
def moduleRows : Nat → Bytes → List ModuleInfo
  | n + 1, k0 :: k1 :: s0 :: s1 :: a0 :: a1 :: i0 :: i1 :: z0 :: z1 :: z2 :: z3 :: table =>
    ⟨Bytes.fromLe16 k0 k1, Bytes.fromLe16 s0 s1, Bytes.fromLe16 a0 a1, Bytes.fromLe16 i0 i1,
      Bytes.fromLe32 z0 z1 z2 z3⟩ :: moduleRows n table
  | _, _ => []

/-- "No firmware detected"; a normal condition, not an error. -/
def noFirmware : Bytes := [0xb0, 0x04]

def parseFwInfo (body : Bytes) : Outcome String FirmwareInfo := do
  Outcome.bailIf (body.length < 0xa) s!"firmware info reply too short: {body.length} bytes"
  let major ← Bytes.rd16 body 0
  let minor ← Bytes.rd16 body 2
  let modcnt ← Bytes.rd16 body 4
  let buildtime ← Bytes.rd32 body 6
  .ok ⟨major, minor, buildtime, moduleRows modcnt.toNat (body.drop 0xa)⟩

section Device

variable {S : Type} (w : Usb.World S)

def getFwInfo (partition : UInt8) : Usb.Drv S (Option FirmwareInfo) := do
  let rsp ← Usb.cmd w [0x43, partition]
  if rsp = noFirmware then Act.ret none
  else do
    Act.mapErr (Usb.context "firmware info command (0x43)") (Usb.check rsp)
    let body ← Bytes.sliceFrom rsp 2
    let info ← Act.ofOutcome (parseFwInfo body)
    Act.ret (some info)

def writeFwSignature (partition : UInt8) (signature : Bytes) : Usb.Drv S Unit :=
  Usb.exchange w ([0x42, partition, 0] ++ Bytes.le16 (Bytes.len16 signature) ++ signature)
    "writing firmware signature"

def readHwReg32 (addr : UInt32) : Usb.Drv S UInt32 := do
  let rsp ← Usb.request w (0x07 :: (Bytes.le32 addr ++ [4])) "reading hardware register"
  Act.bailIf (rsp.length < 6) "register read reply too short"
  Act.ofOutcome (Bytes.rd32 rsp 2)

def writeHwReg32 (addr val : UInt32) : Usb.Drv S Unit :=
  Usb.exchange w (0x08 :: (Bytes.le32 addr ++ Bytes.le32 val ++ [4])) "writing hardware register"

def current : Usb.Drv S (Option FirmwareInfo) := getFwInfo w partitionFirmware

end Device

/-- Split a firmware file into its payload and trailing signature. It begins with a text header
that a `0x1a` byte ends. -/
def parseXpfwext (raw : Bytes) : Except String (Bytes × Bytes) :=
  match raw.findIdx? fun b => b = 0x1a with
  | none => .error "not an xpfwext file: no 0x1a header terminator"
  | some i =>
    let body := raw.drop (i + 1)
    if body.length ≤ signatureLen then .error "xpfwext file is too short"
    else .ok (body.splitAt (body.length - signatureLen))

section Upload

variable {S : Type} (w : Usb.World S) (devices : List Sensor.DeviceInfo) (blob : WriteEnable)

/-- `upload` up to its first write: the registers, and the identification whose reason is
unclear. -/
def prepare : Usb.Drv S Unit := do
  writeHwReg32 w regUploadEnable 7
  let status ← readHwReg32 w regUploadStatus
  Act.bailIf (status ≠ 2 ∧ status ≠ 3)
    ("sensor is not ready for a firmware upload " ++
      s!"(status register {Sensor.hexPlain status.toNat})")
  Act.ignore (Sensor.identifySensor w devices)

/-- `upload` from its first write on. -/
def install (payload signature : Bytes) : Usb.Drv S Unit := do
  Flash.writeFlashAll w blob partitionFirmware 0 payload
  writeFwSignature w partitionFirmware signature
  let fw ← current w
  let _ ← Act.ofOutcome (Outcome.ofOption "firmware still not detected after upload" fw)
  Provision.reboot w

/-- Upload a firmware extension to the sensor, and reboot it. Was anything done? -/
def upload (fwext : Bytes) : Usb.Drv S Bool := do
  let fw ← current w
  match fw with
  | some _ => Act.ret false
  | none => do
    let (payload, signature) ← Act.lift (parseXpfwext fwext)
    prepare w devices
    install w blob payload signature
    Act.ret true

/-- The tool's choice of a file: the one it is told, or the one it found. -/
def chooseFile (file onDisk : Option String) : Except String String :=
  match file with
  | some f => .ok f
  | none =>
    match onDisk with
    | some p => .ok p
    | none => .error "no firmware file found; run scripts/fetch-firmware.sh or pass --file"

/-- `main` of the tool, its session open, with the files that can be read. -/
def firmwareTool (doUpload : Bool) (file onDisk : Option String)
    (read : String → Except String Bytes) : Usb.Drv S Unit := do
  let _ ← current w
  if doUpload = false then Act.ret ()
  else do
    let fw ← current w
    match fw with
    | some _ => Act.ret ()
    | none => do
      let path ← Act.lift (chooseFile file onDisk)
      let raw ← Act.lift (read path)
      let uploaded ← upload w devices blob raw
      Act.bailIf (uploaded = false) "upload reported nothing to do, which was not expected here"

end Upload

/-- Where firmware files are looked for, in order. -/
def firmwareDirs : List String := ["/usr/share/validity-fprintd", "/var/lib/validity-fprintd"]

def firmwareSource (vid pid : UInt16) : Option String :=
  if (vid, pid) = (0x138a, 0x0090) then some "6_07f_Lenovo.xpfwext"
  else if (vid, pid) ∈ [(0x138a, 0x0097), (0x138a, 0x009d), (0x06cb, 0x009a)] then
    some "6_07f_lenovo_mis_qm.xpfwext"
  else none

def findFirmwareFile (isFile : String → Bool) (vid pid : UInt16) : Option String := do
  let source ← firmwareSource vid pid
  (firmwareDirs.map fun d => d ++ "/" ++ source).find? isFile

end ValidityFprintd.Firmware
