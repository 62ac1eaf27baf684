import ValidityFprintd.Provision

/-! Device bring-up: the signed init blob, the pairing record read before there is a session, and
the session opened with what it holds. -/

namespace ValidityFprintd.Init
open Effect Crypto Pairing

/-- A vendor-signed command, or none where a model has no such command. -/
def SignedBlob := { blob : Bytes // blob = [] ∨ blob.head? = some 0x06 }

/-- The signed blobs of a device model, of the tables under `blobs`. -/
structure DeviceBlobs where
  initHardcoded : SignedBlob
  initHardcodedCleanSlate : SignedBlob
  resetBlob : Provision.ResetBlob
  dbWriteEnable : WriteEnable

/-- `{vid:04x}:{pid:04x}`. -/
def usbId (vid pid : UInt16) : String :=
  Bytes.hex (Bytes.be16 vid) ++ ":" ++ Bytes.hex (Bytes.be16 pid)

section Device

variable {S : Type} (w : Usb.World S)

def refused : Bytes → Bool
  | a :: b :: _ => Bytes.fromLe16 a b ≠ 0
  | _ => false

/-- The pre-session handshake. Without the firmware extension the sensor needs the clean-slate
blob, too. -/
def sendInit (blobs : Option DeviceBlobs) (vid pid : UInt16) : Usb.Drv S Unit := do
  Usb.exchange w [0x01] "ROM info command (0x01)"
  Usb.exchange w [0x19] "init command (0x19)"
  -- interpreted only after the init blob is accepted
  let fwRsp ← Usb.cmd w [0x43, 0x02]
  let blobs ← Act.ofOutcome (Outcome.ofOption s!"no init blobs for {usbId vid pid}" blobs)
  Usb.exchange w blobs.initHardcoded.val "signed init blob"
  if refused fwRsp then do
    let _ ← Usb.cmd w blobs.initHardcodedCleanSlate.val
    Act.ret ()
  else Act.ret ()

def partitionTls : UInt8 := 1

def tlsFlashSize : UInt32 := 0x1000

def readTlsFlash : Usb.Drv S Bytes := Flash.readFlash w partitionTls 0 tlsFlashSize

variable (C : Primitives)

/-- `Tls::open` on the cable; the session goes with whoever opened it. -/
def startSession (tls : Tls) : Usb.Drv S Tls := fun s =>
  let r := Tls.openSession C w ⟨tls, s⟩
  ⟨r.out.follow fun _ => .ok r.state.tls, r.state.env, r.log⟩

variable (P : Curve)

/-- What a session is opened with, of the pairing record and this machine's DMI identity. -/
def recordMaterial (identity : Except String (String × String)) (record : Bytes) :
    Except String Material := do
  let blocks ← parseFlashBlocks C record
  let (productName, productSerial) ← identity
  buildMaterial C P blocks (HostKeys.derive C productName productSerial)

/-- Bring the device up and open a session: the session, and whether the sensor's firmware
signature is valid. -/
def openSession (blobs : Option DeviceBlobs) (vid pid : UInt16)
    (identity : Except String (String × String)) (rng : Rng) : Usb.Drv S (Tls × Bool) := do
  sendInit w blobs vid pid
  let record ← readTlsFlash w
  let material ← Act.lift (recordMaterial C P identity record)
  let tls ← startSession w C
    (Tls.new ⟨material.privateKeyD, material.tlsCert, material.ecdhPublic⟩ rng)
  Act.ret (tls, material.firmwareSignatureValid)

end Device

end ValidityFprintd.Init
