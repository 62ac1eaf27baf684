import ValidityFprintd.BringUp
import ValidityFprintd.Calibrate
import ValidityFprintd.Device
import ValidityFprintd.Enroll
import ValidityFprintd.Sensor

/-! The daemon's handle to the sensor, from `Sensor::open` to its shutdown, and the file that
keeps the calibration from one start to the next. -/

namespace ValidityFprintd
open Effect

/-- What the process and its files are to each other. A write may fail half way. -/
structure Disk (D : Type) where
  read : D → Except String Bytes
  createDirAll : D → Except String Unit × D
  write : Bytes → D → Except String Unit × D

/-- A sensor's world and the disk beside it. -/
structure Host (S D : Type) where
  env : S
  disk : D

variable {S D α : Type}

def onSensor {E : Type} (x : Act String E S α) : Act String E (Host S D) α :=
  Act.zoom Host.env (fun env h => { h with env := env }) x

namespace Calibration

variable (disk : Disk D)

/-- The cached data, if it is there and of the size that the sensor's geometry asks for. The
product is one of 32 bits. -/
def load (cfg : SensorConfig) (d : D) : Option Calibration :=
  match disk.read d with
  | .error _ => none
  | .ok data =>
    if data.length = (cfg.typeInfo.linesPerCalibrationData * cfg.bytesPerLine).toNat then
      some ⟨data⟩
    else none

def save (calib : Calibration) (d : D) : Except String Unit × D :=
  match disk.createDirAll d with
  | (.error e, d) => (.error e, d)
  | (.ok _, d) => disk.write calib.calibData d

/-- Use the cached calibration, or calibrate and cache the result. A cache write failure is not
fatal. -/
def loadOrCalibrate (w : Usb.World S) (cfg : Sensor.Probed) :
    Act String (Usb.Entry S) (Host S D) Calibration := do
  let h ← Act.get
  match load disk cfg.toSensorConfig h.disk with
  | some c => Act.ret c
  | none => do
    let c ← onSensor (calibrate w cfg.toSensorConfig cfg.calibrationIterations ⟨[]⟩)
    Act.modify fun h => { h with disk := (save disk c h.disk).2 }
    Act.ret c

end Calibration

namespace Device
open Init Tls

def fingerSubtype (name : String) : Option UInt16 :=
  match name with
  | "right-thumb" => some 1
  | "right-index-finger" => some 2
  | "right-middle-finger" => some 3
  | "right-ring-finger" => some 4
  | "right-little-finger" => some 5
  | "left-thumb" => some 6
  | "left-index-finger" => some 7
  | "left-middle-finger" => some 8
  | "left-ring-finger" => some 9
  | "left-little-finger" => some 10
  | _ => none

/-- What an open sensor is used with, its session apart. -/
structure Handle where
  cfg : Sensor.Probed
  calib : Calibration
  writeEnableBlob : WriteEnable

def enroll (w : Usb.World S) (passwd : Except String Text) (username : Text) (mine : Option Nat)
    (fuel : Nat) (h : Handle) (finger : String) (timeout : Nat) : Usb.Drv S UInt16 := do
  let sid ← Act.lift (sidForUser passwd username)
  let subtype ← Act.ofOutcome <| Outcome.ofOption s!"unknown finger name: {finger}"
    (fingerSubtype finger)
  Enroll.enroll w fuel
    { mine := mine
      calib := h.calib
      cfg := h.cfg.toSensorConfig
      blob := h.writeEnableBlob
      identity := sid
      subtype := subtype
      fingerTimeout := timeout }

/-- Reboot the sensor, to release its session context. -/
def shutdown (w : Usb.World S) : Usb.Drv S Unit := Act.ignore (Usb.cmd w [0x05, 0x02, 0x00])

/-- What a start hears: of the sensor itself, and of the sensor behind the session. -/
abbrev Heard (S : Type) := Usb.Entry S ⊕ Usb.Entry (Link S)

def onCable (x : Usb.Drv S α) : Act String (Heard S) (Host S D) α :=
  onSensor (Act.mapLog Sum.inl x)

/-- A call over a session: what it returns, and the session it leaves. -/
def onSession (tls : Tls) (x : Act String (Usb.Entry (Link S)) (Host (Link S) D) α) :
    Act String (Heard S) (Host S D) (α × Tls) := fun h =>
  let r := x ⟨⟨tls, h.env⟩, h.disk⟩
  ⟨r.out.follow fun a => .ok (a, r.state.env.tls), ⟨r.state.env.env, r.state.disk⟩,
    r.log.map Sum.inr⟩

section Open

variable (C : Crypto.Primitives) (P : Curve) (w : Usb.World S)

/-- The device a start finds, and what it finds of the machine it runs on. -/
structure Start (S : Type) where
  env : S
  vid : UInt16
  pid : UInt16
  blobs : Option DeviceBlobs
  identity : Except String (String × String)
  rng : Crypto.Rng

/-- `Sensor::open` up to its calibration. A firmware signature that does not verify is only
warned of. -/
def bringUp (devices : List Sensor.DeviceInfo) (start : Start S) :
    Act String (Heard S) (Host S D) (WriteEnable × Sensor.Probed × Tls) := do
  let blobs ← Act.ofOutcome (Outcome.ofOption s!"no blobs for {usbId start.vid start.pid}"
    start.blobs)
  let (tls, _) ← onCable
    (Init.openSession w C P start.blobs start.vid start.pid start.identity start.rng)
  let (cfg, tls) ← onSession tls (onSensor (Sensor.probe (transport C w) devices))
  Act.ret (blobs.dbWriteEnable, cfg, tls)

/-- `Sensor::open`: the handle, and its session. -/
def openSensor (disk : Disk D) (devices : List Sensor.DeviceInfo) (start : Start S) :
    Act String (Heard S) (Host S D) (Handle × Tls) := do
  let (blob, cfg, tls) ← bringUp C P w devices start
  let (calib, tls) ← onSession tls (Calibration.loadOrCalibrate disk (transport C w) cfg)
  Act.ret (⟨cfg, calib, blob⟩, tls)

end Open

end Device

end ValidityFprintd
