import ValidityFprintd.CaptureProgram
import ValidityFprintd.Usb

/-! The capture state machine, and the match on the sensor. Each wait is a loop that only
its fuel bounds. Times are in milliseconds. -/

namespace ValidityFprintd.Capture
open Effect

variable {S : Type} (w : Usb.World S)

/-- Whether this thread's operation was stopped or replaced. A thread that does nobody's
operation never is. -/
def stopped (mine : Option Nat) : Usb.Drv S Bool :=
  match mine with
  | none => Act.ret false
  | some op => do
    let current ← w.ask .current
    Act.ret (current ≠ op)

theorem stopped_run (op : Nat) (s : S) : stopped w (some op) s =
    ⟨.ok (decide ((w .current s).1 ≠ op)), (w .current s).2, [⟨s, .current, (w .current s).1⟩]⟩ :=
  rfl

def noFinger : String := "no finger was presented"

def waitIntStep (deadline : Nat) : Usb.Drv S (Unit ⊕ Bytes) := do
  let b ← Usb.pollInterrupt w
  match b with
  | some b => Act.ret (.inr b)
  | none => do
    let t ← Usb.now w
    Act.bailIf (deadline ≤ t) "timed out waiting for a sensor interrupt"
    Act.ret (.inl ())

def waitInt (fuel deadline : Nat) : Usb.Drv S Bytes :=
  Act.loop (fun _ => waitIntStep w deadline) fuel ()

structure CaptureResult where
  x : UInt16
  y : UInt16
  w1 : UInt16
  w2 : UInt16
  deriving DecidableEq

def pollFinger (deadline : Nat) : Usb.Drv S (Unit ⊕ Unit) := do
  let b ← Usb.pollInterrupt w
  match b with
  | none => do
    let t ← Usb.now w
    Act.bailIf (deadline ≤ t) noFinger
    Act.ret (.inl ())
  | some b =>
    -- any other interrupt is dropped without a look at the clock
    if b.head? = some 2 then Act.ret (.inr ()) else Act.ret (.inl ())

def awaitFingerStep (mine : Option Nat) (deadline : Nat) : Usb.Drv S (Unit ⊕ Unit) := do
  let isStopped ← stopped w mine
  Act.bailIf (isStopped = true) "stopped"
  pollFinger w deadline

def awaitFinger (mine : Option Nat) (fuel deadline : Nat) : Usb.Drv S Unit :=
  Act.loop (fun _ => awaitFingerStep w mine deadline) fuel ()

def awaitScanStep (fuel deadline : Nat) : Usb.Drv S (Unit ⊕ Unit) := do
  let b ← waitInt w fuel deadline
  Act.bailIf (b.head? ≠ some 3) ("unexpected interrupt during scan: " ++ Bytes.hex b)
  match b[2]? with
  | some v => if v &&& 4 ≠ 0 then Act.ret (.inr ()) else Act.ret (.inl ())
  | none => Act.ret (.inl ())

def awaitScan (fuel deadline : Nat) : Usb.Drv S Unit :=
  Act.loop (fun _ => awaitScanStep w fuel deadline) fuel ()

def parseCaptureStatus (body : Bytes) : Outcome String CaptureResult := do
  Outcome.bailIf (body.length < 4 + 12) s!"capture status reply too short ({body.length} bytes)"
  let l ← Bytes.rd32 body 0
  let payload := body.drop 4
  Outcome.bailIf (l.toNat ≠ payload.length)
    s!"capture status length mismatch: {l} != {payload.length}"
  let error ← Bytes.rd32 payload 8
  Outcome.bailIf (error ≠ 0) s!"scan failed with error {Bytes.hexNumber 8 error.toNat}"
  let x ← Bytes.rd16 payload 0
  let y ← Bytes.rd16 payload 2
  let w1 ← Bytes.rd16 payload 4
  let w2 ← Bytes.rd16 payload 6
  .ok ⟨x, y, w1, w2⟩

def captureStatus : Usb.Drv S CaptureResult := do
  let res ← Usb.request w [0x51, 0x00, 0x20, 0x00, 0x00] "reading capture status"
  Act.ofOutcome (parseCaptureStatus (res.drop 2))

def scan (mine : Option Nat) (fuel : Nat) (cmd : Bytes) (fingerTimeout : Nat) :
    Usb.Drv S CaptureResult := do
  Usb.exchange w cmd "starting capture"
  let start ← Usb.now w
  let b ← waitInt w fuel (start + 5000)
  Act.bailIf (b.head? ≠ some 0)
    ("unexpected interrupt while starting capture: " ++ Bytes.hex b)
  let armed ← Usb.now w
  awaitFinger w mine fuel (armed + fingerTimeout)
  let touched ← Usb.now w
  awaitScan w fuel (touched + 15000)
  captureStatus w

def capture (mine : Option Nat) (fuel : Nat) (calib : Calibration) (cfg : SensorConfig)
    (mode : CaptureMode) (fingerTimeout : Nat) : Usb.Drv S CaptureResult := do
  let cmd ← Act.ofOutcome (calib.buildCmd02 mode cfg)
  let result ← Act.attempt (scan w mine fuel cmd fingerTimeout)
  -- the capture is stopped even where it failed
  Act.ignore (Usb.cmd w [0x04])
  Act.lift result

def glowStartScanCmd : Bytes :=
  [0x39, 0x20, 0xbf, 0x02, 0x00, 0xff, 0xff, 0x00, 0x00, 0x01, 0x99, 0x00, 0x20, 0x00, 0x00, 0x00,
    0x00, 0x99, 0x99, 0x00, 0x00, 0x00, 0x00, 0x00, 0x00, 0x00, 0x00, 0x00, 0x00, 0x00, 0x00,
    0x00, 0x20, 0x00, 0x00, 0x00, 0x00, 0x00, 0x00, 0x00, 0x00, 0x00, 0x00, 0x00, 0x00, 0xff,
    0xff, 0x00, 0x00, 0x00, 0x99, 0x00, 0x20, 0x00, 0x00, 0x00, 0x00, 0x00, 0x00, 0x00, 0x00,
    0x00, 0x00, 0x00, 0x00, 0x00, 0x00, 0x00, 0x00, 0x00, 0x00, 0x00, 0x20, 0x00, 0x00, 0x00,
    0x00, 0x00, 0x00, 0x00, 0x00, 0x00, 0x00, 0x00, 0x00, 0x00, 0x00, 0x00, 0x00, 0x00, 0x00,
    0x00, 0x00, 0x00, 0x00, 0x00, 0x00, 0x00, 0x00, 0x00, 0x00, 0x00, 0x00, 0x00, 0x00, 0x00,
    0x00, 0x00, 0x00, 0x00, 0x00, 0x00, 0x00, 0x00, 0x00, 0x00, 0x00, 0x00, 0x00, 0x00, 0x00,
    0x00, 0x00, 0x00, 0x00]

def glowEndScanCmd : Bytes :=
  [0x39, 0xf4, 0x01, 0x00, 0x00, 0xf4, 0x01, 0x00, 0x00, 0x01, 0xff, 0x00, 0x20, 0x00, 0x00, 0x00,
    0x00, 0xff, 0xff, 0x00, 0x00, 0x00, 0x00, 0x00, 0x00, 0x00, 0x00, 0x00, 0x00, 0x00, 0x00,
    0x00, 0x20, 0x00, 0x00, 0x00, 0x00, 0x00, 0x00, 0x00, 0x00, 0x00, 0x00, 0x00, 0x00, 0xf4,
    0x01, 0x00, 0x00, 0x00, 0xff, 0x00, 0x20, 0x00, 0x00, 0x00, 0x00, 0x00, 0x00, 0x00, 0x00,
    0x00, 0x00, 0x00, 0x00, 0x00, 0x00, 0x00, 0x00, 0x00, 0x00, 0x00, 0x20, 0x00, 0x00, 0x00,
    0x00, 0x00, 0x00, 0x00, 0x00, 0x00, 0x00, 0x00, 0x00, 0x00, 0x00, 0x00, 0x00, 0x00, 0x00,
    0x00, 0x00, 0x00, 0x00, 0x00, 0x00, 0x00, 0x00, 0x00, 0x00, 0x00, 0x00, 0x00, 0x00, 0x00,
    0x00, 0x00, 0x00, 0x00, 0x00, 0x00, 0x00, 0x00, 0x00, 0x00, 0x00, 0x00, 0x00, 0x00, 0x00,
    0x00, 0x00, 0x00, 0x00]

def glowStartScan : Usb.Drv S Unit := Usb.exchange w glowStartScanCmd "glow start"

def glowEndScan : Usb.Drv S Unit := Usb.exchange w glowEndScanCmd "glow end"

/-- A tag, length, value dictionary, in the order of its entries. -/
def parseDict : Nat → Bytes → Outcome String (List (UInt16 × Bytes))
  | _, [] => .ok []
  | 0, _ :: _ => .stuck
  | fuel + 1, b =>
    match b with
    | t0 :: t1 :: l0 :: l1 :: tail => do
      let l := (Bytes.fromLe16 l0 l1).toNat
      let v ← Outcome.ofOption "dictionary value truncated" (Bytes.range? tail 0 l)
      let entries ← parseDict fuel (tail.drop l)
      .ok ((Bytes.fromLe16 t0 t1, v) :: entries)
    | _ => .err "truncated dictionary entry"

/-- A later entry replaces an earlier one. -/
def dictGet (dict : List (UInt16 × Bytes)) (key : UInt16) : Option Bytes :=
  ((dict.filter fun entry => entry.1 = key).getLast?).map Prod.snd

structure MatchResult where
  userDbid : UInt32
  subtype : UInt16
  hash : Bytes
  deriving DecidableEq

def parseMatch (body : Bytes) : Outcome String MatchResult := do
  Outcome.bailIf (body.length < 2) "match result reply too short"
  let l ← Bytes.rd16 body 0
  let payload := body.drop 2
  Outcome.bailIf (l.toNat ≠ payload.length)
    s!"match result length mismatch: {l} != {payload.length}"
  let dict ← parseDict payload.length payload
  let user ← Outcome.ofOption "match result has no user id" (dictGet dict 1)
  let subtype ← Outcome.ofOption "match result has no finger subtype" (dictGet dict 3)
  let hash := (dictGet dict 4).getD []
  Outcome.bailIf (user.length < 4 ∨ subtype.length < 2) "match result fields are truncated"
  let userDbid ← Bytes.rd32 user 0
  let subtype ← Bytes.rd16 subtype 0
  .ok ⟨userDbid, subtype, hash⟩

def matchCmd : Bytes :=
  [0x5e, 0x02, 0xff] ++ Bytes.le16 0 ++ Bytes.le16 0 ++ Bytes.le16 1 ++ Bytes.le16 0 ++
    Bytes.le16 0

def runMatch (fuel : Nat) : Usb.Drv S MatchResult := do
  Usb.exchange w matchCmd "starting match"
  let start ← Usb.now w
  let b ← waitInt w fuel (start + 10000)
  Act.bailIf (b.head? ≠ some 3) ("finger not recognised (interrupt " ++ Bytes.hex b ++ ")")
  let rsp ← Usb.request w [0x60, 0x00, 0x00, 0x00, 0x00] "reading match result"
  Act.ofOutcome (parseMatch (rsp.drop 2))

def matchFinger (fuel : Nat) : Usb.Drv S MatchResult := do
  let result ← Act.attempt (runMatch w fuel)
  Act.ignore (Usb.cmd w [0x62, 0x00, 0x00, 0x00, 0x00])
  Act.lift result

end ValidityFprintd.Capture
