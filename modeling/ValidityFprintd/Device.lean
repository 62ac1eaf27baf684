import ValidityFprintd.Capture
import ValidityFprintd.Db
import ValidityFprintd.Passwd

/-! The sensor as the daemon sees it: fingers by the login name of their owner. -/

namespace ValidityFprintd.Device
open Effect Capture

def fingerName (subtype : UInt16) : String :=
  match subtype.toNat with
  | 1 => "right-thumb"
  | 2 => "right-index-finger"
  | 3 => "right-middle-finger"
  | 4 => "right-ring-finger"
  | 5 => "right-little-finger"
  | 6 => "left-thumb"
  | 7 => "left-index-finger"
  | 8 => "left-middle-finger"
  | 9 => "left-ring-finger"
  | 10 => "left-little-finger"
  | 13 => "right-hand-four-fingers"
  | 14 => "left-hand-four-fingers"
  | 15 => "two-thumbs"
  | n => if 0xf5 ≤ n ∧ n ≤ 0xfe then "unspecified" else "unknown"

def syntheticDomain : List UInt32 := [111111111, 1111111111, 1111111111]

def syntheticSid (uid : UInt32) : SidIdentity := ⟨1, 5, 21 :: syntheticDomain ++ [uid]⟩

theorem syntheticSid_fits (uid : UInt32) : (syntheticSid uid).Fits :=
  ⟨by simp [syntheticSid], by simp [syntheticSid, syntheticDomain]⟩

/-- Map a login name to the SID its enrolments are stored under. -/
def sidForUser (passwd : Except String Text) (username : Text) : Except String SidIdentity :=
  (Passwd.uidForUser passwd username).map syntheticSid

theorem sidForUser_fits {passwd : Except String Text} {username : Text} {sid : SidIdentity}
    (h : sidForUser passwd username = .ok sid) : sid.Fits := by
  unfold sidForUser at h
  cases uid : Passwd.uidForUser passwd username with
  | error e =>
    rw [uid] at h
    cases h
  | ok uid' =>
    rw [uid] at h
    cases h
    exact syntheticSid_fits uid'

inductive VerifyOutcome where
  | matched (finger : String)
  | noMatch
  /-- The scan was unusable. -/
  | retry (e : String)
  deriving DecidableEq

variable {S : Type} (w : Usb.World S) (passwd : Except String Text) (username : Text)

def namesOf (sid : SidIdentity) (users : List Db.User) : List String :=
  (users.filter fun u => u.identity = sid).flatMap fun u =>
    u.fingers.map fun f => fingerName f.subtype

def listEnrolledFingers : Usb.Drv S (List String) := do
  let sid ← Act.lift (sidForUser passwd username)
  let users ← Db.listUsers w
  Act.ret (namesOf sid users)

def owned (sid : SidIdentity) (m : MatchResult) : Usb.Drv S VerifyOutcome := do
  let owner ← Act.attempt (Db.getUser w m.userDbid.toUInt16)
  match owner with
  | .error _ => Act.ret .noMatch
  | .ok u =>
    if u.identity = sid then Act.ret (.matched (fingerName m.subtype)) else Act.ret .noMatch

/-- What a scan, or its failure, says of the user. -/
def judge (fuel : Nat) (sid : SidIdentity) :
    Except String CaptureResult → Usb.Drv S VerifyOutcome
  | .error e => Act.ret (.retry e)
  | .ok _ => do
    let found ← Act.attempt (matchFinger w fuel)
    match found with
    | .error _ => Act.ret .noMatch
    | .ok m => owned w sid m

/-- Capture a fingerprint and match it against the user's enrolments. -/
def verify (mine : Option Nat) (fuel : Nat) (calib : Calibration) (cfg : SensorConfig)
    (timeout : Nat) : Usb.Drv S VerifyOutcome := do
  let sid ← Act.lift (sidForUser passwd username)
  Act.ignore (glowStartScan w)
  let captured ← Act.attempt (capture w mine fuel calib cfg .identify timeout)
  let outcome ← judge w fuel sid captured
  Act.ignore (glowEndScan w)
  Act.ret outcome

def deleteEnrolledFingers : Usb.Drv S Nat := do
  let sid ← Act.lift (sidForUser passwd username)
  Db.deleteAllFingers w sid

end ValidityFprintd.Device
