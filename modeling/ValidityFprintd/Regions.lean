import ValidityFprintd.Provisioned
import ValidityFprintd.Tools

/-! What of a sensor a command writes to, and where each part of the driver does. A relation that
queries keep unless they write where they may not is kept by all that writes nowhere else. -/

namespace ValidityFprintd.Regions
open Effect World Traffic

/-- What a sensor keeps, and the hardware registers of its upload. -/
inductive Region where
  | registers
  | partition (id : UInt8)
  | database
  /-- All of the flash. -/
  | whole
  deriving DecidableEq

/-- Where a command writes, if it does. A signed blob only unlocks what follows it. -/
def touched : Bytes → Option Region
  | [] => none
  | c :: rest =>
    if c ∈ [0x3f, 0x41, 0x42] then rest.head?.map .partition
    else if c ∈ [0x47, 0x48] then some .database
    else if c = 0x08 then some .registers
    else if c ∈ [0x10, 0x4f] then some .whole
    else none

/-- A query that writes, if anywhere, where it may. -/
def Within (may : Region → Prop) : Usb.Query → Prop
  | .cmd out => ∀ r, touched out = some r → may r
  | _ => True

theorem touched_signed {b : Bytes} (signed : b.head? = some 0x06) : touched b = none := by
  obtain ⟨rest, rfl⟩ := List.head?_eq_some_iff.mp signed
  rfl

variable {S : Type} {w : Usb.World S} {R : S → List (Usb.Entry S) → S → Prop}
  {may : Region → Prop}

/-- A query keeps the relation if it writes nowhere but where it may. -/
def Permits (w : Usb.World S) (R : S → List (Usb.Entry S) → S → Prop) (may : Region → Prop) :
    Prop :=
  ∀ q, Within may q → Asking w R q

section Queries

variable (hp : Permits w R may)

include hp

theorem Permits.idle : Idle w R := ⟨hp .pollInterrupt trivial, hp .now trivial⟩

theorem Permits.spares {out : Bytes} (spares : touched out = none) : Asking w R (.cmd out) :=
  hp (.cmd out) fun r there => by
    rw [spares] at there
    cases there

theorem Permits.writes {out : Bytes} {r : Region} (writes : touched out = some r)
    (allowed : may r) : Asking w R (.cmd out) :=
  hp (.cmd out) fun r' there => by
    rw [writes] at there
    cases there
    exact allowed

end Queries

theorem permits_asks (w : Usb.World S) (may : Region → Prop) :
    Permits w (fun _ l _ => ∀ e ∈ l, Within may e.query) may :=
  fun _ within => ask_asks w within

section Driver

variable [Composes R] (hp : Permits w R may)

include hp

section Flash
open Flash

theorem getFlashInfo_permitted : Respects R (getFlashInfo w) :=
  Provision.getFlashInfo_respects (hp.spares rfl)

theorem readFlash_permitted (partition : UInt8) (addr size : UInt32) :
    Respects R (readFlash w partition addr size) :=
  .bind (request_respects (hp.spares rfl) _) fun _ => .bind (.bailIf _ _) fun _ =>
    .bind (.ofOutcome _) fun _ => .bind (.bailIf _ _) fun _ => .ite (.ret _) .crash

theorem readBlocks_permitted (partition : UInt8) (n : Nat) (addr : UInt32) :
    Respects R (readBlocks w partition n addr) := by
  induction n generalizing addr with
  | zero => exact .ret _
  | succ n ih => exact .bind (readFlash_permitted hp _ _ _) fun _ => .bind (ih _) fun _ => .ret _

theorem readFlashAll_permitted (partition : UInt8) (start size : UInt32) :
    Respects R (readFlashAll w partition start size) :=
  .bind (readBlocks_permitted hp _ _ _) fun _ => .ret _

theorem writeEnable_permitted (blob : WriteEnable) : Respects R (writeEnable w blob) :=
  exchange_respects (hp.spares (touched_signed blob.property)) _

theorem closing_permitted {α : Type} (result : Except String α) :
    Respects R (closing w result) :=
  .bind (.attempt (.bind (cmd_respects (hp.spares rfl)) fun _ =>
    .ite (.ret _) (.mapErr _ (.lift _)))) fun _ => .bind (.lift _) fun _ =>
    .bind (.lift _) fun _ => .ret _

theorem commitAfter_permitted {α : Type} (blob : WriteEnable) {write : Usb.Drv S α}
    (h : Respects R write) : Respects R (commitAfter w blob write) :=
  .bind (writeEnable_permitted hp blob) fun _ => .bind (.attempt h) fun _ =>
    closing_permitted hp _

theorem commitAfterReply_permitted (blob : WriteEnable) {out : Bytes} (c : String)
    (h : Asking w R (.cmd out)) : Respects R (commitAfterReply w blob out c) :=
  .bind (writeEnable_permitted hp blob) fun _ => .bind (cmd_respects h) fun _ =>
    closing_permitted hp _

theorem eraseFlash_permitted (blob : WriteEnable) {partition : UInt8}
    (allowed : may (.partition partition)) : Respects R (eraseFlash w blob partition) :=
  commitAfterReply_permitted hp blob _ (hp.writes rfl allowed)

theorem writeFlashAll_permitted (blob : WriteEnable) {partition : UInt8} (start : UInt32)
    (buf : Bytes) (allowed : may (.partition partition)) :
    Respects R (writeFlashAll w blob partition start buf) := by
  unfold writeFlashAll
  generalize Bytes.chunks 0x1000 buf = chunks
  induction chunks generalizing start with
  | nil => exact .ret ()
  | cons chunk chunks ih =>
    exact .bind (commitAfterReply_permitted hp blob _ (hp.writes rfl allowed)) fun _ => ih _

end Flash

section Db
open Db

theorem dbInfo_permitted : Respects R (dbInfo w) :=
  .bind (cmd_respects (hp.spares rfl)) fun _ => .bind (.lift _) fun _ => .ofOutcome _

theorem getUserStorage_permitted (name : Bytes) : Respects R (getUserStorage w name) :=
  .bind (cmd_respects (hp.spares rfl)) fun _ => .ite (.ret _) (.bind (.lift _) fun _ =>
    .bind (.ofOutcome _) fun _ => .ret _)

theorem getUser_permitted (dbid : UInt16) : Respects R (getUser w dbid) :=
  .bind (cmd_respects (hp.spares rfl)) fun _ => .bind (.lift _) fun _ => .ofOutcome _

theorem getRecordChildren_permitted (dbid : UInt16) : Respects R (getRecordChildren w dbid) :=
  .bind (cmd_respects (hp.spares rfl)) fun _ => .bind (.lift _) fun _ => .ofOutcome _

theorem listUsers_permitted : Respects R (listUsers w) := by
  refine .bind (getUserStorage_permitted hp _) fun storage => ?_
  cases storage with
  | none => exact .ret _
  | some storage =>
    change Respects R (getUsers w storage.users)
    induction storage.users with
    | nil => exact .ret _
    | cons u users ih => exact .bind (getUser_permitted hp _) fun _ => .bind ih fun _ => .ret _

theorem lookupUser_permitted (identity : SidIdentity) : Respects R (lookupUser w identity) := by
  refine .bind (getUserStorage_permitted hp _) fun storage => ?_
  cases storage with
  | none => exact .ret _
  | some storage =>
    exact .bind (cmd_respects (hp.spares rfl)) fun _ => .ite (.ret _) (.bind (.lift _) fun _ =>
      .bind (.ofOutcome _) fun _ => .ret _)

variable (database : may .database)

include database

theorem newRecord_permitted (blob : WriteEnable) (parent kind storage : UInt16) (data : Bytes) :
    Respects R (newRecord w blob parent kind storage data) :=
  .bind (dbInfo_permitted hp) fun _ => commitAfter_permitted hp blob
    (.bind (request_respects (hp.writes rfl database) _) fun _ => .bind (.bailIf _ _) fun _ =>
      .ofOutcome _)

theorem ensureUserStorage_permitted (blob : WriteEnable) :
    Respects R (ensureUserStorage w blob) := by
  refine .bind (getUserStorage_permitted hp _) fun storage => ?_
  cases storage with
  | some storage => exact .ret _
  | none =>
    refine .bind (newRecord_permitted hp database blob _ _ _ _) fun _ => ?_
    refine .bind (getUserStorage_permitted hp _) fun storage => ?_
    cases storage with
    | some storage => exact .ret _
    | none => exact .fail _

theorem deleteFingers_permitted (identity : SidIdentity) (doomed : FingerRef → Bool) :
    Respects R (deleteFingers w identity doomed) := by
  have records : ∀ dbids, Respects R (delRecords w dbids) := by
    intro dbids
    induction dbids with
    | nil => exact .ret _
    | cons dbid dbids ih =>
      exact .bind (exchange_respects (hp.writes rfl database) _) fun _ => ih
  refine .bind (lookupUser_permitted hp _) fun user => ?_
  cases user with
  | none => exact .ret _
  | some user => exact .bind (records _) fun _ => .ret _

end Db

section Capture
open Capture

theorem capture_permitted (mine : Option Nat) (fuel : Nat) (calib : Calibration)
    (cfg : SensorConfig) (mode : CaptureMode) (fingerTimeout : Nat) :
    Respects R (capture w mine fuel calib cfg mode fingerTimeout) := by
  refine .bind_yielded (.ofOutcome _) fun built => ?_
  obtain ⟨rest, rfl⟩ := Calibration.buildCmd02_head built.1
  exact .bind (.attempt (scan_respects (hp.spares rfl) hp.idle (hp .current trivial)
    (hp.spares rfl) mine fuel fingerTimeout)) fun _ =>
    .bind (.ignore (cmd_respects (hp.spares rfl))) fun _ => .lift _

theorem matchFinger_permitted (fuel : Nat) : Respects R (matchFinger w fuel) :=
  .bind (.attempt (.bind (exchange_respects (hp.spares rfl) _) fun _ => .bind hp.idle.now fun _ =>
    .bind (waitInt_respects hp.idle fuel _) fun _ => .bind (.bailIf _ _) fun _ =>
    .bind (request_respects (hp.spares rfl) _) fun _ => .ofOutcome _)) fun _ =>
    .bind (.ignore (cmd_respects (hp.spares rfl))) fun _ => .lift _

theorem blankFrame_permitted (cfg : SensorConfig) (calib : Calibration) (c : String) :
    Respects R (Calibration.blankFrame w cfg calib c) := by
  refine .bind_yielded (.ofOutcome _) fun built => ?_
  obtain ⟨rest, rfl⟩ := Calibration.buildCmd02_head built.1
  exact .bind (exchange_respects (hp.spares rfl) _) fun _ => .bind (hp .readData trivial) fun _ =>
    .bind (.lift _) fun _ => .ofOutcome _

theorem calibrate_permitted (cfg : SensorConfig) (iterations : UInt32) (calib : Calibration) :
    Respects R (Calibration.calibrate w cfg iterations calib) := by
  unfold Calibration.calibrate
  generalize iterations.toNat = n
  generalize (0 : Nat) = i
  induction n generalizing i calib with
  | zero => exact .ret _
  | succ n ih =>
    exact .bind (blankFrame_permitted hp _ _ _) fun _ => .bind (.ofOutcome _) fun _ => ih _ _

end Capture

section Enroll
open Enroll

theorem enrollmentUpdateEnd_permitted : Respects R (enrollmentUpdateEnd w) :=
  exchange_respects (hp.spares rfl) _

theorem enrollmentUpdateStart_permitted (fuel : Nat) (key : UInt32) :
    Respects R (enrollmentUpdateStart w fuel key) :=
  .bind (request_respects (hp.spares rfl) _) fun _ => .bind (.bailIf _ _) fun _ =>
    .bind (.ofOutcome _) fun _ => .bind hp.idle.now fun _ =>
    .bind (waitInt_respects hp.idle fuel _) fun _ => .ret _

theorem enrollmentUpdate_permitted (blob : WriteEnable) (prev : Bytes) :
    Respects R (enrollmentUpdate w blob prev) :=
  commitAfter_permitted hp blob (.bind (request_respects (hp.spares rfl) _) fun _ =>
    .ite (.ret _) .crash)

theorem appendNewImage_permitted (fuel : Nat) (blob : WriteEnable) (prev : Bytes) :
    Respects R (appendNewImage w fuel blob prev) :=
  .bind (enrollmentUpdate_permitted hp _ _) fun _ => .bind hp.idle.now fun _ =>
    .bind (waitInt_respects hp.idle fuel _) fun _ => .bind (enrollmentUpdate_permitted hp _ _)
    fun _ => .ofOutcome _

theorem round_permitted (fuel : Nat) (r : Request) (key : UInt32) (template : Bytes) :
    Respects R (Enroll.round w fuel r key template) := by
  refine .bind (.attempt (capture_permitted hp _ _ _ _ _ _)) fun captured => ?_
  cases captured with
  | error e => exact .ret _
  | ok c =>
    refine .bind (.attempt (enrollmentUpdateStart_permitted hp _ _)) fun started => ?_
    cases started with
    | error e => exact .ret _
    | ok key => exact .bind (.attempt (appendNewImage_permitted hp _ _ _)) fun _ => .ret _

theorem settle_permitted (r : Request) (progress : Progress)
    (result : UInt32 × Except String Records) : Respects R (settle w r progress result) := by
  obtain ⟨key, records⟩ := result
  cases records with
  | ok records => exact .bind (hp (.onStage _ _) trivial) fun _ => .ite (.ret _) (.ret _)
  | error e =>
    exact .bind (stopped_respects (hp .current trivial) _) fun _ => .ite
      (.bind (.ignore (exchange_respects (hp.spares rfl) _)) fun _ => .fail _)
      (.bind (hp (.onStage _ _) trivial) fun _ => .ret _)

theorem rounds_permitted (fuel : Nat) (r : Request) : Respects R (rounds w fuel r) :=
  .loop (fun _ => .ite (.bind (.ignore (exchange_respects (hp.spares rfl) _)) fun _ =>
    .bind (round_permitted hp _ _ _ _) fun _ => .bind (.ignore (enrollmentUpdateEnd_permitted hp))
    fun _ => settle_permitted hp _ _ _) (.ret _)) fuel _

theorem enroll_permitted (database : may .database) (fuel : Nat) (r : Request) :
    Respects R (enroll w fuel r) := by
  have user : Respects R (findOrCreateUser w r) := by
    refine .bind (lookupUser_permitted hp _) fun user => ?_
    cases user with
    | some u => exact .ret _
    | none =>
      exact .bind (ensureUserStorage_permitted hp database _) fun _ =>
        newRecord_permitted hp database _ _ _ _ _
  refine .bind (exchange_respects (hp.spares rfl) _) fun _ => ?_
  refine .bind (rounds_permitted hp _ _) fun _ => ?_
  refine .bind (.ignore (exchange_respects (hp.spares rfl) _)) fun _ => .bind (.bailIf _ _) ?_
  refine fun _ => .bind (.ignore (enrollmentUpdateEnd_permitted hp)) fun _ => ?_
  refine .bind (deleteFingers_permitted hp database _ _) fun _ => .bind user fun _ => ?_
  refine .bind (.bind (ensureUserStorage_permitted hp database _) fun _ =>
    newRecord_permitted hp database _ _ _ _ _) fun _ => ?_
  exact .bind hp.idle.now fun _ => .bind (.ignore (waitInt_respects hp.idle fuel _)) fun _ =>
    .ret _

end Enroll

section Device
open Device

variable (passwd : Except String Text) (username : Text)

theorem listEnrolledFingers_permitted : Respects R (listEnrolledFingers w passwd username) :=
  .bind (.lift _) fun _ => .bind (listUsers_permitted hp) fun _ => .ret _

theorem judge_permitted (fuel : Nat) (sid : SidIdentity)
    (captured : Except String Capture.CaptureResult) : Respects R (judge w fuel sid captured) := by
  cases captured with
  | error e => exact .ret _
  | ok c =>
    refine .bind (.attempt (matchFinger_permitted hp fuel)) fun found => ?_
    cases found with
    | error e => exact .ret _
    | ok m =>
      refine .bind (.attempt (getUser_permitted hp _)) fun owner => ?_
      cases owner with
      | error e => exact .ret _
      | ok u => exact .ite (.ret _) (.ret _)

theorem verify_permitted (mine : Option Nat) (fuel : Nat) (calib : Calibration)
    (cfg : SensorConfig) (timeout : Nat) :
    Respects R (verify w passwd username mine fuel calib cfg timeout) :=
  .bind (.lift _) fun _ => .bind (.ignore (exchange_respects (hp.spares rfl) _)) fun _ =>
    .bind (.attempt (capture_permitted hp _ _ _ _ _ _)) fun _ =>
    .bind (judge_permitted hp _ _ _) fun _ =>
    .bind (.ignore (exchange_respects (hp.spares rfl) _)) fun _ => .ret _

theorem deviceEnroll_permitted (database : may .database) (mine : Option Nat) (fuel : Nat)
    (h : Handle) (finger : String) (timeout : Nat) :
    Respects R (Device.enroll w passwd username mine fuel h finger timeout) :=
  .bind (.lift _) fun _ => .bind (.ofOutcome _) fun _ => enroll_permitted hp database _ _

end Device

section Sensor
open Sensor

variable (devices : List DeviceInfo)

theorem identifySensor_permitted : Respects R (identifySensor w devices) :=
  .bind (request_respects (hp.spares rfl) _) fun _ => .bind (.ofOutcome _) fun _ => .ofOutcome _

theorem probe_permitted : Respects R (probe w devices) :=
  .bind (identifySensor_permitted hp devices) fun _ => .bind (.ofOutcome _) fun _ =>
    .bind (.ofOutcome _) fun _ =>
    .bind (.bind (request_respects (hp.spares rfl) _) fun _ => .bind (.ofOutcome _) fun _ =>
      .ofOutcome _) fun _ => .bind (.bailIf _ _) fun _ => .bind (.ofOutcome _) fun _ =>
    .bind (.ofOutcome _) fun _ =>
    .bind (.bind (request_respects (hp.spares rfl) _) fun _ => .bind (.ofOutcome _) fun _ =>
      .ofOutcome _) fun _ => .bind (.ofOutcome _) fun _ => .ret _

end Sensor

section Tools
open Baseline Firmware Provision

theorem reboot_permitted : Respects R (reboot w) := .ignore (cmd_respects (hp.spares rfl))

theorem readStored_permitted : Respects R (readStored w) :=
  .bind (readFlash_permitted hp _ _ _) fun _ => .ite (.ret _) (.bind (.ofOutcome _) fun _ =>
    .ite (.ret _) (.bind (.ofOutcome _) fun _ => .bind (readFlashAll_permitted hp _ _ _) fun _ =>
      .ret _))

theorem checkCleanSlate_permitted (C : Crypto.Primitives) : Respects R (checkCleanSlate C w) :=
  .bind (readFlash_permitted hp _ _ _) fun _ => .ite (.ret _) (.bind (.ofOutcome _) fun _ =>
    .bind (.ofOutcome _) fun _ => .ite (.ret _) (.ite (.ret _)
      (.bind (readFlashAll_permitted hp _ _ _) fun _ => .ret _)))

theorem getFwInfo_permitted (partition : UInt8) : Respects R (getFwInfo w partition) :=
  .bind (cmd_respects (hp.spares rfl)) fun _ => .ite (.ret _) (.bind (.mapErr _ (.lift _)) fun _ =>
    .bind (.ite (.ret _) .crash) fun _ => .bind (.ofOutcome _) fun _ => .ret _)

theorem persist_permitted (allowed : may (.partition partitionCalibration)) (blob : WriteEnable)
    (candidate : Bytes) : Respects R (persist w blob candidate) := by
  refine .bind (.bind (readFlash_permitted hp _ _ _) fun _ =>
    .ite (.ret _) (.ite (.ret _) (.ret _))) fun state => ?_
  cases state with
  | matched => exact .ret _
  | blank => exact .bind (writeFlashAll_permitted hp _ _ _ allowed) fun _ => .ret _
  | differs =>
    exact .bind (eraseFlash_permitted hp _ allowed) fun _ =>
      .bind (writeFlashAll_permitted hp _ _ _ allowed) fun _ => .ret _

theorem candidateFor_permitted (C : Crypto.Primitives) (cfg : SensorConfig) (iterations : UInt32)
    (write force : Bool) : Respects R (candidateFor C w cfg iterations write force) := by
  have encoder : ∀ stored, Respects R (checkEncoder C w write stored) := by
    intro stored
    cases stored with
    | none => exact .ret _
    | some b =>
      refine .bind (.bind (readStored_permitted hp) fun stored => ?_) fun _ => .bailIf _ _
      cases stored with
      | none => exact .fail _
      | some stored => exact .ret _
  exact .bind (readStored_permitted hp) fun _ => .bind (checkCleanSlate_permitted hp C) fun _ =>
    .bind (encoder _) fun _ => .ite (.bind (reboot_permitted hp) fun _ => .ret _)
      (.bind (calibrate_permitted hp _ _ _) fun _ => .bind (.bind (blankFrame_permitted hp _ _ _)
        fun _ => .ret _) fun _ => .ret _)

omit hp [Composes R] in
theorem candidateFor_none {C : Crypto.Primitives} {cfg : SensorConfig} {iterations : UInt32}
    {write force : Bool} {candidate : Bytes} {s t : S}
    (run : Yields (candidateFor C w cfg iterations write force) s (some candidate) t) :
    write = true := by
  obtain ⟨stored, _, _, run⟩ := Yields.bind_iff.mp run
  obtain ⟨_, _, _, run⟩ := Yields.bind_iff.mp run
  obtain ⟨_, _, _, run⟩ := Yields.bind_iff.mp run
  by_cases idle : write = false ∨ (stored.isSome ∧ force = false)
  · rw [if_pos idle] at run
    obtain ⟨_, _, _, run⟩ := Yields.bind_iff.mp run
    cases (Yields.ret_iff.mp run).1
  · exact Bool.eq_true_of_not_eq_false fun no => idle (.inl no)

theorem baselineTool_permitted (C : Crypto.Primitives) (blob : WriteEnable) (cfg : SensorConfig)
    (iterations : UInt32) {write : Bool} (force : Bool)
    (allowed : write = true → may (.partition partitionCalibration)) :
    Respects R (baselineTool C w blob cfg iterations write force) := by
  refine .bind_yielded (candidateFor_permitted hp C _ _ _ _) fun {_ candidate _} came => ?_
  cases candidate with
  | none => exact .ret _
  | some candidate =>
    exact .bind (persist_permitted hp (allowed (candidateFor_none came)) _ _) fun _ => .ite
      (.bind (checkCleanSlate_permitted hp C) fun _ => .bind (.bailIf _ _) fun _ =>
        reboot_permitted hp) (reboot_permitted hp)

theorem upload_permitted (devices : List Sensor.DeviceInfo) (blob : WriteEnable) (fwext : Bytes)
    (registers : may .registers) (allowed : may (.partition partitionFirmware)) :
    Respects R (upload w devices blob fwext) := by
  refine .bind (getFwInfo_permitted hp _) fun fw => ?_
  cases fw with
  | some fw => exact .ret _
  | none =>
    refine .bind (.lift _) fun parts => .bind ?_ fun _ => .bind ?_ fun _ => .ret _
    · exact .bind (exchange_respects (hp.writes rfl registers) _) fun _ =>
        .bind (.bind (request_respects (hp.spares rfl) _) fun _ => .bind (.bailIf _ _) fun _ =>
          .ofOutcome _) fun _ => .bind (.bailIf _ _) fun _ =>
        .ignore (identifySensor_permitted hp devices)
    · exact .bind (writeFlashAll_permitted hp _ _ _ allowed) fun _ =>
        .bind (exchange_respects (hp.writes rfl allowed) _) fun _ =>
        .bind (getFwInfo_permitted hp _) fun _ => .bind (.ofOutcome _) fun _ =>
        reboot_permitted hp

theorem firmwareTool_permitted (devices : List Sensor.DeviceInfo) (blob : WriteEnable)
    {doUpload : Bool} (file onDisk : Option String) (read : String → Except String Bytes)
    (registers : doUpload = true → may .registers)
    (allowed : doUpload = true → may (.partition partitionFirmware)) :
    Respects R (firmwareTool w devices blob doUpload file onDisk read) := by
  refine .bind (getFwInfo_permitted hp _) fun _ => ?_
  cases doUpload with
  | false => exact .ret _
  | true =>
    refine .bind (getFwInfo_permitted hp _) fun fw => ?_
    cases fw with
    | some fw => exact .ret _
    | none =>
      exact .bind (.lift _) fun _ => .bind (.lift _) fun _ =>
        .bind (upload_permitted hp _ _ _ (registers rfl) (allowed rfl)) fun _ => .bailIf _ _

theorem factoryReset_permitted (blob : ResetBlob) (whole : may .whole) :
    Respects R (factoryReset w blob) :=
  .bind (exchange_respects (hp.spares (touched_signed blob.property)) _) fun _ =>
    .bind (exchange_respects (hp.writes rfl whole) _) fun _ => reboot_permitted hp

end Tools

section Reports
open Tools

theorem validityDb_permitted : Respects R (validityDb w) := by
  refine .bind (dbInfo_permitted hp) fun _ => ?_
  refine .bind (getUserStorage_permitted hp _) fun storage => ?_
  cases storage with
  | none => exact reboot_permitted hp
  | some storage =>
    exact .bind (getRecordChildren_permitted hp _) fun _ => .bind (listUsers_permitted hp) fun _ =>
      reboot_permitted hp

theorem validitySession_permitted : Respects R (validitySession w) :=
  .bind (getFlashInfo_permitted hp) fun _ => reboot_permitted hp

theorem validitySensor_permitted (devices : List Sensor.DeviceInfo) :
    Respects R (validitySensor w devices) :=
  .bind (probe_permitted hp _) fun _ => .bind (.ofOutcome _) fun _ =>
    .bind (getFlashInfo_permitted hp) fun _ => reboot_permitted hp

theorem validityVerify_permitted (C : Crypto.Primitives) (devices : List Sensor.DeviceInfo)
    (fuel : Nat) : Respects R (validityVerify w C devices fuel) := by
  have matching : Respects R (matchCaptured w fuel) := by
    refine .bind (.attempt (matchFinger_permitted hp fuel)) fun found => ?_
    cases found with
    | error e => exact .ret _
    | ok m => exact .ignore (getUser_permitted hp _)
  refine .bind (probe_permitted hp _) fun cfg => .bind (listUsers_permitted hp) fun enrolled => ?_
  refine .ite (reboot_permitted hp) (.bind (checkCleanSlate_permitted hp C) fun _ => ?_)
  refine .bind (calibrate_permitted hp _ _ _) fun calib => ?_
  refine .bind (exchange_respects (hp.spares rfl) _) fun _ => ?_
  refine .bind (.attempt (capture_permitted hp _ _ _ _ _ _)) fun result => ?_
  have ending : Respects R (Act.ignore (Capture.glowEndScan w) >>= fun _ => Provision.reboot w) :=
    .bind (.ignore (exchange_respects (hp.spares rfl) _)) fun _ => reboot_permitted hp
  cases result with
  | error e => exact .bind (.ret _) fun _ => ending
  | ok c => exact .bind matching fun _ => ending

theorem validityProbe_permitted (C : Crypto.Primitives)
    (identity : Except String (String × String)) : Respects R (validityProbe w C identity) := by
  refine .bind (.ignore (cmd_respects (hp.spares rfl))) fun _ => ?_
  refine .bind (.ignore (getFwInfo_permitted hp _)) fun _ => ?_
  refine .bind (.ignore (getFlashInfo_permitted hp)) fun _ => ?_
  refine .bind (.attempt (readFlash_permitted hp _ _ _)) fun flash => ?_
  cases flash with
  | error e => exact .ret _
  | ok record =>
    refine .bind (.lift _) fun blocks => ?_
    cases identity with
    | error e => exact .ret _
    | ok host => exact .bind (.ofOutcome _) fun _ => .bind (.lift _) fun _ => .ret _

theorem sendInit_permitted (blobs : Option Init.DeviceBlobs) (vid pid : UInt16) :
    Respects R (Init.sendInit w blobs vid pid) := by
  have signed : ∀ b : Init.SignedBlob, Asking w R (.cmd b.val) := fun b => hp.spares <| by
    obtain ⟨blob, rfl | head⟩ := b
    · rfl
    · exact touched_signed head
  exact .bind (exchange_respects (hp.spares rfl) _) fun _ =>
    .bind (exchange_respects (hp.spares rfl) _) fun _ =>
    .bind (cmd_respects (hp.spares rfl)) fun _ =>
    .bind (.ofOutcome _) fun _ => .bind (exchange_respects (signed _) _) fun _ =>
    .ite (.bind (cmd_respects (signed _)) fun _ => .ret _) (.ret _)

end Reports

end Driver

end ValidityFprintd.Regions
