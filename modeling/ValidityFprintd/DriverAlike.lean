import ValidityFprintd.Baseline
import ValidityFprintd.Device
import ValidityFprintd.Enroll
import ValidityFprintd.Firmware
import ValidityFprintd.Simulation

/-! The driver knows a sensor by its answers only: in a world that simulates another one every
call ends as it does there. -/

namespace ValidityFprintd.Likeness
open Effect

variable {S T α : Type} {p : Exchange Usb.Query.Answer → Prop} {R : S → T → Prop}
  {w : Usb.World S} {v : Usb.World T}

section Bytes

theorem slice_alike (b : Bytes) (i j : Nat) :
    Alike p R (Bytes.slice b i j : Usb.Drv S Bytes) (Bytes.slice b i j : Usb.Drv T Bytes) :=
  .ite (.ret _) .crash

theorem sliceFrom_alike (b : Bytes) (i : Nat) :
    Alike p R (Bytes.sliceFrom b i : Usb.Drv S Bytes) (Bytes.sliceFrom b i : Usb.Drv T Bytes) :=
  .ite (.ret _) .crash

theorem check_alike (rsp : Bytes) :
    Alike p R (Usb.check rsp : Usb.Drv S Unit) (Usb.check rsp : Usb.Drv T Unit) := .lift _

end Bytes

variable (sim : w.Simulates p R v)

include sim

section Usb

theorem cmd_alike (out : Bytes) : Alike p R (Usb.cmd w out) (Usb.cmd v out) :=
  .bind (.ask sim _) fun rsp => .lift rsp

theorem pollInterrupt_alike : Alike p R (Usb.pollInterrupt w) (Usb.pollInterrupt v) :=
  .bind (.ask sim _) fun b => .lift b

theorem now_alike : Alike p R (Usb.now w) (Usb.now v) := .ask sim _

theorem request_alike (out : Bytes) (c : String) :
    Alike p R (Usb.request w out c) (Usb.request v out c) :=
  .bind (cmd_alike sim out) fun _ => .bind (.mapErr _ (check_alike _)) fun _ => .ret _

theorem exchange_alike (out : Bytes) (c : String) :
    Alike p R (Usb.exchange w out c) (Usb.exchange v out c) :=
  .bind (request_alike sim out c) fun _ => .ret ()

end Usb

section Flash
open Flash

theorem readFlash_alike (partition : UInt8) (addr size : UInt32) :
    Alike p R (readFlash w partition addr size) (readFlash v partition addr size) :=
  .bind (request_alike sim _ _) fun _ => .bind (.bailIf _ _) fun _ => .bind (.ofOutcome _) fun _ =>
    .bind (.bailIf _ _) fun _ => slice_alike _ _ _

theorem readBlocks_alike (partition : UInt8) (n : Nat) (addr : UInt32) :
    Alike p R (readBlocks w partition n addr) (readBlocks v partition n addr) := by
  induction n generalizing addr with
  | zero => exact .ret _
  | succ n ih => exact .bind (readFlash_alike sim _ _ _) fun _ => .bind (ih _) fun _ => .ret _

theorem readFlashAll_alike (partition : UInt8) (start size : UInt32) :
    Alike p R (readFlashAll w partition start size) (readFlashAll v partition start size) :=
  .bind (readBlocks_alike sim _ _ _) fun _ => .ret _

theorem writeEnable_alike (blob : WriteEnable) :
    Alike p R (writeEnable w blob) (writeEnable v blob) := exchange_alike sim _ _

theorem callCleanups_alike : Alike p R (callCleanups w) (callCleanups v) :=
  .bind (cmd_alike sim _) fun _ => .ite (.ret ()) (.mapErr _ (check_alike _))

theorem closing_alike (result : Except String α) :
    Alike p R (closing w result) (closing v result) :=
  .bind (.attempt (callCleanups_alike sim)) fun _ => .bind (.lift _) fun _ => .bind (.lift _)
    fun _ => .ret _

theorem commitAfter_alike (blob : WriteEnable) {write : Usb.Drv S α} {write' : Usb.Drv T α}
    (h : Alike p R write write') :
    Alike p R (commitAfter w blob write) (commitAfter v blob write') :=
  .bind (writeEnable_alike sim blob) fun _ => .bind (.attempt h) fun _ => closing_alike sim _

theorem commitAfterReply_alike (blob : WriteEnable) (out : Bytes) (c : String) :
    Alike p R (commitAfterReply w blob out c) (commitAfterReply v blob out c) :=
  .bind (writeEnable_alike sim blob) fun _ => .bind (cmd_alike sim _) fun _ => closing_alike sim _

theorem eraseFlash_alike (blob : WriteEnable) (partition : UInt8) :
    Alike p R (eraseFlash w blob partition) (eraseFlash v blob partition) :=
  commitAfterReply_alike sim _ _ _

theorem writeChunks_alike (blob : WriteEnable) (partition : UInt8) (addr : UInt32)
    (chunks : List Bytes) :
    Alike p R (writeChunks w blob partition addr chunks)
      (writeChunks v blob partition addr chunks) := by
  induction chunks generalizing addr with
  | nil => exact .ret ()
  | cons chunk chunks ih => exact .bind (commitAfterReply_alike sim _ _ _) fun _ => ih _

theorem writeFlashAll_alike (blob : WriteEnable) (partition : UInt8) (start : UInt32)
    (buf : Bytes) :
    Alike p R (writeFlashAll w blob partition start buf)
      (writeFlashAll v blob partition start buf) :=
  writeChunks_alike sim _ _ _ _

end Flash

section Db
open Db

theorem dbInfo_alike : Alike p R (dbInfo w) (dbInfo v) :=
  .bind (cmd_alike sim _) fun _ => .bind (check_alike _) fun _ => .ofOutcome _

theorem getUserStorage_alike (name : Bytes) :
    Alike p R (getUserStorage w name) (getUserStorage v name) :=
  .bind (cmd_alike sim _) fun _ => .ite (.ret _) (.bind (check_alike _) fun _ =>
    .bind (.ofOutcome _) fun _ => .ret _)

theorem getUser_alike (dbid : UInt16) : Alike p R (getUser w dbid) (getUser v dbid) :=
  .bind (cmd_alike sim _) fun _ => .bind (check_alike _) fun _ => .ofOutcome _

theorem getUsers_alike (users : List UserRef) :
    Alike p R (getUsers w users) (getUsers v users) := by
  induction users with
  | nil => exact .ret _
  | cons u users ih => exact .bind (getUser_alike sim _) fun _ => .bind ih fun _ => .ret _

theorem listUsers_alike : Alike p R (listUsers w) (listUsers v) := by
  refine .bind (getUserStorage_alike sim _) fun storage => ?_
  cases storage with
  | none => exact .ret _
  | some storage => exact getUsers_alike sim _

theorem newRecord_alike (blob : WriteEnable) (parent kind storage : UInt16) (data : Bytes) :
    Alike p R (newRecord w blob parent kind storage data)
      (newRecord v blob parent kind storage data) :=
  .bind (dbInfo_alike sim) fun _ => commitAfter_alike sim blob (.bind (request_alike sim _ _)
    fun _ => .bind (.bailIf _ _) fun _ => .ofOutcome _)

theorem lookupUser_alike (identity : SidIdentity) :
    Alike p R (lookupUser w identity) (lookupUser v identity) := by
  refine .bind (getUserStorage_alike sim _) fun storage => ?_
  cases storage with
  | none => exact .ret _
  | some storage =>
    exact .bind (cmd_alike sim _) fun _ => .ite (.ret _) (.bind (check_alike _) fun _ =>
      .bind (.ofOutcome _) fun _ => .ret _)

theorem ensureUserStorage_alike (blob : WriteEnable) :
    Alike p R (ensureUserStorage w blob) (ensureUserStorage v blob) := by
  refine .bind (getUserStorage_alike sim _) fun storage => ?_
  cases storage with
  | some storage => exact .ret _
  | none =>
    refine .bind (newRecord_alike sim _ _ _ _ _) fun _ => .bind (getUserStorage_alike sim _)
      fun storage => ?_
    cases storage with
    | some storage => exact .ret _
    | none => exact .fail _

theorem newUser_alike (blob : WriteEnable) (identity : SidIdentity) :
    Alike p R (newUser w blob identity) (newUser v blob identity) :=
  .bind (ensureUserStorage_alike sim blob) fun _ => newRecord_alike sim _ _ _ _ _

theorem newFinger_alike (blob : WriteEnable) (userDbid : UInt16) (template : Bytes) :
    Alike p R (newFinger w blob userDbid template) (newFinger v blob userDbid template) :=
  .bind (ensureUserStorage_alike sim blob) fun _ => newRecord_alike sim _ _ _ _ _

theorem delRecords_alike (dbids : List UInt16) :
    Alike p R (delRecords w dbids) (delRecords v dbids) := by
  induction dbids with
  | nil => exact .ret ()
  | cons dbid dbids ih => exact .bind (exchange_alike sim _ _) fun _ => ih

theorem deleteFingers_alike (identity : SidIdentity) (doomed : FingerRef → Bool) :
    Alike p R (deleteFingers w identity doomed) (deleteFingers v identity doomed) := by
  refine .bind (lookupUser_alike sim identity) fun user => ?_
  cases user with
  | none => exact .ret _
  | some user => exact .bind (delRecords_alike sim _) fun _ => .ret _

end Db

section Capture
open Capture

theorem stopped_alike (mine : Option Nat) : Alike p R (stopped w mine) (stopped v mine) := by
  cases mine with
  | none => exact .ret _
  | some op => exact .bind (.ask sim _) fun _ => .ret _

theorem waitInt_alike (fuel deadline : Nat) :
    Alike p R (waitInt w fuel deadline) (waitInt v fuel deadline) := by
  refine .loop (fun _ => .bind (pollInterrupt_alike sim) fun b => ?_) fuel ()
  cases b with
  | some b => exact .ret _
  | none => exact .bind (now_alike sim) fun _ => .bind (.bailIf _ _) fun _ => .ret _

theorem pollFinger_alike (deadline : Nat) :
    Alike p R (pollFinger w deadline) (pollFinger v deadline) := by
  refine .bind (pollInterrupt_alike sim) fun b => ?_
  cases b with
  | none => exact .bind (now_alike sim) fun _ => .bind (.bailIf _ _) fun _ => .ret _
  | some b => exact .ite (.ret _) (.ret _)

theorem awaitFinger_alike (mine : Option Nat) (fuel deadline : Nat) :
    Alike p R (awaitFinger w mine fuel deadline) (awaitFinger v mine fuel deadline) :=
  .loop (fun _ => .bind (stopped_alike sim mine) fun _ => .bind (.bailIf _ _) fun _ =>
    pollFinger_alike sim deadline) fuel ()

theorem awaitScan_alike (fuel deadline : Nat) :
    Alike p R (awaitScan w fuel deadline) (awaitScan v fuel deadline) := by
  refine .loop (fun _ => .bind (waitInt_alike sim _ _) fun b => .bind (.bailIf _ _) fun _ => ?_)
    fuel ()
  cases b[2]? with
  | some x => exact .ite (.ret _) (.ret _)
  | none => exact .ret _

theorem scan_alike (mine : Option Nat) (fuel : Nat) (cmd : Bytes) (fingerTimeout : Nat) :
    Alike p R (scan w mine fuel cmd fingerTimeout) (scan v mine fuel cmd fingerTimeout) :=
  .bind (exchange_alike sim _ _) fun _ => .bind (now_alike sim) fun _ =>
    .bind (waitInt_alike sim _ _) fun _ => .bind (.bailIf _ _) fun _ =>
    .bind (now_alike sim) fun _ => .bind (awaitFinger_alike sim _ _ _) fun _ =>
    .bind (now_alike sim) fun _ => .bind (awaitScan_alike sim _ _) fun _ =>
    .bind (request_alike sim _ _) fun _ => .ofOutcome _

theorem capture_alike (mine : Option Nat) (fuel : Nat) (calib : Calibration) (cfg : SensorConfig)
    (mode : CaptureMode) (fingerTimeout : Nat) :
    Alike p R (capture w mine fuel calib cfg mode fingerTimeout)
      (capture v mine fuel calib cfg mode fingerTimeout) :=
  .bind (.ofOutcome _) fun _ => .bind (.attempt (scan_alike sim _ _ _ _)) fun _ =>
    .bind (.ignore (cmd_alike sim _)) fun _ => .lift _

theorem glow_alike (out : Bytes) (c : String) :
    Alike p R (Act.ignore (Usb.exchange w out c)) (Act.ignore (Usb.exchange v out c)) :=
  .ignore (exchange_alike sim _ _)

theorem matchFinger_alike (fuel : Nat) : Alike p R (matchFinger w fuel) (matchFinger v fuel) :=
  .bind (.attempt (.bind (exchange_alike sim _ _) fun _ => .bind (now_alike sim) fun _ =>
    .bind (waitInt_alike sim _ _) fun _ => .bind (.bailIf _ _) fun _ =>
    .bind (request_alike sim _ _) fun _ => .ofOutcome _)) fun _ =>
    .bind (.ignore (cmd_alike sim _)) fun _ => .lift _

end Capture

section Device
open Device

variable (passwd : Except String Text) (username : Text)

theorem listEnrolledFingers_alike :
    Alike p R (listEnrolledFingers w passwd username) (listEnrolledFingers v passwd username) :=
  .bind (.lift _) fun _ => .bind (listUsers_alike sim) fun _ => .ret _

theorem deleteEnrolledFingers_alike :
    Alike p R (deleteEnrolledFingers w passwd username)
      (deleteEnrolledFingers v passwd username) :=
  .bind (.lift _) fun _ => deleteFingers_alike sim _ _

theorem judge_alike (fuel : Nat) (sid : SidIdentity)
    (captured : Except String Capture.CaptureResult) :
    Alike p R (judge w fuel sid captured) (judge v fuel sid captured) := by
  cases captured with
  | error e => exact .ret _
  | ok c =>
    refine .bind (.attempt (matchFinger_alike sim fuel)) fun found => ?_
    cases found with
    | error e => exact .ret _
    | ok m =>
      refine .bind (.attempt (getUser_alike sim _)) fun owner => ?_
      cases owner with
      | error e => exact .ret _
      | ok u => exact .ite (.ret _) (.ret _)

theorem verify_alike (mine : Option Nat) (fuel : Nat) (calib : Calibration) (cfg : SensorConfig)
    (timeout : Nat) :
    Alike p R (verify w passwd username mine fuel calib cfg timeout)
      (verify v passwd username mine fuel calib cfg timeout) :=
  .bind (.lift _) fun _ => .bind (glow_alike sim _ _) fun _ =>
    .bind (.attempt (capture_alike sim _ _ _ _ _ _)) fun _ =>
    .bind (judge_alike sim _ _ _) fun _ => .bind (glow_alike sim _ _) fun _ => .ret _

end Device

section Enroll
open Enroll

theorem enrollmentUpdate_alike (blob : WriteEnable) (prev : Bytes) :
    Alike p R (enrollmentUpdate w blob prev) (enrollmentUpdate v blob prev) :=
  commitAfter_alike sim blob (.bind (request_alike sim _ _) fun _ => sliceFrom_alike _ _)

theorem appendNewImage_alike (fuel : Nat) (blob : WriteEnable) (prev : Bytes) :
    Alike p R (appendNewImage w fuel blob prev) (appendNewImage v fuel blob prev) :=
  .bind (enrollmentUpdate_alike sim _ _) fun _ => .bind (now_alike sim) fun _ =>
    .bind (waitInt_alike sim _ _) fun _ => .bind (enrollmentUpdate_alike sim _ _) fun _ =>
    .ofOutcome _

theorem enrollmentUpdateStart_alike (fuel : Nat) (key : UInt32) :
    Alike p R (enrollmentUpdateStart w fuel key) (enrollmentUpdateStart v fuel key) :=
  .bind (request_alike sim _ _) fun _ => .bind (.bailIf _ _) fun _ => .bind (.ofOutcome _) fun _ =>
    .bind (now_alike sim) fun _ => .bind (waitInt_alike sim _ _) fun _ => .ret _

theorem round_alike (fuel : Nat) (r : Request) (key : UInt32) (template : Bytes) :
    Alike p R (Enroll.round w fuel r key template) (Enroll.round v fuel r key template) := by
  refine .bind (.attempt (capture_alike sim _ _ _ _ _ _)) fun captured => ?_
  cases captured with
  | error e => exact .ret _
  | ok c =>
    refine .bind (.attempt (enrollmentUpdateStart_alike sim _ _)) fun started => ?_
    cases started with
    | error e => exact .ret _
    | ok key => exact .bind (.attempt (appendNewImage_alike sim _ _ _)) fun _ => .ret _

theorem settle_alike (r : Request) (progress : Progress)
    (result : UInt32 × Except String Records) :
    Alike p R (settle w r progress result) (settle v r progress result) := by
  obtain ⟨key, records⟩ := result
  cases records with
  | ok records => exact .bind (.ask sim _) fun _ => .ite (.ret _) (.ret _)
  | error e =>
    exact .bind (stopped_alike sim _) fun _ => .ite
      (.bind (glow_alike sim _ _) fun _ => .fail _) (.bind (.ask sim _) fun _ => .ret _)

theorem enrollStep_alike (fuel : Nat) (r : Request) (progress : Progress) :
    Alike p R (enrollStep w fuel r progress) (enrollStep v fuel r progress) :=
  .ite (.bind (glow_alike sim _ _) fun _ => .bind (round_alike sim _ _ _ _) fun _ =>
    .bind (glow_alike sim _ _) fun _ => settle_alike sim _ _ _) (.ret _)

theorem findOrCreateUser_alike (r : Request) :
    Alike p R (findOrCreateUser w r) (findOrCreateUser v r) := by
  refine .bind (lookupUser_alike sim _) fun user => ?_
  cases user with
  | some u => exact .ret _
  | none => exact newUser_alike sim _ _

theorem store_alike (fuel : Nat) (r : Request) (progress : Progress) :
    Alike p R (store w fuel r progress) (store v fuel r progress) :=
  .bind (glow_alike sim _ _) fun _ => .bind (deleteFingers_alike sim _ _) fun _ =>
    .bind (findOrCreateUser_alike sim _) fun _ => .bind (newFinger_alike sim _ _ _) fun _ =>
    .bind (now_alike sim) fun _ => .bind (.ignore (waitInt_alike sim _ _)) fun _ => .ret _

theorem enroll_alike (fuel : Nat) (r : Request) :
    Alike p R (enroll w fuel r) (enroll v fuel r) :=
  .bind (exchange_alike sim _ _) fun _ => .bind (.loop (enrollStep_alike sim _ _) _ _) fun _ =>
    .bind (glow_alike sim _ _) fun _ => .bind (.bailIf _ _) fun _ => store_alike sim _ _ _

end Enroll

section Calibration
open Baseline

theorem blankFrame_alike (cfg : SensorConfig) (calib : Calibration) (c : String) :
    Alike p R (Calibration.blankFrame w cfg calib c) (Calibration.blankFrame v cfg calib c) :=
  .bind (.ofOutcome _) fun _ => .bind (exchange_alike sim _ _) fun _ => .bind (.ask sim _) fun _ =>
    .bind (.lift _) fun _ => .ofOutcome _

theorem calibrate_alike (cfg : SensorConfig) (iterations : UInt32) (calib : Calibration) :
    Alike p R (Calibration.calibrate w cfg iterations calib)
      (Calibration.calibrate v cfg iterations calib) := by
  unfold Calibration.calibrate
  generalize iterations.toNat = n
  generalize (0 : Nat) = i
  induction n generalizing i calib with
  | zero => exact .ret _
  | succ n ih =>
    exact .bind (blankFrame_alike sim _ _ _) fun _ => .bind (.ofOutcome _) fun _ => ih _ _

variable (C : Crypto.Primitives)

theorem readStored_alike : Alike p R (readStored w) (readStored v) :=
  .bind (readFlash_alike sim _ _ _) fun _ => .ite (.ret _) (.bind (.ofOutcome _) fun _ =>
    .ite (.ret _) (.bind (.ofOutcome _) fun _ => .bind (readFlashAll_alike sim _ _ _) fun _ =>
      .ret _))

theorem checkCleanSlate_alike : Alike p R (checkCleanSlate C w) (checkCleanSlate C v) :=
  .bind (readFlash_alike sim _ _ _) fun _ => .ite (.ret _) (.bind (.ofOutcome _) fun _ =>
    .bind (.ofOutcome _) fun _ => .ite (.ret _) (.ite (.ret _)
      (.bind (readFlashAll_alike sim _ _ _) fun _ => .ret _)))

theorem checkEncoder_alike (write : Bool) (stored : Option Bytes) :
    Alike p R (checkEncoder C w write stored) (checkEncoder C v write stored) := by
  cases stored with
  | none => exact .ret _
  | some b =>
    refine .bind (.bind (readStored_alike sim) fun stored => ?_) fun _ => .bailIf _ _
    cases stored with
    | none => exact .fail _
    | some stored => exact .ret _

theorem reboot_alike : Alike p R (Provision.reboot w) (Provision.reboot v) :=
  .ignore (cmd_alike sim _)

theorem candidateFor_alike (cfg : SensorConfig) (iterations : UInt32) (write force : Bool) :
    Alike p R (candidateFor C w cfg iterations write force)
      (candidateFor C v cfg iterations write force) :=
  .bind (readStored_alike sim) fun _ => .bind (checkCleanSlate_alike sim C) fun _ =>
    .bind (checkEncoder_alike sim C _ _) fun _ => .ite (.bind (reboot_alike sim) fun _ => .ret _)
      (.bind (calibrate_alike sim _ _ _) fun _ => .bind (.bind (blankFrame_alike sim _ _ _)
        fun _ => .ret _) fun _ => .ret _)

theorem persist_alike (blob : WriteEnable) (candidate : Bytes) :
    Alike p R (persist w blob candidate) (persist v blob candidate) := by
  refine .bind (.bind (readFlash_alike sim _ _ _) fun _ => .ite (.ret _) (.ite (.ret _) (.ret _)))
    fun state => ?_
  cases state with
  | matched => exact .ret _
  | blank => exact .bind (writeFlashAll_alike sim _ _ _ _) fun _ => .ret _
  | differs =>
    exact .bind (eraseFlash_alike sim _ _) fun _ => .bind (writeFlashAll_alike sim _ _ _ _)
      fun _ => .ret _

theorem baselineTool_alike (blob : WriteEnable) (cfg : SensorConfig) (iterations : UInt32)
    (write force : Bool) :
    Alike p R (baselineTool C w blob cfg iterations write force)
      (baselineTool C v blob cfg iterations write force) := by
  refine .bind (candidateFor_alike sim C _ _ _ _) fun candidate => ?_
  cases candidate with
  | none => exact .ret _
  | some candidate =>
    exact .bind (persist_alike sim _ _) fun _ => .ite (.bind (checkCleanSlate_alike sim C) fun _ =>
      .bind (.bailIf _ _) fun _ => reboot_alike sim) (reboot_alike sim)

end Calibration

section Firmware
open Firmware

variable (devices : List Sensor.DeviceInfo)

theorem getFwInfo_alike (partition : UInt8) :
    Alike p R (getFwInfo w partition) (getFwInfo v partition) :=
  .bind (cmd_alike sim _) fun _ => .ite (.ret _) (.bind (.mapErr _ (check_alike _)) fun _ =>
    .bind (sliceFrom_alike _ _) fun _ => .bind (.ofOutcome _) fun _ => .ret _)

theorem identifySensor_alike :
    Alike p R (Sensor.identifySensor w devices) (Sensor.identifySensor v devices) :=
  .bind (request_alike sim _ _) fun _ => .bind (.ofOutcome _) fun _ => .ofOutcome _

theorem prepare_alike : Alike p R (prepare w devices) (prepare v devices) :=
  .bind (exchange_alike sim _ _) fun _ => .bind (.bind (request_alike sim _ _) fun _ =>
    .bind (.bailIf _ _) fun _ => .ofOutcome _) fun _ => .bind (.bailIf _ _) fun _ =>
    .ignore (identifySensor_alike sim devices)

theorem install_alike (blob : WriteEnable) (payload signature : Bytes) :
    Alike p R (install w blob payload signature) (install v blob payload signature) :=
  .bind (writeFlashAll_alike sim _ _ _ _) fun _ => .bind (exchange_alike sim _ _) fun _ =>
    .bind (getFwInfo_alike sim _) fun _ => .bind (.ofOutcome _) fun _ => reboot_alike sim

theorem upload_alike (blob : WriteEnable) (fwext : Bytes) :
    Alike p R (upload w devices blob fwext) (upload v devices blob fwext) := by
  refine .bind (getFwInfo_alike sim _) fun fw => ?_
  cases fw with
  | some fw => exact .ret _
  | none =>
    exact .bind (.lift _) fun _ => .bind (prepare_alike sim devices) fun _ =>
      .bind (install_alike sim _ _ _) fun _ => .ret _

end Firmware

section Probe
open Sensor

variable (devices : List DeviceInfo)

theorem romInfo_alike : Alike p R (romInfo w) (romInfo v) :=
  .bind (request_alike sim _ _) fun _ => .bind (.ofOutcome _) fun _ => .ofOutcome _

theorem getFactoryBits_alike (tag : UInt16) :
    Alike p R (getFactoryBits w tag) (getFactoryBits v tag) :=
  .bind (request_alike sim _ _) fun _ => .bind (.ofOutcome _) fun _ => .ofOutcome _

theorem probe_alike : Alike p R (probe w devices) (probe v devices) :=
  .bind (identifySensor_alike sim devices) fun _ => .bind (.ofOutcome _) fun _ =>
    .bind (.ofOutcome _) fun _ => .bind (romInfo_alike sim) fun _ => .bind (.bailIf _ _) fun _ =>
    .bind (.ofOutcome _) fun _ => .bind (.ofOutcome _) fun _ =>
    .bind (getFactoryBits_alike sim _) fun _ => .bind (.ofOutcome _) fun _ => .ret _

end Probe

end ValidityFprintd.Likeness
