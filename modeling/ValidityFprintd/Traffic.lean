import ValidityFprintd.Enroll

/-! What each part of an enrolment keeps, for any relation that its queries keep and that
composes: the commands that start a capture (`0x02`), create a record (`0x47`) or delete
one (`0x48`) and the looks at the stop flag are named where they can happen, and nowhere
else. -/

namespace ValidityFprintd.Traffic
open Effect World Capture Enroll

variable {S : Type} {R : S → List (Usb.Entry S) → S → Prop} [Composes R] {w : Usb.World S}

/-- One query of a kind keeps the relation. -/
abbrev Asking (w : Usb.World S) (R : S → List (Usb.Entry S) → S → Prop) (q : Usb.Query) : Prop :=
  Respects R (w.ask q : Usb.Drv S (Usb.Query.Answer q))

/-- The queries of a wait keep the relation. -/
structure Idle (w : Usb.World S) (R : S → List (Usb.Entry S) → S → Prop) : Prop where
  pollInterrupt : Asking w R .pollInterrupt
  now : Asking w R .now

/-- Every query but the ones singled out keeps the relation. -/
structure Everyday (w : Usb.World S) (R : S → List (Usb.Entry S) → S → Prop) : Prop where
  pollInterrupt : Asking w R .pollInterrupt
  now : Asking w R .now
  onStage : ∀ stage err, Asking w R (.onStage stage err)
  cmd : ∀ c rest, c ≠ 0x02 → c ≠ 0x47 → c ≠ 0x48 → Asking w R (.cmd (c :: rest))

omit [Composes R] in
theorem Everyday.idle (hp : Everyday w R) : Idle w R := ⟨hp.pollInterrupt, hp.now⟩

omit [Composes R] in
theorem Everyday.status (hp : Everyday w R) : Asking w R (.cmd [0x51, 0x00, 0x20, 0x00, 0x00]) :=
  hp.cmd _ _ (by decide) (by decide) (by decide)

theorem everyday_steps (w : Usb.World S) : Everyday w w.Steps :=
  ⟨ask_steps w _, ask_steps w _, fun _ _ => ask_steps w _,
    fun _ _ _ _ _ => ask_steps w _⟩

theorem everyday_asks (w : Usb.World S) {p : Usb.Query → Prop} (pollInterrupt : p .pollInterrupt)
    (now : p .now) (onStage : ∀ stage err, p (.onStage stage err))
    (cmd : ∀ c rest, c ≠ 0x02 → c ≠ 0x47 → c ≠ 0x48 → p (.cmd (c :: rest))) :
    Everyday w fun _ l _ => ∀ e ∈ l, p e.query :=
  ⟨ask_asks w pollInterrupt, ask_asks w now, fun _ _ => ask_asks w (onStage _ _),
    fun _ _ h02 h47 h48 => ask_asks w (cmd _ _ h02 h47 h48)⟩

theorem ask_unchanged {V : Type} {view : S → V}
    (keeps : ∀ q s, Db.Changes q = false → view (w q s).2 = view s) {q : Usb.Query}
    (hq : Db.Changes q = false) : Asking w (fun s _ t => view t = view s) q :=
  fun s => keeps q s hq

theorem everyday_unchanged {V : Type} {view : S → V}
    (keeps : ∀ q s, Db.Changes q = false → view (w q s).2 = view s) :
    Everyday w fun s _ t => view t = view s := by
  refine ⟨ask_unchanged keeps rfl, ask_unchanged keeps rfl, fun _ _ => ask_unchanged keeps rfl, ?_⟩
  intro c rest _ h47 h48
  exact ask_unchanged keeps (by simp [Db.Changes, h47, h48])

section Commands

theorem cmd_respects {out : Bytes} (h : Asking w R (.cmd out)) : Respects R (Usb.cmd w out) :=
  .bind h fun rsp => .lift rsp

theorem request_respects {out : Bytes} (h : Asking w R (.cmd out)) (c : String) :
    Respects R (Usb.request w out c) :=
  .bind (cmd_respects h) fun _ => .bind (.mapErr _ (.lift _)) fun _ => .ret _

theorem exchange_respects {out : Bytes} (h : Asking w R (.cmd out)) (c : String) :
    Respects R (Usb.exchange w out c) :=
  .bind (request_respects h c) fun _ => .ret ()

end Commands

section Waits

variable (hw : Idle w R)

include hw

theorem pollInterrupt_respects : Respects R (Usb.pollInterrupt w) :=
  .bind hw.pollInterrupt fun b => .lift b

theorem waitInt_respects (fuel deadline : Nat) : Respects R (waitInt w fuel deadline) := by
  refine .loop (fun _ => .bind (pollInterrupt_respects hw) fun b => ?_) fuel ()
  cases b with
  | some b => exact .ret _
  | none => exact .bind hw.now fun t => .bind (.bailIf _ _) fun _ => .ret _

theorem awaitScan_respects (fuel deadline : Nat) : Respects R (awaitScan w fuel deadline) := by
  refine .loop (fun _ => ?_) fuel ()
  refine .bind (waitInt_respects hw fuel deadline) fun b => .bind (.bailIf _ _) fun _ => ?_
  cases b[2]? with
  | some v => exact .ite (.ret _) (.ret _)
  | none => exact .ret _

theorem pollFinger_respects (deadline : Nat) : Respects R (pollFinger w deadline) := by
  refine .bind (pollInterrupt_respects hw) fun b => ?_
  cases b with
  | some b => exact .ite (.ret _) (.ret _)
  | none => exact .bind hw.now fun t => .bind (.bailIf _ _) fun _ => .ret _

end Waits

section Capture

theorem stopped_respects (hc : Asking w R .current) (mine : Option Nat) :
    Respects R (stopped w mine) := by
  cases mine with
  | none => exact .ret _
  | some op => exact .bind hc fun _ => .ret _

theorem awaitFinger_respects (hw : Idle w R) (hc : Asking w R .current) (mine : Option Nat)
    (fuel deadline : Nat) : Respects R (awaitFinger w mine fuel deadline) :=
  .loop (fun _ => .bind (stopped_respects hc mine) fun _ => .bind (.bailIf _ _) fun _ =>
    pollFinger_respects hw deadline) fuel ()

variable (hs : Asking w R (.cmd [0x51, 0x00, 0x20, 0x00, 0x00]))

include hs

theorem captureStatus_respects : Respects R (captureStatus w) :=
  .bind (request_respects hs _) fun _ => .ofOutcome _

theorem scanned_respects (hw : Idle w R) (fuel : Nat) (touched : Nat) :
    Respects R (awaitScan w fuel (touched + 15000) >>= fun _ => captureStatus w) :=
  .bind (awaitScan_respects hw fuel _) fun _ => captureStatus_respects hs

theorem scan_respects (hw : Idle w R) (hc : Asking w R .current) {cmd : Bytes}
    (h : Asking w R (.cmd cmd)) (mine : Option Nat) (fuel fingerTimeout : Nat) :
    Respects R (scan w mine fuel cmd fingerTimeout) := by
  refine .bind (exchange_respects h _) fun _ => .bind hw.now fun start => ?_
  refine .bind (waitInt_respects hw fuel _) fun b => .bind (.bailIf _ _) fun _ => ?_
  refine .bind hw.now fun armed => ?_
  refine .bind (awaitFinger_respects hw hc mine fuel _) fun _ => ?_
  exact .bind hw.now fun touched => scanned_respects hs hw fuel touched

end Capture

section Captures

variable (hp : Everyday w R)

include hp

theorem glowStartScan_respects : Respects R (glowStartScan w) :=
  exchange_respects (hp.cmd _ _ (by decide) (by decide) (by decide)) _

theorem glowEndScan_respects : Respects R (glowEndScan w) :=
  exchange_respects (hp.cmd _ _ (by decide) (by decide) (by decide)) _

variable (hc : Asking w R .current)

include hc

theorem capture_respects (h : ∀ rest, Asking w R (.cmd (0x02 :: rest))) (mine : Option Nat)
    (fuel : Nat) (calib : Calibration) (cfg : SensorConfig) (mode : CaptureMode)
    (fingerTimeout : Nat) :
    Respects R (capture w mine fuel calib cfg mode fingerTimeout) := by
  intro s
  have step : capture w mine fuel calib cfg mode fingerTimeout s =
      (Act.ofOutcome (calib.buildCmd02 mode cfg) >>= fun cmd =>
        Act.attempt (scan w mine fuel cmd fingerTimeout) >>= fun result =>
          Act.ignore (Usb.cmd w [0x04]) >>= fun _ => Act.lift result) s := rfl
  rw [step, Act.ofOutcome_bind]
  cases built : calib.buildCmd02 mode cfg with
  | ok cmd =>
    obtain ⟨rest, rfl⟩ := Calibration.buildCmd02_head built
    have stop : Asking w R (.cmd [0x04]) := hp.cmd _ _ (by decide) (by decide) (by decide)
    have run : Respects R (Act.attempt (scan w mine fuel (0x02 :: rest) fingerTimeout) >>=
        fun result => Act.ignore (Usb.cmd w [0x04]) >>= fun _ => Act.lift result) :=
      .bind (.attempt (scan_respects hp.status hp.idle hc (h rest) mine fuel fingerTimeout))
        fun result => .bind (.ignore (cmd_respects stop)) fun _ => .lift result
    exact run s
  | err e => exact Composes.nil s
  | panic => exact Composes.nil s
  | stuck => exact Composes.nil s

end Captures

section Writes

variable (hp : Everyday w R)

include hp

theorem writeEnable_respects (blob : WriteEnable) : Respects R (Flash.writeEnable w blob) := by
  refine exchange_respects ?_ _
  match h : blob.val, blob.property with
  | c :: rest, hc =>
    obtain rfl : c = 0x06 := by simpa using hc
    exact hp.cmd _ _ (by decide) (by decide) (by decide)

theorem closing_respects {α : Type} (result : Except String α) :
    Respects R (Flash.closing w result) := by
  have commit : Respects R (Flash.callCleanups w) := by
    refine .bind (cmd_respects (hp.cmd _ _ (by decide) (by decide) (by decide))) fun rsp => ?_
    exact .ite (.ret _) (.mapErr _ (.lift _))
  exact .bind (.attempt commit) fun cleanup => .bind (.lift _) fun a =>
    .bind (.lift _) fun _ => .ret a

theorem commitAfter_respects {α : Type} (blob : WriteEnable) {write : Usb.Drv S α}
    (hw : Respects R write) : Respects R (Flash.commitAfter w blob write) :=
  .bind (writeEnable_respects hp blob) fun _ => .bind (.attempt hw) fun result =>
    closing_respects hp result

theorem getUserStorage_respects (name : Bytes) : Respects R (Db.getUserStorage w name) := by
  refine .bind (cmd_respects (hp.cmd _ _ (by decide) (by decide) (by decide))) fun rsp => ?_
  exact .ite (.ret _) (.bind (.lift _) fun _ => .bind (.ofOutcome _) fun _ => .ret _)

theorem lookupUser_respects (identity : SidIdentity) : Respects R (Db.lookupUser w identity) := by
  refine .bind (getUserStorage_respects hp _) fun storage => ?_
  cases storage with
  | none => exact .ret _
  | some storage =>
    refine .bind (cmd_respects (hp.cmd _ _ (by decide) (by decide) (by decide))) fun rsp => ?_
    exact .ite (.ret _) (.bind (.lift _) fun _ => .bind (.ofOutcome _) fun _ => .ret _)

theorem deleteFingers_respects (h48 : ∀ rest, Asking w R (.cmd (0x48 :: rest)))
    (identity : SidIdentity) (doomed : Db.FingerRef → Bool) :
    Respects R (Db.deleteFingers w identity doomed) := by
  have records : ∀ dbids, Respects R (Db.delRecords w dbids) := by
    intro dbids
    induction dbids with
    | nil => exact .ret _
    | cons dbid dbids ih => exact .bind (exchange_respects (h48 _) _) fun _ => ih
  refine .bind (lookupUser_respects hp identity) fun user => ?_
  cases user with
  | none => exact .ret _
  | some user => exact .bind (records _) fun _ => .ret _

variable (h47 : ∀ rest, Asking w R (.cmd (0x47 :: rest)))

include h47

theorem newRecord_respects (blob : WriteEnable) (parent kind storage : UInt16) (data : Bytes) :
    Respects R (Db.newRecord w blob parent kind storage data) := by
  have info : Respects R (Db.dbInfo w) :=
    .bind (cmd_respects (hp.cmd _ _ (by decide) (by decide) (by decide))) fun rsp =>
      .bind (.lift _) fun _ => .ofOutcome _
  have create : Respects R (Db.createRecord w parent kind storage data) :=
    .bind (request_respects (h47 _) _) fun rsp => .bind (.bailIf _ _) fun _ => .ofOutcome _
  exact .bind info fun _ => commitAfter_respects hp blob create

theorem ensureUserStorage_respects (blob : WriteEnable) :
    Respects R (Db.ensureUserStorage w blob) := by
  refine .bind (getUserStorage_respects hp _) fun storage => ?_
  cases storage with
  | some storage => exact .ret _
  | none =>
    refine .bind (newRecord_respects hp h47 blob _ _ _ _) fun _ => ?_
    refine .bind (getUserStorage_respects hp _) fun storage => ?_
    cases storage with
    | some storage => exact .ret _
    | none => exact .fail _

theorem newUser_respects (blob : WriteEnable) (identity : SidIdentity) :
    Respects R (Db.newUser w blob identity) :=
  .bind (ensureUserStorage_respects hp h47 blob) fun _ => newRecord_respects hp h47 blob _ _ _ _

theorem newFinger_respects (blob : WriteEnable) (userDbid : UInt16) (template : Bytes) :
    Respects R (Db.newFinger w blob userDbid template) :=
  .bind (ensureUserStorage_respects hp h47 blob) fun _ => newRecord_respects hp h47 blob _ _ _ _

end Writes

section Enrolment

variable (hp : Everyday w R)

include hp

theorem createEnrollment_respects : Respects R (createEnrollment w) :=
  exchange_respects (hp.cmd _ _ (by decide) (by decide) (by decide)) _

theorem enrollmentUpdateEnd_respects : Respects R (enrollmentUpdateEnd w) :=
  exchange_respects (hp.cmd _ _ (by decide) (by decide) (by decide)) _

theorem enrollmentUpdateStart_respects (fuel : Nat) (key : UInt32) :
    Respects R (enrollmentUpdateStart w fuel key) := by
  refine .bind (request_respects (hp.cmd _ _ (by decide) (by decide) (by decide)) _) fun rsp => ?_
  refine .bind (.bailIf _ _) fun _ => .bind (.ofOutcome _) fun newKey => ?_
  exact .bind hp.now fun start => .bind (waitInt_respects hp.idle fuel _) fun _ => .ret _

theorem enrollmentUpdate_respects (blob : WriteEnable) (prev : Bytes) :
    Respects R (enrollmentUpdate w blob prev) := by
  have feed : Respects R (feedTemplate w prev) := by
    refine .bind (request_respects (hp.cmd _ _ (by decide) (by decide) (by decide)) _) fun rsp => ?_
    unfold Bytes.sliceFrom
    split
    · exact .ret _
    · exact .crash
  exact commitAfter_respects hp blob feed

theorem appendNewImage_respects (fuel : Nat) (blob : WriteEnable) (prev : Bytes) :
    Respects R (appendNewImage w fuel blob prev) := by
  refine .bind (enrollmentUpdate_respects hp blob prev) fun _ => .bind hp.now fun _ => ?_
  refine .bind (waitInt_respects hp.idle fuel _) fun _ => ?_
  exact .bind (enrollmentUpdate_respects hp blob prev) fun _ => .ofOutcome _

theorem updates_respects (fuel : Nat) (r : Request) (key : UInt32) (template : Bytes) :
    Respects R (updates w fuel r key template) := by
  refine .bind (.attempt (enrollmentUpdateStart_respects hp fuel key)) fun started => ?_
  cases started with
  | error e => exact .ret _
  | ok key => exact .bind (.attempt (appendNewImage_respects hp fuel _ _)) fun _ => .ret _

theorem store_respects (h47 : ∀ rest, Asking w R (.cmd (0x47 :: rest)))
    (h48 : ∀ rest, Asking w R (.cmd (0x48 :: rest)))
    (fuel : Nat) (r : Request) (progress : Progress) : Respects R (store w fuel r progress) := by
  refine .bind (.ignore (enrollmentUpdateEnd_respects hp)) fun _ => ?_
  refine .bind (deleteFingers_respects hp h48 _ _) fun _ => ?_
  have user : Respects R (findOrCreateUser w r) := by
    refine .bind (lookupUser_respects hp _) fun user => ?_
    cases user with
    | some u => exact .ret _
    | none => exact newUser_respects hp h47 _ _
  refine .bind user fun _ => .bind (newFinger_respects hp h47 _ _ _) fun recid => ?_
  refine .bind hp.now fun start => ?_
  exact .bind (.ignore (waitInt_respects hp.idle fuel _)) fun _ => .ret _

variable (hc : Asking w R .current) (h02 : ∀ rest, Asking w R (.cmd (0x02 :: rest)))

include hc h02

theorem round_respects (fuel : Nat) (r : Request) (key : UInt32) (template : Bytes) :
    Respects R (round w fuel r key template) := by
  refine .bind (.attempt (capture_respects hp hc h02 _ _ _ _ _ _)) fun captured => ?_
  cases captured with
  | error e => exact .ret _
  | ok _ => exact updates_respects hp fuel r key template

omit h02 in
theorem settle_respects (r : Request) (progress : Progress)
    (result : UInt32 × Except String Records) : Respects R (settle w r progress result) := by
  rcases result with ⟨key, e | records⟩
  · refine .bind (stopped_respects hc _) fun _ => .ite ?_ ?_
    · exact .bind (.ignore (glowEndScan_respects hp)) fun _ => .fail _
    · exact .bind (hp.onStage _ _) fun _ => .ret _
  · exact .bind (hp.onStage _ _) fun _ => .ite (.ret _) (.ret _)

theorem rounds_respects (fuel : Nat) (r : Request) : Respects R (rounds w fuel r) := by
  refine .loop (fun progress => .ite ?_ (.ret _)) fuel _
  refine .bind (.ignore (glowStartScan_respects hp)) fun _ => ?_
  refine .bind (round_respects hp hc h02 fuel r _ _) fun result => ?_
  refine .bind (.ignore (enrollmentUpdateEnd_respects hp)) fun _ => ?_
  exact settle_respects hp hc r progress result

theorem enroll_respects (h47 : ∀ rest, Asking w R (.cmd (0x47 :: rest)))
    (h48 : ∀ rest, Asking w R (.cmd (0x48 :: rest))) (fuel : Nat) (r : Request) :
    Respects R (enroll w fuel r) := by
  refine .bind (createEnrollment_respects hp) fun _ => ?_
  refine .bind (rounds_respects hp hc h02 fuel r) fun progress => ?_
  refine .bind (.ignore (glowEndScan_respects hp)) fun _ => .bind (.bailIf _ _) fun _ => ?_
  exact store_respects hp h47 h48 fuel r progress

end Enrolment

end ValidityFprintd.Traffic
