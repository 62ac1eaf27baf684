import ValidityFprintd.Regions

/-! Which program of the package writes what: the reports nothing, and the others only what they
are for, behind their flag and the line that was typed. -/

namespace ValidityFprintd

def Likeness.Job.Writes : Likeness.Job → Regions.Region → Prop
  | .enroll .., r => r = .database
  | .delete .., r => r = .database
  | .baseline _ _ _ write _, r => write = true ∧ r = .partition Baseline.partitionCalibration
  | .firmware .., r => r = .registers ∨ r = .partition Firmware.partitionFirmware
  | _, _ => False

/-- Where a program writes, as it was told. A reset goes before a provisioning. -/
def Tools.Program.Writes : Tools.Program → Regions.Region → Prop
  | .validityBaseline _ write _, r =>
    write = true ∧ r = .partition Baseline.partitionCalibration
  | .validityFirmware _ doUpload .., r =>
    doUpload = true ∧ (r = .registers ∨ r = .partition Firmware.partitionFirmware)
  | .validityProvision _ true line, r =>
    Tools.confirm line "RESET MY FINGERPRINT SENSOR" = .ok true ∧ r = .whole
  | .validityProvision doInit false line, r =>
    doInit = true ∧ Tools.confirm line "PROVISION" = .ok true ∧
      (r = .whole ∨ ∃ p ∈ Provision.partitionsToErase, r = .partition p)
  | .validityFprintd _ jobs, r => ∃ handle, ∃ job ∈ jobs handle, job.Writes r
  | _, _ => False

namespace Regions
open Effect World Traffic Crypto Tls Tools
open Provision (Sent probe withSession inSession)

section Jobs

variable {S : Type} {w : Usb.World S} {R : S → List (Usb.Entry S) → S → Prop} [Composes R]
  {may : Region → Prop} (hp : Permits w R may) (C : Primitives)

include hp

theorem job_permitted (job : Likeness.Job) (allowed : ∀ r, job.Writes r → may r) :
    Respects R (job.run C w) := by
  cases job with
  | probe devices => exact .bind (probe_permitted hp _) fun _ => .ret _
  | calibrate cfg iterations => exact .bind (calibrate_permitted hp _ _ _) fun _ => .ret _
  | list passwd username => exact .bind (listEnrolledFingers_permitted hp _ _) fun _ => .ret _
  | verify passwd username mine fuel calib cfg timeout =>
    exact .bind (verify_permitted hp _ _ _ _ _ _ _) fun _ => .ret _
  | enroll passwd username mine fuel handle finger timeout =>
    exact .bind (deviceEnroll_permitted hp _ _ (allowed _ rfl) _ _ _ _ _) fun _ => .ret _
  | delete passwd username =>
    exact .bind (.bind (.lift _) fun _ => deleteFingers_permitted hp (allowed _ rfl) _ _) fun _ =>
      .ret _
  | baseline blob cfg iterations write force =>
    exact .bind (baselineTool_permitted hp C _ _ _ _ fun on => allowed _ ⟨on, rfl⟩) fun _ => .ret _
  | firmware devices blob fwext =>
    exact .bind (upload_permitted hp _ _ _ (allowed _ (.inl rfl)) (allowed _ (.inr rfl))) fun _ =>
      .ret _
  | shutdown => exact .bind (reboot_permitted hp) fun _ => .ret _

theorem work_permitted (jobs : List Likeness.Job)
    (allowed : ∀ job ∈ jobs, ∀ r, job.Writes r → may r) :
    Respects R (Likeness.work C w jobs) := by
  induction jobs with
  | nil => exact .ret _
  | cons job jobs ih =>
    refine .bind (.attempt (job_permitted hp C job (allowed job List.mem_cons_self))) fun _ => ?_
    exact .bind (ih fun job mem => allowed job (List.mem_cons_of_mem _ mem)) fun _ => .ret _

end Jobs

section Handshake

variable {S : Type} {w : Usb.World S} {C : Primitives} {may : Region → Prop}

theorem helloPacket_head {E : Type} {s t : Tls} {pkt : Bytes}
    (run : Yields (helloPacket C : Act String E Tls Bytes) s pkt t) :
    ∃ rest, pkt = 0x44 :: rest := by
  obtain ⟨_, _, _, run⟩ := Yields.bind_iff.mp run
  obtain ⟨_, _, _, run⟩ := Yields.bind_iff.mp run
  obtain ⟨rec0, _, _, run⟩ := Yields.bind_iff.mp run
  exact ⟨_, (Yields.ret_iff.mp run).1.symm⟩

theorem finishPacket_head {E : Type} {s t : Tls} {pkt : Bytes}
    (run : Yields (finishPacket C : Act String E Tls Bytes) s pkt t) :
    ∃ rest, pkt = 0x44 :: rest := by
  obtain ⟨_, _, _, run⟩ := Yields.bind_iff.mp run
  obtain ⟨_, _, _, run⟩ := Yields.bind_iff.mp run
  obtain ⟨_, _, _, run⟩ := Yields.bind_iff.mp run
  obtain ⟨rec1, _, _, run⟩ := Yields.bind_iff.mp run
  obtain ⟨_, _, _, run⟩ := Yields.bind_iff.mp run
  obtain ⟨rec2, _, _, run⟩ := Yields.bind_iff.mp run
  exact ⟨_, (Yields.ret_iff.mp run).1.symm⟩

/-- A handshake writes nothing. -/
theorem openSession_within :
    Respects (fun _ l _ => ∀ e ∈ l, Within may e.query) (Tls.openSession C w) := by
  have silent : ∀ {β : Type} {x : Act String (Usb.Entry S) Tls β}, Respects Unsent x →
      Respects (fun _ l _ => ∀ e ∈ l, Within may e.query)
        (onTls x : Act String (Usb.Entry S) (Link S) β) := by
    intro β x h l e mem
    rw [show (onTls x l).log = [] from h l.tls] at mem
    cases mem
  have sends : ∀ {pkt : Bytes} (c : String), (∃ rest, pkt = 0x44 :: rest) →
      Respects (fun _ l _ => ∀ e ∈ l, Within may e.query)
        (Act.mapErr (Usb.context c) (onUsb (Usb.cmd w pkt))) := by
    rintro _ c ⟨rest, rfl⟩
    have plain : Respects (fun _ l _ => ∀ e ∈ l, Within may e.query) (Usb.cmd w (0x44 :: rest)) :=
      cmd_respects ((permits_asks w may).spares rfl)
    exact .mapErr _ fun l => plain l.env
  have parses : ∀ (c : String) (rsp : Bytes), Respects (fun _ l _ => ∀ e ∈ l, Within may e.query)
      (Act.mapErr (Usb.context c) (onTls (parseTlsResponse C rsp) :
        Act String (Usb.Entry S) (Link S) Bytes)) :=
    fun c rsp => .mapErr _ (silent (parseTlsResponse_unsent rsp))
  refine .bind_yielded (silent helloPacket_unsent) fun hello => ?_
  obtain ⟨_, hello, _⟩ := Yields.zoom_iff.mp hello
  refine .bind (sends _ (helloPacket_head hello)) fun rsp => .bind (parses _ rsp) fun _ => ?_
  refine .bind (silent makeKeys_unsent) fun _ => ?_
  refine .bind_yielded (silent finishPacket_unsent) fun finish => ?_
  obtain ⟨_, finish, _⟩ := Yields.zoom_iff.mp finish
  refine .bind (sends _ (finishPacket_head finish)) fun rsp => .bind (parses _ rsp) fun _ => ?_
  exact .bind (silent .get) fun _ => .bailIf _ _

end Handshake

section Programs

variable {S D : Type} {C : Primitives} {P : Curve} {w : Usb.World S} {start : Device.Start S}
  {may : Region → Prop} {α : Type}

/-- What was asked, on the cable or over the session. -/
def asked : Sent S → Usb.Query := Sum.elim Entry.query Entry.query

theorem probe_within {x : Usb.Drv S α} (h : Respects (fun _ l _ => ∀ e ∈ l, Within may e.query) x) :
    Respects (fun _ l _ => ∀ e ∈ l, Within may (asked e)) (probe x) := by
  intro s e mem
  obtain ⟨sent, there, rfl⟩ := List.mem_map.mp mem
  exact h s sent there

theorem inSession_within {x : Usb.Drv (Link S) α}
    (h : Respects (fun _ l _ => ∀ e ∈ l, Within may e.query) x) :
    Respects (fun _ l _ => ∀ e ∈ l, Within may (asked e)) (inSession x) := by
  intro l e mem
  obtain ⟨sent, there, rfl⟩ := List.mem_map.mp mem
  exact h l sent there

theorem withSession_within {tls : Tls} {x : Act String (Sent S) (Link S) α}
    (h : Respects (fun _ l _ => ∀ e ∈ l, Within may (asked e)) x) :
    Respects (fun _ l _ => ∀ e ∈ l, Within may (asked e)) (withSession tls x) :=
  fun s => h ⟨tls, s⟩

theorem bringUp_within {blobs : Option Init.DeviceBlobs} {vid pid : UInt16}
    {identity : Except String (String × String)} {rng : Rng} :
    Respects (fun _ l _ => ∀ e ∈ l, Within may e.query)
      (Init.openSession w C P blobs vid pid identity rng) := by
  have hp := permits_asks w may
  refine .bind (sendInit_permitted hp _ _ _) fun _ => .bind (readFlash_permitted hp _ _ _) ?_
  refine fun record => .bind (.lift _) fun material => .bind ?_ fun _ => .ret _
  exact fun s => openSession_within ⟨_, s⟩

theorem overSession_within {x : Usb.Drv (Link S) α}
    (h : Respects (fun _ l _ => ∀ e ∈ l, Within may e.query) x) :
    Respects (fun _ l _ => ∀ e ∈ l, Within may (asked e)) (overSession C P w start x) := by
  refine .bind (probe_within bringUp_within) fun opened => ?_
  obtain ⟨tls, valid⟩ := opened
  exact withSession_within (inSession_within h)

theorem storeRecord_within (blob : WriteEnable) (privBlob tlsCert ecdhBlob : Bytes)
    (allowed : ∀ p ∈ Provision.partitionsToErase, may (.partition p)) :
    Respects (fun _ l _ => ∀ e ∈ l, Within may e.query)
      (Provision.storeRecord C w blob privBlob tlsCert ecdhBlob) := by
  have hp := permits_asks (transport C w) may
  have erase : ∀ ps : List UInt8, (∀ p ∈ ps, may (.partition p)) →
      Respects (fun _ l _ => ∀ e ∈ l, Within may e.query)
        (Provision.erasePartitions (transport C w) blob ps) := by
    intro ps all
    induction ps with
    | nil => exact .ret ()
    | cons p ps ih =>
      exact .bind (.mapErr _ (eraseFlash_permitted hp _ (all p List.mem_cons_self))) fun _ =>
        ih fun p mem => all p (List.mem_cons_of_mem _ mem)
  exact .bind (erase _ allowed) fun _ => .bind (.lift _) fun _ =>
    .bind (writeFlashAll_permitted hp _ _ _ (allowed _ (by decide))) fun _ =>
    .bind (readFlash_permitted hp _ _ _) fun _ => .bind (.bailIf _ _) fun _ =>
    .bind (reboot_permitted hp) fun _ => .ret _

theorem initFlash_within (vid pid : UInt16) (blob : WriteEnable) (resetBlob : Provision.ResetBlob)
    (name serial : String) (rng : Rng) (whole : may .whole)
    (allowed : ∀ p ∈ Provision.partitionsToErase, may (.partition p)) :
    Respects (fun _ l _ => ∀ e ∈ l, Within may (asked e))
      (Provision.initFlash C w P vid pid blob resetBlob name serial rng) := by
  have hp := permits_asks w may
  refine .bind (probe_within (getFlashInfo_permitted hp)) fun info => .ite (.ret _) ?_
  refine .bind (.ofOutcome _) fun ic => ?_
  have unlocking := exchange_respects (hp.spares (touched_signed resetBlob.property))
  refine .bind (probe_within (unlocking _)) ?_
  refine fun _ => .bind (.ofOutcome _) fun pubX => .bind (.ofOutcome _) fun pubY => ?_
  refine .bind (probe_within (Provision.partitionFlash_respects fun rest =>
    hp.writes rfl whole)) fun tlsCert => ?_
  refine .bind (probe_within (Provision.readEcdhBlock_respects (hp.spares rfl))) fun ecdh => ?_
  refine .bind (.lift _) fun _ => .bind (.lift _) fun privBlob => withSession_within ?_
  refine .bind (.mapErr _ ?_) fun _ => inSession_within (storeRecord_within _ _ _ _ allowed)
  intro l e mem
  obtain ⟨sent, there, rfl⟩ := List.mem_map.mp mem
  exact openSession_within l sent there

theorem provisionAsked_within (blobs : Init.DeviceBlobs) (partitioned : Bool)
    {doInit doReset : Bool} {line : Except String String}
    (allowed : ∀ r, (Program.validityProvision doInit doReset line).Writes r → may r) :
    Respects (fun _ l _ => ∀ e ∈ l, Within may (asked e))
      (provisionAsked C P w start blobs partitioned doInit doReset line) := by
  unfold provisionAsked
  cases doReset with
  | true =>
    refine .bind_yielded (.lift _) fun {_ agreed _} confirmed => ?_
    cases agreed with
    | false => exact .ret _
    | true =>
      have typed := (Yields.lift_iff.mp confirmed).1
      exact probe_within (factoryReset_permitted (permits_asks w may) _ (allowed _ ⟨typed, rfl⟩))
  | false =>
    by_cases idle : doInit = false ∨ partitioned
    · rw [if_neg (by decide), if_pos idle]
      exact .ret _
    · rw [if_neg (by decide), if_neg idle]
      have told : doInit = true := Bool.eq_true_of_not_eq_false fun no => idle (.inl no)
      refine .bind_yielded (.lift _) fun {_ agreed _} confirmed => ?_
      cases agreed with
      | false => exact .ret _
      | true =>
        have typed := (Yields.lift_iff.mp confirmed).1
        refine .bind (.lift _) fun host => .bind (initFlash_within _ _ _ _ _ _ _ ?_ ?_) ?_
        · exact allowed _ ⟨told, typed, .inl rfl⟩
        · exact fun p mem => allowed _ ⟨told, typed, .inr ⟨p, mem, rfl⟩⟩
        · exact fun _ => .bailIf _ _

theorem validityProvision_within {doInit doReset : Bool} {line : Except String String}
    (allowed : ∀ r, (Program.validityProvision doInit doReset line).Writes r → may r) :
    Respects (fun _ l _ => ∀ e ∈ l, Within may (asked e))
      (validityProvision C P w start doInit doReset line) := by
  have hp := permits_asks w may
  refine .bind (.ofOutcome _) fun blobs => ?_
  refine .bind (probe_within (.attempt (getFlashInfo_permitted hp))) fun flash => ?_
  refine .bind (probe_within (.ignore (getFwInfo_permitted hp _))) fun _ => ?_
  have rest : ∀ partitioned, Respects (fun _ l _ => ∀ e ∈ l, Within may (asked e))
      (provisionAsked C P w start blobs partitioned doInit doReset line) :=
    fun _ => provisionAsked_within _ _ allowed
  exact .ite (.bind (probe_within (.ignore (readFlash_permitted hp _ _ _))) fun _ => rest _)
    (.bind (.ret _) fun _ => rest _)

theorem onSensor_within {E : Type} {p : E → Prop} {x : Act String E S α}
    (h : Respects (fun _ l _ => ∀ e ∈ l, p e) x) :
    Respects (fun _ l _ => ∀ e ∈ l, p e) (onSensor x : Act String E (Host S D) α) :=
  fun host => h host.env

theorem onSession_within {tls : Tls} {x : Act String (Usb.Entry (Link S)) (Host (Link S) D) α}
    (h : Respects (fun _ l _ => ∀ e ∈ l, Within may e.query) x) :
    Respects (fun _ l _ => ∀ e ∈ l, Within may (asked e)) (Device.onSession tls x) := by
  intro host e mem
  obtain ⟨sent, there, rfl⟩ := List.mem_map.mp mem
  exact h ⟨⟨tls, host.env⟩, host.disk⟩ sent there

theorem validityFprintd_within (disk : Disk D) (devices : List Sensor.DeviceInfo)
    (jobs : Device.Handle → List Likeness.Job)
    (allowed : ∀ handle, ∀ job ∈ jobs handle, ∀ r, job.Writes r → may r) :
    Respects (fun _ l _ => ∀ e ∈ l, Within may (asked e))
      (validityFprintd C P w disk start devices jobs) := by
  have hp := permits_asks (transport C w) may
  have bringing : Respects (fun _ l _ => ∀ e ∈ l, Within may (asked e))
      (Device.bringUp C P w devices start : Act String (Sent S) (Host S D) _) := by
    refine .bind (.ofOutcome _) fun blobs => ?_
    refine .bind (onSensor_within (probe_within bringUp_within)) fun opened => ?_
    exact .bind (onSession_within (onSensor_within (probe_permitted hp devices))) fun _ => .ret _
  have calibrating : ∀ cfg : Sensor.Probed, Respects (fun _ l _ => ∀ e ∈ l, Within may e.query)
      (Calibration.loadOrCalibrate disk (transport C w) cfg) := by
    intro cfg
    refine .bind .get fun host => ?_
    cases Calibration.load disk cfg.toSensorConfig host.disk with
    | some calib => exact .ret _
    | none =>
      refine .bind (onSensor_within (calibrate_permitted hp _ _ _)) fun calib => ?_
      exact .bind (.modify fun _ _ mem => nomatch mem) fun _ => .ret _
  refine .bind (.bind bringing fun up => ?_) fun opened => ?_
  · exact .bind (onSession_within (calibrating _)) fun _ => .ret _
  · refine .bind (onSession_within (onSensor_within (work_permitted hp C _ ?_))) fun _ => .ret _
    exact allowed _

/-- In every run of a program, whatever the sensor answers, each command that is sent, on the cable
or over the session, writes nowhere but where the program may. -/
theorem program_writes (disk : Disk D) (program : Program) (h : Host S D) :
    ∀ e ∈ (program.run C P w disk start h).log, Within program.Writes (asked e) := by
  suffices Respects (fun _ l _ => ∀ e ∈ l, Within program.Writes (asked e))
      (program.run C P w disk start) from this h
  have hp := permits_asks (transport C w) program.Writes
  cases program with
  | validityProbe =>
    exact onSensor_within (probe_within (validityProbe_permitted (permits_asks w _) C _))
  | validitySession => exact onSensor_within (overSession_within (validitySession_permitted hp))
  | validityDb => exact onSensor_within (overSession_within (validityDb_permitted hp))
  | validitySensor devices =>
    exact onSensor_within (overSession_within (validitySensor_permitted hp devices))
  | validityVerify devices fuel =>
    exact onSensor_within (overSession_within (validityVerify_permitted hp C devices fuel))
  | validityBaseline devices write force =>
    refine onSensor_within (.bind (.ofOutcome _) fun blobs => overSession_within ?_)
    exact .bind (probe_permitted hp devices) fun cfg =>
      baselineTool_permitted hp C _ _ _ force fun on => ⟨on, rfl⟩
  | validityFirmware devices doUpload file isFile read =>
    refine onSensor_within (.bind (.ofOutcome _) fun blobs => overSession_within ?_)
    exact firmwareTool_permitted hp devices _ file _ read (fun on => ⟨on, .inl rfl⟩)
      fun on => ⟨on, .inr rfl⟩
  | validityProvision doInit doReset line =>
    exact onSensor_within (validityProvision_within fun _ may => may)
  | validityFprintd devices jobs =>
    exact validityFprintd_within disk devices jobs fun handle job mem _ writes =>
      ⟨handle, job, mem, writes⟩

def obeying : Usb.World Unit := fun q s =>
  match q with
  | .cmd (0x3e :: _) => (.error "no such command", s)
  | .cmd _ => (.ok [0, 0], s)
  | q => Sensor.sensor71 [] q s

def resetTold : Program := .validityProvision false true (.ok "RESET MY FINGERPRINT SENSOR\n")

def resetStart : Device.Start Unit :=
  ⟨(), 0x138a, 0x0097, some Device.vendorBlobs, .error "no DMI", fun _ => 0⟩

def resetDisk : Disk Unit :=
  ⟨fun _ => .error "no file", fun d => (.ok (), d), fun _ d => (.ok (), d)⟩

def resetCommand : Bytes := 0x10 :: List.replicate 0x61 0

abbrev resetRun : Result String (Sent Unit) (Host Unit Unit) Unit :=
  resetTold.run plainPrimitives Pairing.vendorCurve obeying resetDisk resetStart ⟨(), ()⟩

theorem resetRun_asks : .cmd resetCommand ∈ resetRun.log.map asked := by
  decide +kernel

/-- The reset is sent, once the line is typed, and is what this program may write. -/
theorem reset_within :
    ∃ e ∈ resetRun.log, asked e = .cmd resetCommand ∧ Within resetTold.Writes (asked e) := by
  obtain ⟨e, sent, same⟩ := List.mem_map.mp resetRun_asks
  exact ⟨e, sent, same, program_writes _ _ _ e sent⟩

end Programs

end Regions

end ValidityFprintd
