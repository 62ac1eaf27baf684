import ValidityFprintd.CacheHistory
import ValidityFprintd.OverSession
import ValidityFprintd.PairingRecord
import ValidityFprintd.Partition
import ValidityFprintd.Traffic

/-! Bring-up, before and behind the handshake. Whatever a sensor answers, it is greeted only after
its pairing record authenticated under this machine's keys; and a sensor that holds a record this
machine made is opened, and then serves the daemon as on the bare wire. -/

namespace ValidityFprintd.Init
open Effect Crypto Pairing Provision Tls

/-- Not a packet of a handshake. -/
def Plain (q : Usb.Query) : Prop := ∀ pkt, q = .cmd pkt → handshakeCommand pkt = none

theorem plain_command {c : UInt8} {rest : Bytes} (other : c ≠ 0x44) : Plain (.cmd (c :: rest)) := by
  rintro _ ⟨⟩
  unfold handshakeCommand
  split
  · rename_i shape
    exact absurd (List.cons.inj shape).1 other
  · rfl

section Before

variable {S : Type} {w : Usb.World S}

theorem plain_blob (b : SignedBlob) : Plain (.cmd b.val) := by
  obtain ⟨blob, rfl | head⟩ := b
  · rintro _ ⟨⟩
    rfl
  · obtain ⟨rest, rfl⟩ := List.head?_eq_some_iff.mp head
    exact plain_command (by decide)

theorem sendInit_plain (blobs : Option DeviceBlobs) (vid pid : UInt16) :
    World.Asks Plain (sendInit w blobs vid pid) := by
  have asks : ∀ {q}, Plain q → Traffic.Asking w (fun _ l _ => ∀ e ∈ l, Plain e.query) q :=
    fun h => World.ask_asks w h
  refine Respects.bind (Traffic.exchange_respects (asks (plain_command (by decide))) _) fun _ => ?_
  refine Respects.bind (Traffic.exchange_respects (asks (plain_command (by decide))) _) fun _ => ?_
  refine Respects.bind (Traffic.cmd_respects (asks (plain_command (by decide)))) fun fwRsp => ?_
  refine Respects.bind (.ofOutcome _) fun blobs => ?_
  refine Respects.bind (Traffic.exchange_respects (asks (plain_blob _)) _) fun _ => ?_
  exact .ite (.bind (Traffic.cmd_respects (asks (plain_blob _))) fun _ => .ret _) (.ret _)

theorem readTlsFlash_plain : World.Asks Plain (readTlsFlash w) := by
  have asks : ∀ {q}, Plain q → Traffic.Asking w (fun _ l _ => ∀ e ∈ l, Plain e.query) q :=
    fun h => World.ask_asks w h
  refine Respects.bind (Traffic.request_respects (asks (plain_command (by decide))) _) fun rsp => ?_
  refine Respects.bind (.bailIf _ _) fun _ => .bind (.ofOutcome _) fun sz => ?_
  exact .bind (.bailIf _ _) fun _ => .ite (.ret _) .crash

end Before

section Own

variable {S : Type} {w : Usb.World S} {C : Primitives} {P : Curve}

/-- The record holds a private key whose MAC is of these keys. -/
def Authenticates (C : Primitives) (keys : HostKeys) (blocks : List FlashBlock) : Prop :=
  ∃ ciphertext, ⟨blockPriv, 2 :: (ciphertext ++
    (C.hmac keys.pskValidationKey ciphertext).toList)⟩ ∈ blocks

theorem inspectPairing_authenticates {blocks : List FlashBlock} {keys : HostKeys} {d : Bytes32}
    (paired : inspectPairing C blocks keys = .ok (.pairedToThisHost d)) :
    Authenticates C keys blocks := by
  unfold inspectPairing at paired
  cases found : blocks.find? (fun b => b.id = blockPriv) with
  | none =>
    rw [found] at paired
    cases paired
  | some b =>
    have id : b.id = blockPriv := by simpa using List.find?_some found
    obtain ⟨i, body⟩ := b
    obtain rfl : i = blockPriv := id
    rw [found] at paired
    dsimp only at paired
    split at paired
    · cases paired
    split at paired
    · cases paired
    rename_i first rest nonzero
    split at paired
    · cases paired
    rename_i known
    obtain rfl : first = 2 := not_not.mp known
    split at paired
    · cases paired
    split at paired
    · cases paired
    rename_i mac
    refine ⟨rest.take (rest.length - 32), ?_⟩
    rw [not_not.mp mac, List.take_append_drop]
    exact List.mem_of_find?_eq_some found

theorem recordMaterial_authenticates {identity : Except String (String × String)} {record : Bytes}
    {material : Material} (made : recordMaterial C P identity record = .ok material) :
    ∃ blocks name serial, parseFlashBlocks C record = .ok blocks ∧ identity = .ok (name, serial) ∧
      Authenticates C (HostKeys.derive C name serial) blocks := by
  unfold recordMaterial at made
  cases parsed : parseFlashBlocks C record with
  | error e =>
    rw [parsed] at made
    cases made
  | ok blocks =>
    rw [parsed] at made
    cases identity with
    | error e => cases made
    | ok host =>
      obtain ⟨name, serial⟩ := host
      refine ⟨blocks, name, serial, rfl, rfl, ?_⟩
      replace made : buildMaterial C P blocks (HostKeys.derive C name serial) = .ok material := made
      unfold buildMaterial at made
      cases inspected : inspectPairing C blocks (HostKeys.derive C name serial) with
      | error e =>
        rw [inspected] at made
        cases made
      | ok state =>
        rw [inspected] at made
        cases state with
        | pairedToThisHost d => exact inspectPairing_authenticates inspected
        | pairedToAnotherHost => cases made
        | unpaired => cases made

/-- In any world, a packet of a handshake is sent only behind an accepted init and a pairing record
that was read, is whole, and holds a private key under this machine's MAC. -/
theorem openSession_greets_own {blobs : Option DeviceBlobs} {vid pid : UInt16}
    {identity : Except String (String × String)} {rng : Rng} {s : S} {e : Usb.Entry S}
    (sent : e ∈ (openSession w C P blobs vid pid identity rng s).log) (greets : ¬ Plain e.query) :
    ∃ s1 record s2 blocks name serial, Yields (sendInit w blobs vid pid) s () s1 ∧
      Yields (readTlsFlash w) s1 record s2 ∧ parseFlashBlocks C record = .ok blocks ∧
      identity = .ok (name, serial) ∧ Authenticates C (HostKeys.derive C name serial) blocks := by
  obtain early | ⟨_, s1, started, sent⟩ := Act.mem_bind_log.mp sent
  · exact absurd (sendInit_plain blobs vid pid s e early) greets
  obtain early | ⟨record, s2, read, sent⟩ := Act.mem_bind_log.mp sent
  · exact absurd (readTlsFlash_plain s1 e early) greets
  obtain early | ⟨material, s3, made, sent⟩ := Act.mem_bind_log.mp sent
  · rw [show (Act.lift (recordMaterial C P identity record) s2 :
      Result String (Usb.Entry S) S Material).log = [] by
        cases recordMaterial C P identity record <;> rfl] at early
    cases early
  obtain ⟨blocks, name, serial, parsed, host, mac⟩ :=
    recordMaterial_authenticates (Yields.lift_iff.mp made).1
  exact ⟨s1, record, s2, blocks, name, serial, started, read, parsed, host, mac⟩

open Device

abbrev coldSession : Result String (Usb.Entry (Far Unit)) (Far Unit) (Tls × Bool) :=
  openSession (far plainPrimitives plainAuthority pairedSensor) plainPrimitives vendorCurve
    (some vendorBlobs) 0x138a 0x0097 (.ok ("20HRCTO1WW", "PF0XKNNA")) (fun _ => 0)
    coldStart.env

def greets (q : Usb.Query) : Bool :=
  match q with
  | .cmd pkt => (handshakeCommand pkt).isSome
  | _ => false

theorem greets_not_plain {q : Usb.Query} (h : greets q = true) : ¬ Plain q := by
  intro plain
  cases q with
  | cmd pkt =>
    rw [greets, plain pkt rfl] at h
    cases h
  | _ => cases h

theorem openSession_greets_own_cold : ∃ e ∈ coldSession.log, ¬ Plain e.query ∧
    ∃ blocks, Authenticates plainPrimitives
      (HostKeys.derive plainPrimitives "20HRCTO1WW" "PF0XKNNA") blocks := by
  have any : coldSession.log.any (fun e => greets e.query) = true := by decide +kernel
  obtain ⟨e, sent, greeted⟩ := List.any_eq_true.mp any
  have greeted := greets_not_plain greeted
  obtain ⟨_, _, _, blocks, name, serial, _, _, _, host, mac⟩ := openSession_greets_own sent greeted
  cases host
  exact ⟨e, sent, greeted, blocks, mac⟩

end Own

section Reopened

variable {T : Type} {C : Primitives} {P : Curve} {a : Authority} {v : Usb.World T}

theorem sendInit_alike {S : Type} {p : Exchange Usb.Query.Answer → Prop} {R : S → T → Prop}
    {w : Usb.World S} (sim : w.Simulates p R v) (blobs : Option DeviceBlobs) (vid pid : UInt16) :
    Alike p R (sendInit w blobs vid pid) (sendInit v blobs vid pid) := by
  refine .bind (Likeness.exchange_alike sim _ _) fun _ => ?_
  refine .bind (Likeness.exchange_alike sim _ _) fun _ => ?_
  refine .bind (Likeness.cmd_alike sim _) fun fwRsp => .bind (.ofOutcome _) fun blobs => ?_
  refine .bind (Likeness.exchange_alike sim _ _) fun _ => ?_
  exact .ite (.bind (Likeness.cmd_alike sim _) fun _ => .ret _) (.ret _)

/-- Before it is greeted a far end is the sensor behind it. -/
def Ungreeted (f : Far T) (t : T) : Prop := f.phase = .clear ∧ f.sensor = t

theorem far_clear : (far C a v).Simulates (fun e => Plain e.1) Ungreeted v := by
  rintro q f t ⟨clear, rfl⟩ plain
  cases q with
  | cmd pkt =>
    have none : greeting pkt = none := by
      rw [greeting, plain pkt rfl]
      rfl
    simp only [far, clear, answerClear, none, behind]
    exact ⟨trivial, rfl, rfl⟩
  | pollInterrupt => exact ⟨rfl, clear, rfl⟩
  | readData => exact ⟨rfl, clear, rfl⟩
  | now => exact ⟨rfl, clear, rfl⟩
  | current => exact ⟨rfl, clear, rfl⟩
  | onStage stage err => exact ⟨rfl, clear, rfl⟩

theorem admits_of_asks {α : Type} {x : Usb.Drv T α} (asks : World.Asks Plain x) (t : T) :
    Admits (fun e : Exchange Usb.Query.Answer => Plain e.1) (x t).log := by
  intro e mem
  obtain ⟨entry, heard, rfl⟩ := List.mem_map.mp mem
  exact asks t entry heard

theorem startSession_yields {S : Type} {w : Usb.World S} {tls tls' : Tls} {s s' : S} :
    Yields (startSession w C tls) s tls' s' ↔
      Yields (Tls.openSession C w) ⟨tls, s⟩ () ⟨tls', s'⟩ := by
  unfold Yields startSession
  rcases Tls.openSession C w ⟨tls, s⟩ with ⟨out, ⟨tls1, s1⟩, l⟩
  cases out with
  | ok u => simp [Outcome.follow]
  | err e => simp [Outcome.follow]
  | panic => simp [Outcome.follow]
  | stuck => simp [Outcome.follow]

/-- A sensor that takes the init blob and reads as a record of what it issued is opened. -/
theorem openSession_links (cbc : CbcInverts C) {blobs : Option DeviceBlobs} {vid pid : UInt16}
    {identity : Except String (String × String)} (rng farRng : Rng) {t t1 t2 : T} {record : Bytes}
    {material : Material} (started : Yields (sendInit v blobs vid pid) t () t1)
    (read : Yields (readTlsFlash v) t1 record t2)
    (made : recordMaterial C P identity record = .ok material)
    (issued : Issued C a ⟨material.privateKeyD, material.tlsCert, material.ecdhPublic⟩) :
    ∃ tls env, Yields (openSession (far C a v) C P blobs vid pid identity rng) ⟨.clear, farRng, t⟩
        (tls, material.firmwareSignatureValid) env ∧ Linked ⟨tls, env⟩ t2 := by
  have unheard := far_clear (C := C) (a := a) (v := v)
  obtain ⟨f1, started', related⟩ := (sendInit_alike unheard blobs vid pid).yields
    (s := ⟨.clear, farRng, t⟩) ⟨rfl, rfl⟩ (admits_of_asks (sendInit_plain blobs vid pid) t) started
  obtain ⟨f2, read', clear, rfl⟩ := (Likeness.readFlash_alike unheard _ _ _).yields related
    (admits_of_asks readTlsFlash_plain t1) read
  let tls := Tls.new ⟨material.privateKeyD, material.tlsCert, material.ecdhPublic⟩ rng
  obtain ⟨l', opened, linked⟩ := openSession_agrees (v := v) cbc (l := ⟨tls, f2⟩) issued clear
  refine ⟨l'.tls, l'.env, ?_, linked⟩
  refine Yields.bind_iff.mpr ⟨(), f1, started', ?_⟩
  refine Yields.bind_iff.mpr ⟨record, f2, read', ?_⟩
  refine Yields.bind_iff.mpr ⟨material, f2, Yields.lift_iff.mpr ⟨made, rfl⟩, ?_⟩
  exact Yields.bind_iff.mpr ⟨l'.tls, l'.env, startSession_yields.mpr opened, rfl, rfl⟩

theorem recordMaterial_written (cbc : CbcInverts C) {name serial : String} {x y d : Bytes32}
    {iv : Vector UInt8 16} {cert ecdh record : Bytes} (long : 0x90 ≤ ecdh.length)
    (valid : P.isPoint (ecdhPoint ecdh) = true)
    (made : (encryptKey C (HostKeys.derive C name serial) x.toList y.toList d.toList iv >>=
      fun privBlob => makeTlsFlash C privBlob cert ecdh) = .ok record) :
    recordMaterial C P (.ok (name, serial)) record = .ok ⟨d, cert, ecdhPoint ecdh,
      verifyFwSignature P (ecdh.take 0x90) (ecdh.drop 0x90)⟩ := by
  cases sealed : encryptKey C (HostKeys.derive C name serial) x.toList y.toList d.toList iv with
  | error e =>
    rw [sealed] at made
    cases made
  | ok privBlob =>
    rw [sealed] at made
    replace made : makeTlsFlash C privBlob cert ecdh = .ok record := made
    have paired : inspectPairing C (tlsFlashBlocks privBlob cert ecdh)
        (HostKeys.derive C name serial) = .ok (.pairedToThisHost d) :=
      inspectPairing_sealed cbc (derive_key_length name serial) sealed rfl
    unfold recordMaterial
    rw [(record_blocks made).2]
    exact buildMaterial_record long valid paired

end Reopened

section Daemon
open Device Calibration

variable {T D : Type} {C : Primitives} {P : Curve} {a : Authority} {v : Usb.World T}

theorem loadOrCalibrate_alike {S : Type} {p : Exchange Usb.Query.Answer → Prop} {R : S → T → Prop}
    {w : Usb.World S} (sim : w.Simulates p R v) (disk : Disk D) (cfg : Sensor.Probed) :
    Alike p (fun (h : Host S D) (h' : Host T D) => R h.env h'.env ∧ h.disk = h'.disk)
      (loadOrCalibrate disk w cfg) (loadOrCalibrate disk v cfg) := by
  refine .observe fun h h' related => ?_
  rw [related.2]
  cases load disk cfg.toSensorConfig h'.disk with
  | some c => exact .ret c
  | none =>
    refine .bind (.zoom (fun _ _ related => related.1) (fun _ _ _ _ related after =>
      ⟨after, related.2⟩) (Likeness.calibrate_alike sim _ _ _)) fun c => ?_
    refine .bind (.modify fun h h' related => ⟨related.1, ?_⟩) fun _ => .ret c
    rw [related.2]

/-- The steps of `Sensor::open` on the bare wire, the session left out. -/
def bareOpen (v : Usb.World T) (disk : Disk D) (devices : List Sensor.DeviceInfo)
    (blobs : Option DeviceBlobs) (vid pid : UInt16) :
    Act String (Usb.Entry T) (Host T D) (Bytes × Sensor.Probed × Calibration) := do
  onSensor (sendInit v blobs vid pid)
  let record ← onSensor (readTlsFlash v)
  let cfg ← onSensor (Sensor.probe v devices)
  let calib ← loadOrCalibrate disk v cfg
  Act.ret (record, cfg, calib)

/-- Where the steps of `Sensor::open` go through on the bare wire to a sensor that holds a pairing
record this machine made, the daemon opens the same sensor behind its session, with the same
configuration and calibration and the same file on disk; and then jobs end one after another as they
do on the bare wire. -/
theorem openSensor_serves (cbc : CbcInverts C) {disk : Disk D} {devices : List Sensor.DeviceInfo}
    {start : Start (Far T)} {d0 : D} {name serial : String} {x y d : Bytes32}
    {iv : Vector UInt8 16} {cert ecdh record : Bytes} (long : 0x90 ≤ ecdh.length)
    (valid : P.isPoint (ecdhPoint ecdh) = true)
    (made : (encryptKey C (HostKeys.derive C name serial) x.toList y.toList d.toList iv >>=
      fun privBlob => makeTlsFlash C privBlob cert ecdh) = .ok record)
    (issued : Issued C a ⟨d, cert, ecdhPoint ecdh⟩) (host : start.identity = .ok (name, serial))
    (clear : start.env.phase = .clear) {blobs : DeviceBlobs} (known : start.blobs = some blobs)
    {cfg : Sensor.Probed} {calib : Calibration} {h : Host T D}
    (bare : Yields (bareOpen v disk devices start.blobs start.vid start.pid)
      ⟨start.env.sensor, d0⟩ (record, cfg, calib) h)
    (short : Admits Short (bareOpen v disk devices start.blobs start.vid start.pid
      ⟨start.env.sensor, d0⟩).log) :
    ∃ tls env, Yields (openSensor C P (far C a v) disk devices start) ⟨start.env, d0⟩
        (⟨cfg, calib, blobs.dbWriteEnable⟩, tls) ⟨env, h.disk⟩ ∧
      ∀ jobs, Admits Short (Likeness.work C v jobs h.env).log →
        (Likeness.work C (transport C (far C a v)) jobs ⟨tls, env⟩).out =
          (Likeness.work C v jobs h.env).out ∧
        (Likeness.work C (transport C (far C a v)) jobs ⟨tls, env⟩).state.env.sensor =
          (Likeness.work C v jobs h.env).state := by
  obtain ⟨⟨phase, farRng, t⟩, vid, pid, _, _, rng⟩ := start
  dsimp only at host clear known bare short ⊢
  subst host clear known
  -- the bare steps, each with its part of the log
  obtain ⟨_, h1, init, bare⟩ := Yields.bind_iff.mp bare
  obtain ⟨_, short⟩ := (admits_bind init).mp short
  obtain ⟨started, disk1⟩ := onSensor_yields.mp init
  obtain ⟨_, h2, flash, bare⟩ := Yields.bind_iff.mp bare
  obtain ⟨_, short⟩ := (admits_bind flash).mp short
  obtain ⟨read, disk2⟩ := onSensor_yields.mp flash
  obtain ⟨_, h3, identified, bare⟩ := Yields.bind_iff.mp bare
  obtain ⟨shortProbe, short⟩ := (admits_bind identified).mp short
  obtain ⟨probed, disk3⟩ := onSensor_yields.mp identified
  obtain ⟨_, h4, cached, bare⟩ := Yields.bind_iff.mp bare
  obtain ⟨shortCache, _⟩ := (admits_bind cached).mp short
  obtain ⟨same, rfl⟩ := Yields.ret_iff.mp bare
  cases same
  -- and the same steps behind the session
  obtain ⟨tls, env, opened, linked⟩ := openSession_links cbc rng farRng started read
    (recordMaterial_written cbc long valid made) issued
  have behind := far_simulates (a := a) (v := v) cbc
  obtain ⟨l2, probed', joined2⟩ := (Likeness.probe_alike behind devices).yields linked shortProbe
    probed
  have disks : d0 = h3.disk := by rw [disk3, disk2, disk1]
  obtain ⟨h', cached', joined3, disk4⟩ := (loadOrCalibrate_alike behind disk cfg).yields
    (s := ⟨l2, d0⟩) ⟨joined2, disks⟩ shortCache cached
  refine ⟨h'.env.tls, h'.env.env, ?_, fun jobs shortJobs => ?_⟩
  · have up : Yields (bringUp C P (far C a v) devices ⟨⟨.clear, farRng, t⟩, vid, pid, some blobs,
        .ok (name, serial), rng⟩) (⟨⟨.clear, farRng, t⟩, d0⟩ : Host (Far T) D)
          (blobs.dbWriteEnable, cfg, l2.tls) ⟨l2.env, d0⟩ := by
      refine Yields.bind_iff.mpr ⟨blobs, _, Yields.ofOutcome_iff.mpr ⟨rfl, rfl⟩, ?_⟩
      refine Yields.bind_iff.mpr ⟨_, ⟨env, d0⟩, onSensor_yields.mpr ⟨opened, rfl⟩, ?_⟩
      refine Yields.bind_iff.mpr ⟨(cfg, l2.tls), ⟨l2.env, d0⟩, onSession_yields.mpr ?_, rfl, rfl⟩
      exact onSensor_yields.mpr ⟨probed', rfl⟩
    refine Yields.bind_iff.mpr ⟨_, _, up, ?_⟩
    refine Yields.bind_iff.mpr ⟨(calib, h'.env.tls), ⟨h'.env.env, h4.disk⟩, ?_, rfl, rfl⟩
    rw [← disk4]
    exact onSession_yields.mpr cached'
  · obtain ⟨out, after, _⟩ := Likeness.work_alike behind C jobs h'.env _ joined3 shortJobs
    exact ⟨out, after.1⟩

theorem vendorRecord_made : (encryptKey plainPrimitives
    (HostKeys.derive plainPrimitives "20HRCTO1WW" "PF0XKNNA")
    (Vector.replicate 32 1).toList (Vector.replicate 32 2).toList (Vector.replicate 32 3).toList
    (Vector.replicate 16 9) >>= fun privBlob =>
      makeTlsFlash plainPrimitives privBlob [0x17, 0, 0, 0] vendorBlock) = .ok vendorRecord := by
  have recorded := vendorBlock_recorded
  unfold vendorRecord
  split
  · assumption
  · rename_i failed
    rw [failed] at recorded
    cases recorded

theorem vendorRecord_length : vendorRecord.length = 0x1000 := by
  have made := vendorRecord_made
  cases sealed : encryptKey plainPrimitives
    (HostKeys.derive plainPrimitives "20HRCTO1WW" "PF0XKNNA") (Vector.replicate 32 1).toList
    (Vector.replicate 32 2).toList (Vector.replicate 32 3).toList (Vector.replicate 16 9) with
  | error e =>
    rw [sealed] at made
    cases made
  | ok privBlob =>
    rw [sealed] at made
    exact (record_blocks made).1

abbrev coldBare : Result String (Usb.Entry Unit) (Host Unit Bytes)
    (Bytes × Sensor.Probed × Calibration) :=
  bareOpen pairedSensor oneFile devices190 coldStart.blobs coldStart.vid coldStart.pid
    ⟨coldStart.env.sensor, oldFile⟩

theorem holding_reads {record : Bytes} (size : record.length = 0x1000) :
    Yields (readTlsFlash (holding record)) () record () := by
  have reply : Flash.ReadReply ([0, 0] ++ Bytes.le32 0x1000 ++ [0, 0] ++ record) record := by
    refine ⟨0, 0, ?_⟩
    rw [Bytes.len32, size]
    rfl
  exact Flash.readFlash_reply rfl reply (Nat.le_of_eq size)

theorem bareOpen_reads {T D : Type} {v : Usb.World T} {disk : Disk D}
    {devices : List Sensor.DeviceInfo} {blobs : Option DeviceBlobs} {vid pid : UInt16}
    {h h' : Host T D} {record : Bytes} {cfg : Sensor.Probed} {calib : Calibration}
    (run : Yields (bareOpen v disk devices blobs vid pid) h (record, cfg, calib) h') :
    ∃ t t', Yields (readTlsFlash v) t record t' := by
  obtain ⟨_, _, _, run⟩ := Yields.bind_iff.mp run
  obtain ⟨_, _, flash, run⟩ := Yields.bind_iff.mp run
  obtain ⟨_, _, _, run⟩ := Yields.bind_iff.mp run
  obtain ⟨_, _, _, run⟩ := Yields.bind_iff.mp run
  obtain ⟨same, _⟩ := Yields.ret_iff.mp run
  cases same
  exact ⟨_, _, (onSensor_yields.mp flash).1⟩

theorem coldBare_value : coldBare.out.kind = .value := by
  decide +kernel

theorem coldBare_short : Admits Short coldBare.log := by
  decide +kernel

/-- The sensor opened, then probed again and rebooted. -/
theorem openSensor_serves_cold : ∃ cfg calib tls env d,
    Yields (openSensor plainPrimitives vendorCurve (far plainPrimitives plainAuthority pairedSensor)
      oneFile devices190 coldStart) ⟨coldStart.env, oldFile⟩
      (⟨cfg, calib, vendorBlobs.dbWriteEnable⟩, tls) ⟨env, d⟩ ∧
    (Likeness.work plainPrimitives (transport plainPrimitives
      (far plainPrimitives plainAuthority pairedSensor)) [.probe devices190, .shutdown]
        ⟨tls, env⟩).out =
      (Likeness.work plainPrimitives pairedSensor [.probe devices190, .shutdown] ()).out := by
  have made := vendorRecord_made
  have issued : Issued plainPrimitives plainAuthority
      ⟨Vector.replicate 32 3, [0x17, 0, 0, 0], ecdhPoint vendorBlock⟩ :=
    ⟨fun _ => rfl, ⟨[], rfl, fun _ => ⟨[], rfl, by decide, rfl⟩⟩, fun _ => Nat.zero_le 65,
      by decide⟩
  obtain ⟨⟨record, cfg, calib⟩, h, bare⟩ := Yields.of_value coldBare_value
  obtain ⟨_, _, read⟩ := bareOpen_reads bare
  obtain ⟨same, _⟩ := read.det (holding_reads vendorRecord_length)
  rw [same] at bare
  have host : coldStart.identity = .ok ("20HRCTO1WW", "PF0XKNNA") := rfl
  have known : coldStart.blobs = some vendorBlobs := rfl
  obtain ⟨tls, env, opened, serves⟩ := openSensor_serves (C := plainPrimitives) (P := vendorCurve)
    (a := plainAuthority) plain_inverts (by decide +kernel) (by decide +kernel) made issued host
    rfl known bare coldBare_short
  have short : Admits Short (Likeness.work plainPrimitives pairedSensor
      [.probe devices190, .shutdown] ()).log := by
    decide +kernel
  exact ⟨cfg, calib, tls, env, _, opened, (serves _ short).1⟩

end Daemon

end ValidityFprintd.Init
