import ValidityFprintd.ChunkedFlash
import ValidityFprintd.Reopen

/-! From a blank sensor to an open one: the pairing record that provisioning wrote over its own
session is the one the daemon's next start opens the sensor with. -/

namespace ValidityFprintd.Provision
open Effect Crypto Pairing Tls Init

/-- `storeRecord` over any transport. -/
def keepRecord {S : Type} (C : Primitives) (t : Usb.World S) (blob : WriteEnable)
    (privBlob tlsCert ecdhBlob : Bytes) : Usb.Drv S Bool := do
  erasePartitions t blob partitionsToErase
  let record ← Act.lift (makeTlsFlash C privBlob tlsCert ecdhBlob)
  Flash.writeFlashAll t blob partitionCert 0 record
  let check ← Flash.readFlash t partitionCert 0 0x40
  Act.bailIf (check.all (fun b => b = 0xff)) "pairing record did not persist"
  reboot t
  Act.ret true

/-- A sensor that keeps what is written to partition 1, over a restart and the commands of the next
start too, and whose replies each fit in a record of the session layer. -/
structure Retains {T : Type} (v : Usb.World T) (size : UInt32) (part : T → Bytes) : Prop
    extends Flash.Stores v partitionCert size part where
  room : 0x1000 ≤ size.toNat
  restarts : ∀ t, part (v (.cmd [0x05, 0x02, 0x00]) t).2 = part t
  greets : ∀ {c : UInt8} (rest : Bytes) t, c ∈ [0x01, 0x19, 0x43] →
    part (v (.cmd (c :: rest)) t).2 = part t
  inits : ∀ (blob : SignedBlob) t, part (v (.cmd blob.val) t).2 = part t
  brief : ∀ out t rsp, (v (.cmd out) t).1 = .ok rsp → rsp.length < plaintextLimit

section Bare

variable {T : Type} {v : Usb.World T} {C : Primitives} {size : UInt32} {part : T → Bytes}

/-- Exchanges that fit in a record each. -/
def Shorts (_ : T) (l : List (Usb.Entry T)) (_ : T) : Prop := Admits Short l

instance shorts_composes : Composes (Shorts (T := T)) where
  nil := fun _ => admits_nil
  append := fun first second => admits_append.mpr ⟨first, second⟩

theorem Retains.asks_short (retains : Retains v size part) {out : Bytes}
    (short : out.length < plaintextLimit) : Traffic.Asking v Shorts (.cmd out) := by
  intro s e mem
  obtain rfl := List.mem_singleton.mp mem
  refine ⟨short, fun rsp said => ?_⟩
  change rsp ∈ (v (.cmd out) s).1.toOption at said
  cases answered : (v (.cmd out) s).1 with
  | ok rsp' =>
    rw [answered] at said
    cases said
    exact retains.brief out s rsp answered
  | error e =>
    rw [answered] at said
    cases said

theorem Retains.keepRecord_short (retains : Retains v size part) {blob : WriteEnable}
    (small : blob.val.length < plaintextLimit) (privBlob tlsCert ecdhBlob : Bytes) :
    Respects Shorts (keepRecord C v blob privBlob tlsCert ecdhBlob) := by
  have asks : ∀ {out : Bytes}, out.length < plaintextLimit → Traffic.Asking v Shorts (.cmd out) :=
    retains.asks_short
  have unlock : Respects Shorts (Flash.writeEnable v blob) :=
    Traffic.exchange_respects (asks small) _
  have commit : Respects Shorts (Flash.callCleanups v) := by
    refine .bind (Traffic.cmd_respects (asks (by decide))) fun rsp => ?_
    exact .ite (.ret _) (.mapErr _ (.lift _))
  have bracket : ∀ {out : Bytes} (c : String), out.length < plaintextLimit →
      Respects Shorts (Flash.commitAfterReply v blob out c) := fun c short =>
    .bind unlock fun _ => .bind (Traffic.cmd_respects (asks short)) fun _ =>
      .bind (.attempt commit) fun _ => .bind (.lift _) fun _ => .bind (.lift _) fun _ => .ret _
  have erase : ∀ ps : List UInt8, Respects Shorts (erasePartitions v blob ps) := by
    intro ps
    induction ps with
    | nil => exact .ret ()
    | cons p ps ih =>
      have short : 2 < plaintextLimit := by decide
      exact .bind (.mapErr _ (bracket _ short)) fun _ => ih
  have write : ∀ (chunks : List Bytes) (addr : UInt32), (∀ c ∈ chunks, c.length ≤ 0x1000) →
      Respects Shorts (Flash.writeChunks v blob partitionCert addr chunks) := by
    intro chunks
    induction chunks with
    | nil => exact fun _ _ => .ret ()
    | cons chunk chunks ih =>
      intro addr sound
      have size := sound chunk List.mem_cons_self
      refine .bind (bracket _ ?_) fun _ => ih _ fun c mem => sound c (List.mem_cons_of_mem _ mem)
      simp only [List.length_append, Bytes.le32_length, Bytes.le16_length, List.length_cons,
        List.length_nil, plaintextLimit]
      omega
  refine .bind (erase _) fun _ => .bind (.lift _) fun record => ?_
  refine .bind (write _ _ fun c mem => (Bytes.chunks_sound (by decide) record c mem).2) fun _ => ?_
  refine .bind ?_ fun check => .bind (.bailIf _ _) fun _ => ?_
  · refine .bind (Traffic.request_respects (asks (by decide)) _) fun rsp => .bind (.bailIf _ _) ?_
    exact fun _ => .bind (.ofOutcome _) fun sz => .bind (.bailIf _ _) fun _ => .ite (.ret _) .crash
  · exact .bind (.ignore (Traffic.cmd_respects (asks (by decide)))) fun _ => .ret _

theorem Retains.keepRecord_kept (retains : Retains v size part) {blob : WriteEnable}
    {privBlob tlsCert ecdhBlob : Bytes} {t t' : T} {done : Bool}
    (run : Yields (keepRecord C v blob privBlob tlsCert ecdhBlob) t done t') :
    ∃ record, makeTlsFlash C privBlob tlsCert ecdhBlob = .ok record ∧
      (part t').take 0x1000 = record := by
  obtain ⟨_, t1, _, run⟩ := Yields.bind_iff.mp run
  obtain ⟨record, t2, lifted, run⟩ := Yields.bind_iff.mp run
  obtain ⟨made, rfl⟩ := Yields.lift_iff.mp lifted
  obtain ⟨_, t3, wrote, run⟩ := Yields.bind_iff.mp run
  obtain ⟨check, t4, read, run⟩ := Yields.bind_iff.mp run
  obtain ⟨_, t5, kept, run⟩ := Yields.bind_iff.mp run
  obtain ⟨_, rfl⟩ := Yields.bailIf_iff.mp kept
  obtain ⟨_, t6, restarted, run⟩ := Yields.bind_iff.mp run
  obtain ⟨_, rfl⟩ := Yields.ret_iff.mp run
  have room := retains.room
  have long := (record_blocks made).1
  have all : (Bytes.chunks 0x1000 record).flatten = record := Bytes.chunks_flatten (by decide) _
  -- the write
  obtain ⟨l, wrote⟩ := Yields.iff_run.mp wrote
  have stored : part t3 = Partition.splice (part t1) 0 record := by
    have inside : (0 : UInt32).toNat + (Bytes.chunks 0x1000 record).flatten.length ≤
        size.toNat := by
      rw [all, long]
      exact room
    obtain ⟨_, _, stored⟩ | ⟨⟨e, failed⟩, _⟩ := retains.writeChunks_cases blob inside wrote
    · rw [all] at stored
      exact stored
    · cases failed
  -- the look at it, and the restart
  have looks : Traffic.Asking v (fun s _ t => part t = part s)
      (.cmd (Flash.readCommand partitionCert 0 0x40)) := by
    intro s
    obtain ⟨rsp, u, answered, _, same⟩ : ∃ rsp u,
        v (.cmd (Flash.readCommand partitionCert 0 0x40)) s = (.ok rsp, u) ∧
          Flash.ReadReply rsp _ ∧ part u = part s :=
      retains.reads s (Nat.le_trans (by decide) room)
    exact (congrArg (fun r => part r.2) answered).trans same
  have looked : part t4 = part t3 := by
    have quiet : Respects (fun s _ t => part t = part s) (Flash.readFlash v partitionCert 0 0x40) :=
      .bind (Traffic.request_respects looks _) fun rsp => .bind (.bailIf _ _) fun _ =>
        .bind (.ofOutcome _) fun sz => .bind (.bailIf _ _) fun _ => .ite (.ret _) .crash
    obtain ⟨_, same⟩ := quiet.yields read
    exact same
  have booted : part t6 = part t4 := by
    have asks : Traffic.Asking v (fun s _ t => part t = part s) (.cmd [0x05, 0x02, 0x00]) :=
      fun s => retains.restarts s
    have quiet : Respects (fun s _ t => part t = part s) (reboot v) :=
      .ignore (Traffic.cmd_respects asks)
    obtain ⟨_, same⟩ := quiet.yields restarted
    exact same
  refine ⟨record, made, ?_⟩
  have inside : 0 + record.length ≤ (part t1).length := by
    rw [retains.length, long, Nat.zero_add]
    exact room
  have whole := Flash.splice_read inside
  rw [booted, looked, stored, ← long]
  exact whole

theorem Retains.sendInit_keeps (retains : Retains v size part) (blobs : Option DeviceBlobs)
    (vid pid : UInt16) : Respects (fun s _ t => part t = part s) (sendInit v blobs vid pid) := by
  have asks : ∀ {c : UInt8} {rest : Bytes}, c ∈ [0x01, 0x19, 0x43] →
      Traffic.Asking v (fun s _ t => part t = part s) (.cmd (c :: rest)) :=
    fun known s => retains.greets _ s known
  have inits : ∀ blob : SignedBlob,
      Traffic.Asking v (fun s _ t => part t = part s) (.cmd blob.val) :=
    fun blob s => retains.inits blob s
  refine .bind (Traffic.exchange_respects (asks (by decide)) _) fun _ => ?_
  refine .bind (Traffic.exchange_respects (asks (by decide)) _) fun _ => ?_
  refine .bind (Traffic.cmd_respects (asks (by decide))) fun fwRsp => ?_
  refine .bind (.ofOutcome _) fun blobs => .bind (Traffic.exchange_respects (inits _) _) fun _ => ?_
  exact .ite (.bind (Traffic.cmd_respects (inits _)) fun _ => .ret _) (.ret _)

theorem Retains.readTlsFlash_kept (retains : Retains v size part) (t : T) :
    ∃ t', Yields (readTlsFlash v) t ((part t).take 0x1000) t' := by
  obtain ⟨rsp, u, answered, reply, _⟩ : ∃ rsp u,
      v (.cmd (Flash.readCommand partitionCert 0 tlsFlashSize)) t = (.ok rsp, u) ∧
        Flash.ReadReply rsp ((part t).take 0x1000) ∧ part u = part t :=
    retains.reads t (Nat.le_trans (by decide) retains.room)
  refine ⟨u, Flash.readFlash_reply answered reply ?_⟩
  rw [List.length_take]
  exact Nat.min_le_left _ _

end Bare

section Whole

variable {T : Type} {C : Primitives} {P : Curve} {a : Authority} {v : Usb.World T} {size : UInt32}
  {part : T → Bytes}

theorem clear_yields {α : Type} {x : Usb.Drv (Far T) α} {y : Usb.Drv T α}
    (alike : Alike (fun e => Plain e.1) Ungreeted x y) (asks : World.Asks Plain y) {f f' : Far T}
    {b : α} (clear : f.phase = .clear) (run : Yields x f b f') :
    Yields y f.sensor b f'.sensor ∧ f'.phase = .clear := by
  obtain ⟨out, after, _⟩ := alike f f.sensor ⟨clear, rfl⟩ (admits_of_asks asks f.sensor)
  rw [run.1] at out
  rw [run.2] at after
  exact ⟨⟨out.symm, after.2.symm⟩, after.1⟩

section Calls

variable {R : T → List (Usb.Entry T) → T → Prop} [Composes R]

theorem getFlashInfo_respects (asks : Traffic.Asking v R (.cmd [0x3e])) :
    Respects R (Flash.getFlashInfo v) := by
  refine .bind (Traffic.request_respects asks _) fun rsp => .bind (.ite (.ret _) .crash) ?_
  refine fun body => .bind (.bailIf _ _) fun _ => .bind (.ofOutcome _) fun _ => ?_
  refine .bind (.ofOutcome _) fun _ => .bind (.ofOutcome _) fun _ => .bind (.ofOutcome _) ?_
  exact fun _ => .bind (.ofOutcome _) fun _ => .bind (.ite (.ret _) .crash) fun _ => .ret _

theorem partitionFlash_respects (asks : ∀ rest, Traffic.Asking v R (.cmd (0x4f :: rest)))
    {layout signature ic pubX pubY} :
    Respects R (partitionFlash C v layout signature ic pubX pubY) := by
  refine .bind (.ofOutcome _) fun cert => .bind (Traffic.request_respects (asks _) _) fun rsp => ?_
  exact .bind (.bailIf _ _) fun _ => .bind (.ofOutcome _) fun _ => .ofOutcome _

theorem readEcdhBlock_respects (asks : Traffic.Asking v R (.cmd [0x50])) :
    Respects R (readEcdhBlock v) := by
  refine .bind (Traffic.request_respects asks _) fun rsp => .bind (.ite (.ret _) .crash) ?_
  refine fun body => .bind (.bailIf _ _) fun _ => .bind (.ofOutcome _) fun l => ?_
  refine .bind (.bailIf _ _) fun _ => .bind (.bailIf _ _) fun _ => .bind (.ite (.ret _) .crash) ?_
  refine fun block => .bind (.ite (.ret _) .crash) fun padding => ?_
  exact .bind (.bailIf _ _) fun _ => .ret _

end Calls

section Alike

variable {S : Type} {p : Exchange Usb.Query.Answer → Prop} {R : S → T → Prop} {w : Usb.World S}
  (sim : w.Simulates p R v)

include sim

theorem getFlashInfo_alike : Alike p R (Flash.getFlashInfo w) (Flash.getFlashInfo v) := by
  refine .bind (Likeness.request_alike sim _ _) fun rsp => .bind (Likeness.sliceFrom_alike _ _) ?_
  refine fun body => .bind (.bailIf _ _) fun _ => .bind (.ofOutcome _) fun _ => ?_
  refine .bind (.ofOutcome _) fun _ => .bind (.ofOutcome _) fun _ => .bind (.ofOutcome _) ?_
  exact fun _ => .bind (.ofOutcome _) fun _ => .bind (Likeness.sliceFrom_alike _ _) fun _ => .ret _

theorem partitionFlash_alike (layout : List PartitionSpec) (signature : Bytes) (ic : FlashIcInfo)
    (pubX pubY : Bytes) : Alike p R (partitionFlash C w layout signature ic pubX pubY)
      (partitionFlash C v layout signature ic pubX pubY) := by
  refine .bind (.ofOutcome _) fun cert => .bind (Likeness.request_alike sim _ _) fun rsp => ?_
  exact .bind (.bailIf _ _) fun _ => .bind (.ofOutcome _) fun _ => .ofOutcome _

theorem readEcdhBlock_alike : Alike p R (readEcdhBlock w) (readEcdhBlock v) := by
  refine .bind (Likeness.request_alike sim _ _) fun rsp => .bind (Likeness.sliceFrom_alike _ _) ?_
  refine fun body => .bind (.bailIf _ _) fun _ => .bind (.ofOutcome _) fun l => ?_
  refine .bind (.bailIf _ _) fun _ => .bind (.bailIf _ _) fun _ => ?_
  refine .bind (Likeness.sliceFrom_alike _ _) fun block => .bind (Likeness.slice_alike _ _ _) ?_
  exact fun padding => .bind (.bailIf _ _) fun _ => .ret _

theorem erasePartitions_alike (blob : WriteEnable) (ps : List UInt8) :
    Alike p R (erasePartitions w blob ps) (erasePartitions v blob ps) := by
  induction ps with
  | nil => exact .ret ()
  | cons q ps ih => exact .bind (.mapErr _ (Likeness.eraseFlash_alike sim blob q)) fun _ => ih

theorem keepRecord_alike (blob : WriteEnable)
    (privBlob tlsCert ecdhBlob : Bytes) :
    Alike p R (keepRecord C w blob privBlob tlsCert ecdhBlob)
      (keepRecord C v blob privBlob tlsCert ecdhBlob) := by
  refine .bind (erasePartitions_alike sim _ _) fun _ => .bind (.lift _) fun record => ?_
  refine .bind (Likeness.writeFlashAll_alike sim _ _ _ _) fun _ => ?_
  refine .bind (Likeness.readFlash_alike sim _ _ _) fun check => .bind (.bailIf _ _) fun _ => ?_
  exact .bind (.ignore (Likeness.cmd_alike sim _)) fun _ => .ret _

end Alike

theorem ofOption_eq_ok {ε α : Type} {e : ε} {o : Option α} {x : α}
    (h : Outcome.ofOption e o = .ok x) : o = some x := by
  cases o with
  | none => cases h
  | some y => rw [Outcome.ok.inj h]

theorem ecdhPublicFromBlock_eq_ok {block point : Bytes}
    (h : ecdhPublicFromBlock P block = .ok point) :
    0x90 ≤ block.length ∧ P.isPoint (ecdhPoint block) = true ∧ point = ecdhPoint block := by
  by_cases long : 0x90 ≤ block.length
  · have same : ecdhPublicFromBlock P block = if P.isPoint (ecdhPoint block) then
        .ok (ecdhPoint block) else .error "ECDH block does not describe a point on P-256" := by
      have point : pointFromLe ((block.take 0x28).drop 0x08) ((block.take 0x6c).drop 0x4c) =
          ecdhPoint block := by
        rw [List.drop_take, List.drop_take]
        rfl
      unfold ecdhPublicFromBlock
      rw [if_neg (by omega), point]
    rw [same] at h
    split at h
    · rename_i valid
      exact ⟨long, valid, (Except.ok.inj h).symm⟩
    · cases h
  · unfold ecdhPublicFromBlock at h
    rw [if_pos (by omega)] at h
    cases h

/-- The certificate that comes back from the command to partition the flash is for the key that
the command tells, and of the key pair whose public half is in the key block. -/
def Issues (C : Primitives) (P : Curve) (a : Authority) (v : Usb.World T) : Prop :=
  ∀ {rng rng' : Rng} {secret pubX pubY : Bytes32} {layout signature ic} {t t1 t2 t3 : T}
    {cert block point : Bytes}, P.randomSecret rng = (secret, rng') →
    P.affine secret = (some pubX, some pubY) →
    Yields (partitionFlash C v layout signature ic pubX.toList pubY.toList) t cert t1 →
    Yields (readEcdhBlock v) t2 block t3 → ecdhPublicFromBlock P block = .ok point →
    Issued C a ⟨secret, cert, point⟩

theorem withSession_yields {S α : Type} {tls : Tls} {x : Act String (Sent S) (Link S) α} {s t : S}
    {b : α} : Yields (withSession tls x) s b t ↔ ∃ tls', Yields x ⟨tls, s⟩ b ⟨tls', t⟩ := by
  constructor
  · rintro ⟨out, rfl⟩
    exact ⟨_, out, rfl⟩
  · rintro ⟨tls', out, state⟩
    exact ⟨out, congrArg Link.env state⟩

/-- Where provisioning returns, what it opened a session with is in the record it wrote. -/
theorem initFlash_recorded (cbc : CbcInverts C) (retains : Retains v size part)
    (issues : Issues C P a v) {vid pid : UInt16} {blob : WriteEnable}
    (small : blob.val.length < plaintextLimit) {resetBlob : ResetBlob} {name serial : String}
    {rng : Rng} {f f' : Far T} (clear : f.phase = .clear)
    (run : Yields (initFlash C (far C a v) P vid pid blob resetBlob name serial rng) f true f') :
    ∃ m : Material, Issued C a ⟨m.privateKeyD, m.tlsCert, m.ecdhPublic⟩ ∧
      recordMaterial C P (.ok (name, serial)) ((part f'.sensor).take 0x1000) = .ok m := by
  obtain ⟨info, f1, looked, run⟩ := Yields.bind_iff.mp run
  by_cases rows : info.partitions ≠ []
  · rw [if_pos rows] at run
    obtain ⟨no, _⟩ := Yields.ret_iff.mp run
    cases no
  rw [if_neg rows] at run
  obtain ⟨ic, f2, found, run⟩ := Yields.bind_iff.mp run
  obtain ⟨_, rfl⟩ := Yields.ofOutcome_iff.mp found
  obtain ⟨_, f3, reset, run⟩ := Yields.bind_iff.mp run
  rcases drawn : P.randomSecret rng with ⟨secret, rng'⟩
  rw [drawn] at run
  dsimp only at run
  obtain ⟨pubX, f4, looked4, run⟩ := Yields.bind_iff.mp run
  obtain ⟨atX, rfl⟩ := Yields.ofOutcome_iff.mp looked4
  obtain ⟨pubY, f5, looked5, run⟩ := Yields.bind_iff.mp run
  obtain ⟨atY, rfl⟩ := Yields.ofOutcome_iff.mp looked5
  obtain ⟨cert, f6, parted, run⟩ := Yields.bind_iff.mp run
  obtain ⟨block, f7, read, run⟩ := Yields.bind_iff.mp run
  obtain ⟨public_, f8, lifted, run⟩ := Yields.bind_iff.mp run
  obtain ⟨point, rfl⟩ := Yields.lift_iff.mp lifted
  obtain ⟨privBlob, f9, lifted, run⟩ := Yields.bind_iff.mp run
  obtain ⟨privSealed, rfl⟩ := Yields.lift_iff.mp lifted
  obtain ⟨tls', run⟩ := withSession_yields.mp run
  obtain ⟨_, l, opened, stored⟩ := Yields.bind_iff.mp run
  -- no session is begun before the one that the record is written over
  have unheard := far_clear (C := C) (a := a) (v := v)
  have asks : ∀ {q}, Plain q → Traffic.Asking v (fun _ l _ => ∀ e ∈ l, Plain e.query) q :=
    fun h => World.ask_asks v h
  have plain := asks (plain_blob ⟨resetBlob.val, .inr resetBlob.property⟩)
  obtain ⟨_, clear1⟩ := clear_yields (getFlashInfo_alike unheard)
    (getFlashInfo_respects (asks (plain_command (by decide)))) clear looked
  obtain ⟨_, clear3⟩ := clear_yields (Likeness.exchange_alike unheard _ _)
    (Traffic.exchange_respects plain _) clear1 reset
  obtain ⟨parted, clear6⟩ := clear_yields (partitionFlash_alike unheard _ _ _ _ _)
    (partitionFlash_respects fun _ => asks (plain_command (by decide))) clear3 parted
  obtain ⟨read, clear7⟩ := clear_yields (readEcdhBlock_alike unheard)
    (readEcdhBlock_respects (asks (plain_command (by decide)))) clear6 read
  have affine : P.affine secret = (some pubX, some pubY) :=
    Prod.ext (ofOption_eq_ok atX) (ofOption_eq_ok atY)
  have issued := issues drawn affine parted read point
  obtain ⟨l', agreed, linked⟩ := openSession_agrees (v := v) cbc
    (l := ⟨Tls.new ⟨secret, cert, public_⟩ fun i => rng' (i + 16), f7⟩) issued clear7
  obtain ⟨_, rfl⟩ := (Yields.mapErr_iff.mp opened).det agreed
  have stored : Yields (keepRecord C (transport C (far C a v)) blob privBlob cert block) l true
    ⟨tls', f'⟩ := stored
  obtain ⟨out, after, _⟩ := keepRecord_alike (far_simulates cbc) blob privBlob cert block l
    f7.sensor linked (retains.keepRecord_short small privBlob cert block f7.sensor)
  rw [stored.1] at out
  rw [stored.2] at after
  obtain ⟨record, made, kept⟩ := retains.keepRecord_kept ⟨out.symm, rfl⟩
  obtain ⟨long, valid, rfl⟩ := ecdhPublicFromBlock_eq_ok point
  rw [after.1, kept]
  have whole : (encryptKey C (HostKeys.derive C name serial) pubX.toList pubY.toList secret.toList
      (Vector.ofFn fun i => rng' i) >>= fun privBlob => makeTlsFlash C privBlob cert block) =
        .ok record := by
    rw [privSealed]
    exact made
  exact ⟨_, issued, recordMaterial_written cbc long valid whole⟩

/-- What is provisioned can be opened. Where `init_flash` returns, the sensor, restarted with what
partition 1 held, is opened at any later start on the machine that provisioned it. -/
theorem provisioned_opens (cbc : CbcInverts C) (retains : Retains v size part)
    (issues : Issues C P a v) {vid pid : UInt16} {blob : WriteEnable}
    (small : blob.val.length < plaintextLimit) {resetBlob : ResetBlob} {name serial : String}
    {rng : Rng} {f f' : Far T} (clear : f.phase = .clear)
    (run : Yields (initFlash C (far C a v) P vid pid blob resetBlob name serial rng) f true f')
    {u u' : T} (same : part u = part f'.sensor) {blobs : Option DeviceBlobs}
    (started : Yields (sendInit v blobs vid pid) u () u') (nextRng farRng : Rng) :
    ∃ tls valid env t, Yields (Init.openSession (far C a v) C P blobs vid pid (.ok (name, serial))
        nextRng) ⟨.clear, farRng, u⟩ (tls, valid) env ∧ Linked ⟨tls, env⟩ t := by
  obtain ⟨m, issued, recorded⟩ := initFlash_recorded cbc retains issues small clear run
  obtain ⟨_, kept⟩ := (retains.sendInit_keeps blobs vid pid).yields started
  obtain ⟨u2, read⟩ := retains.readTlsFlash_kept u'
  rw [kept, same] at read
  obtain ⟨tls, env, opened, linked⟩ := openSession_links cbc nextRng farRng started read recorded
    issued
  exact ⟨tls, _, env, u2, opened, linked⟩

/-! A blank sensor of which partition 1 is all there is to see. -/

/-- A 1 MiB flash without partitions. -/
def blankInfo : Bytes :=
  [0, 0] ++ Bytes.le16 0xef ++ Bytes.le16 0x40 ++ Bytes.le16 0x100 ++ [0, 0] ++
    Bytes.le16 0x1000 ++ [0, 0] ++ Bytes.le16 0

/-- The key block with the vendor's point, as it is sent. -/
def sentBlock : Bytes :=
  [0, 0] ++ Bytes.le32 404 ++ vendorBlock ++ List.replicate 256 0

def blankReply (p : Partition) : Bytes → Bytes × Partition
  | [0x3e] => (blankInfo, p)
  | 0x4f :: _ => ([0, 0] ++ Bytes.le32 4 ++ [0x17, 0, 0, 0], p)
  | [0x50] => (sentBlock, p)
  | 0x3f :: q => ([0, 0], if q = [1] then .erased else p)
  | out => Flash.serve 1 p out

def blankSensor : Usb.World Partition
  | .cmd out, p => (.ok (blankReply p out).1, (blankReply p out).2)
  | .pollInterrupt, p => (.ok none, p)
  | .readData, p => (.ok [], p)
  | .now, p => (0, p)
  | .current, p => (0, p)
  | .onStage _ _, p => ((), p)

theorem blankReply_serve {c : UInt8} (rest : Bytes) (p : Partition)
    (other : c ≠ 0x3e ∧ c ≠ 0x4f ∧ c ≠ 0x50 ∧ c ≠ 0x3f) :
    blankReply p (c :: rest) = Flash.serve 1 p (c :: rest) := by
  unfold blankReply
  split
  · rename_i same
    exact absurd (List.cons.inj same).1 other.1
  · rename_i same
    exact absurd (List.cons.inj same).1 other.2.1
  · rename_i same
    exact absurd (List.cons.inj same).1 other.2.2.1
  · rename_i same
    exact absurd (List.cons.inj same).1 other.2.2.2
  · rfl

theorem serve_short (p : Partition) (out : Bytes) :
    (Flash.serve 1 p out).1.length < plaintextLimit := by
  have content : ∀ addr n, (p.read addr n).length ≤ partitionSize := by
    intro addr n
    rw [Partition.read, List.length_take, List.length_drop, p.size]
    omega
  have two : 2 < plaintextLimit := by decide
  unfold Flash.serve
  split
  · split
    · rename_i a0 a1 a2 a3 s0 s1 s2 s3 _
      have small := content (Bytes.fromLe32 a0 a1 a2 a3).toNat (Bytes.fromLe32 s0 s1 s2 s3).toNat
      simp only [List.length_append, Bytes.le32_length, List.length_cons, List.length_nil,
        plaintextLimit, partitionSize] at small ⊢
      omega
    · exact two
  · split
    · split <;> exact two
    · exact two
  · split <;> exact two
  · exact two

theorem blankReply_short (p : Partition) (out : Bytes) :
    (blankReply p out).1.length < plaintextLimit := by
  unfold blankReply
  split
  · exact show blankInfo.length < plaintextLimit by decide
  · exact show 10 < plaintextLimit by decide
  · exact show sentBlock.length < plaintextLimit by decide +kernel
  · exact show 2 < plaintextLimit by decide
  · exact serve_short p _

theorem blankReply_keeps {c : UInt8} (rest : Bytes) (p : Partition)
    (passive : c ∈ [0x01, 0x05, 0x06, 0x19, 0x1a, 0x43]) : (blankReply p (c :: rest)).2 = p := by
  simp only [List.mem_cons, List.not_mem_nil, or_false] at passive
  rcases passive with rfl | rfl | rfl | rfl | rfl | rfl
  all_goals
    rw [blankReply_serve rest p (by decide)]
    rfl

theorem blankReply_write (p : Partition) (addr : UInt32) (buf : Bytes) :
    blankReply p (Flash.writeCommand 1 addr buf) =
      if room : addr.toNat + buf.length ≤ partitionSize then ([0, 0], p.write addr.toNat buf room)
      else ([0x04, 0x04], p) :=
  (blankReply_serve _ p (by decide)).trans (Flash.serve_write 1 p addr buf)

theorem blankSensor_retains : Retains blankSensor 0x8000 Partition.bytes where
  length p := p.size
  reads {addr n} p _ := by
    have answer : blankReply p (Flash.readCommand 1 addr n) = _ :=
      (blankReply_serve _ p (by decide)).trans (Flash.serve_read 1 p addr n)
    exact ⟨_, _, rfl, answer ▸ ⟨0, 0, rfl⟩, congrArg (fun r => r.2.bytes) answer⟩
  writes {addr buf rsp p t} room answered accepted := by
    cases answered
    show (blankReply p (Flash.writeCommand 1 addr buf)).2.bytes = _
    rw [blankReply_write]
    exact (congrArg (Partition.bytes ∘ Prod.snd) (dif_pos room)).trans rfl
  spans addr buf p i out := by
    show (blankReply p (Flash.writeCommand 1 addr buf)).2.bytes[i]? = _
    rw [blankReply_write]
    split
    · rename_i room
      exact Flash.splice_outside (by rw [p.size]; exact room) out
    · rfl
  unlocks := by
    rintro ⟨blob, head⟩ p
    obtain ⟨rest, rfl⟩ := List.head?_eq_some_iff.mp head
    exact congrArg Partition.bytes (blankReply_keeps rest p (by decide))
  commits p := congrArg Partition.bytes (blankReply_keeps [] p (by decide))
  room := by decide
  restarts p := congrArg Partition.bytes (blankReply_keeps _ p (by decide))
  greets := by
    intro c rest p known
    refine congrArg Partition.bytes (blankReply_keeps rest p ?_)
    simp only [List.mem_cons, List.not_mem_nil, or_false] at known ⊢
    tauto
  inits := by
    rintro ⟨blob, rfl | head⟩ p
    · rfl
    · obtain ⟨rest, rfl⟩ := List.head?_eq_some_iff.mp head
      exact congrArg Partition.bytes (blankReply_keeps rest p (by decide))
  brief := by
    intro out p rsp said
    cases said
    exact blankReply_short p out

theorem blankSensor_issues : Issues plainPrimitives vendorCurve Device.plainAuthority
    blankSensor := by
  intro _ _ secret _ _ _ _ _ _ _ _ _ cert block point _ _ parted _ _
  refine ⟨fun _ => rfl, ⟨[], rfl, fun _ => ⟨[], rfl, by decide, rfl⟩⟩, fun _ => Nat.zero_le 65, ?_⟩
  obtain ⟨made, _, _, parted⟩ := Yields.bind_iff.mp parted
  obtain ⟨rsp, _, asked, parted⟩ := Yields.bind_iff.mp parted
  have said := congrArg Prod.fst (Usb.request_yields.mp asked).1
  obtain rfl : [0, 0] ++ Bytes.le32 4 ++ [0x17, 0, 0, 0] = rsp := Except.ok.inj said
  obtain ⟨_, _, _, parted⟩ := Yields.bind_iff.mp parted
  obtain ⟨n, _, read, parted⟩ := Yields.bind_iff.mp parted
  obtain rfl : (4 : UInt32) = n := Outcome.ok.inj (Yields.ofOutcome_iff.mp read).1
  obtain rfl : [0x17, 0, 0, 0] = cert := Outcome.ok.inj (Yields.ofOutcome_iff.mp parted).1
  exact show 4 ≤ 0x1000 by decide

/-- Provisioned, and started again. -/
theorem provisioned_opens_blank : ∃ f' tls valid env t,
    Yields (initFlash plainPrimitives (far plainPrimitives Device.plainAuthority blankSensor)
      vendorCurve 0x138a 0x0097 ⟨[0x06, 0x02], rfl⟩ ⟨[0x06, 0x03], rfl⟩ "20HRCTO1WW" "PF0XKNNA"
      fun _ => 7) ⟨.clear, fun _ => 0, .erased⟩ true f' ∧
    Yields (Init.openSession (far plainPrimitives Device.plainAuthority blankSensor) plainPrimitives
      vendorCurve (some Device.vendorBlobs) 0x138a 0x0097 (.ok ("20HRCTO1WW", "PF0XKNNA"))
      fun _ => 1) ⟨.clear, fun _ => 2, f'.sensor⟩ (tls, valid) env ∧ Linked ⟨tls, env⟩ t := by
  have value : (initFlash plainPrimitives (far plainPrimitives Device.plainAuthority blankSensor)
      vendorCurve 0x138a 0x0097 ⟨[0x06, 0x02], rfl⟩ ⟨[0x06, 0x03], rfl⟩ "20HRCTO1WW" "PF0XKNNA"
      (fun _ => 7) ⟨.clear, fun _ => 0, .erased⟩).out = .ok true := by
    decide +kernel
  have started : ∀ p, Yields (sendInit blankSensor (some Device.vendorBlobs) 0x138a 0x0097) p ()
      p := fun _ => ⟨rfl, rfl⟩
  have small : (⟨[0x06, 0x02], rfl⟩ : WriteEnable).val.length < plaintextLimit := by decide
  obtain ⟨tls, valid, env, t, opened, linked⟩ := provisioned_opens plain_inverts
    blankSensor_retains blankSensor_issues small rfl ⟨value, rfl⟩ rfl (started _) (fun _ => 1)
    fun _ => 2
  exact ⟨_, tls, valid, env, t, ⟨value, rfl⟩, opened, linked⟩

end Whole

end ValidityFprintd.Provision
