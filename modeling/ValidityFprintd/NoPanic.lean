import ValidityFprintd.LiteralCalibration
import ValidityFprintd.EnrollRounds
import ValidityFprintd.WriteBracket

/-! What the sensor sends makes no parser of the session, verify and enrolment paths panic:
each step that the source leaves to a bound holds its bound, whatever the reply. -/

namespace ValidityFprintd

namespace Tls
open Effect Crypto

variable {E : Type} (C : Primitives)

theorem index_returned {b : Bytes} {i : Nat} (h : i < b.length) :
    Within Returned (Bytes.index b i : Act String E Tls UInt8) := by
  unfold Bytes.index
  rw [List.getElem?_eq_getElem h]
  exact .ret .value _

theorem slice_returned {b : Bytes} {i j : Nat} (h : i ≤ j ∧ j ≤ b.length) :
    Within Returned (Bytes.slice b i j : Act String E Tls Bytes) := by
  rw [Bytes.slice, if_pos h]
  exact .ret .value _

theorem copy32_returned {b : Bytes} (h : b.length = 32) :
    Within Returned (copy32 b : Act String E Tls Bytes32) := by
  rw [copy32, dif_pos h]
  exact .ret .value _

theorem modify_returned (f : Tls → Tls) :
    Within Returned (Act.modify f : Act String E Tls Unit) := fun _ => .value

theorem get_returned : Within Returned (Act.get : Act String E Tls Tls) := fun _ => .value

theorem handleServerHello_returned (p : Bytes) :
    Within Returned (handleServerHello p : Act String E Tls Unit) := by
  refine .guard .error fun long => ?_
  refine .bind (index_returned (by omega)) fun major => ?_
  refine .bind (index_returned (by omega)) fun minor => ?_
  refine .guard .error fun _ => ?_
  have inside : (2 : Nat) ≤ 2 + 0x20 ∧ 2 + 0x20 ≤ p.length := by omega
  refine .bind_of (slice_returned inside) fun bytes s t l run => ?_
  rw [Bytes.slice, if_pos inside] at run
  obtain ⟨rfl, rfl, rfl⟩ := Act.ret_eq_ok.mp run
  have whole : ((p.take (2 + 0x20)).drop 2).length = 32 := by
    rw [List.length_drop, List.length_take]
    omega
  refine Within.bind (copy32_returned whole) (fun random => ?_) s
  refine .bind (modify_returned _) fun _ => ?_
  refine .bind (index_returned (by omega)) fun sidLen => ?_
  refine .guard .error fun room => ?_
  refine .bind (index_returned (by omega)) fun hi => ?_
  refine .bind (index_returned (by omega)) fun lo => ?_
  refine .guard .error fun _ => ?_
  refine .bind (index_returned (by omega)) fun compression => ?_
  exact .bailIf .value .error _ _

theorem handleMessage_returned (t : UInt8) (p : Bytes) :
    Within Returned (handleMessage C t p : Act String E Tls Unit) := by
  unfold handleMessage
  refine .ite (handleServerHello_returned p) ?_
  refine .ite (.ret .value ()) (.ite (.ret .value ()) (.ite ?_ (.fail .error _)))
  exact .bind get_returned fun s => .bailIf .value .error _ _

/-- The induction is on the fuel; each message takes its header off what is left. -/
theorem handleMessages_returned {fuel : Nat} {hs : Bytes} (enough : hs.length ≤ fuel) :
    Within Returned (handleMessages C fuel hs : Act String E Tls Unit) := by
  induction fuel generalizing hs with
  | zero =>
    obtain rfl : hs = [] := List.length_eq_zero_iff.mp (by omega)
    exact .ret .value ()
  | succ fuel ih =>
    by_cases hne : hs = []
    · rw [hne]
      exact .ret .value ()
    · obtain ⟨t, l0, l1, l2, rest, shape⟩ := padTo_shape4 hs
      have shorter := padTo_rest_length [t, l0, l1, l2] hne shape rfl (by omega)
      intro s
      rw [handleMessages_step hne shape]
      dsimp only
      split
      · exact .error
      · refine Within.bind (handleMessage_returned C t _) (fun _ => ?_) s
        refine .bind (modify_returned _) fun _ => ih ?_
        rw [List.length_drop]
        omega

theorem handleHandshake_returned (handshake : Bytes) :
    Within Returned (handleHandshake C handshake : Act String E Tls Unit) := by
  refine .bind get_returned fun s => ?_
  refine .ite ?_ (.bind (.ret .value _) fun hs => handleMessages_returned C (Nat.le_refl _))
  refine .bind (.lift .value .error _) fun plain => .bind (.lift .value .error _) fun hs => ?_
  exact handleMessages_returned C (Nat.le_refl _)

theorem handleRecord_returned (t : UInt8) (pkt : Bytes) :
    Within Returned (handleRecord C t pkt : Act String E Tls Bytes) := by
  unfold handleRecord
  refine .ite ?_ (.ite ?_ (.ite ?_ (.fail .error _)))
  · exact .bind (handleHandshake_returned C pkt) fun _ => .ret .value _
  · exact .guard .error fun _ => .bind (modify_returned _) fun _ => .ret .value _
  · refine .bind get_returned fun s => .guard .error fun _ => ?_
    exact .bind (.lift .value .error _) fun plain => .lift .value .error _

theorem handleRecords_returned {fuel : Nat} {raw : Bytes} (enough : raw.length ≤ fuel)
    (data : Bytes) : Within Returned (handleRecords C fuel raw data : Act String E Tls Bytes) := by
  induction fuel generalizing raw data with
  | zero =>
    obtain rfl : raw = [] := List.length_eq_zero_iff.mp (by omega)
    exact .ret .value data
  | succ fuel ih =>
    by_cases hne : raw = []
    · rw [hne]
      exact .ret .value data
    · obtain ⟨t, mj, mn, s0, s1, rest, shape⟩ := padTo_shape5 raw
      have shorter := padTo_rest_length [t, mj, mn, s0, s1] hne shape rfl (by omega)
      intro s
      rw [handleRecords_step hne shape]
      dsimp only
      split
      · exact .error
      · split
        · exact .error
        · refine Within.bind (handleRecord_returned C t _) (fun more => ih ?_ _) s
          rw [List.length_drop]
          omega

end Tls

namespace Sensor
open Effect

variable {S : Type}

theorem factoryEntries_returned (n : Nat) (b : Bytes) (out : FactoryBits) :
    Returned (factoryEntries n b out).kind := by
  induction n generalizing b out with
  | zero => exact .value
  | succ n ih =>
    refine Outcome.guard_returned fun long => ?_
    refine Outcome.bind_returned (Bytes.rd16_returned (by omega)) fun l _ => ?_
    refine Outcome.bind_returned (Bytes.rd16_returned (by omega)) fun subtag _ => ?_
    rw [Checked.sliceFrom_eq (Nat.not_lt.mp long), Outcome.ok_bind]
    refine Outcome.bind_returned (Outcome.ofOption_returned _ _) fun value sliced => ?_
    have fits := (Bytes.range?_inside (Outcome.ofOption_eq_ok.mp sliced)).2
    rw [Checked.sliceFrom_eq fits, Outcome.ok_bind]
    exact ih _ _

theorem parseFactoryBits_returned (b : Bytes) : Returned (parseFactoryBits b).kind := by
  refine Outcome.guard_returned fun long => ?_
  refine Outcome.bind_returned (Bytes.rd32_returned (by omega)) fun entries _ => ?_
  rw [Checked.sliceFrom_eq (Nat.not_lt.mp long), Outcome.ok_bind]
  exact factoryEntries_returned _ _ _

theorem getFactoryBits_returned (w : Usb.World S) (tag : UInt16) :
    Within Returned (getFactoryBits w tag) := by
  rw [getFactoryBits, Literal.request_slice]
  exact .bind (Returns.request_returned w _ _) fun rsp => .ofOutcome (parseFactoryBits_returned _)

end Sensor

namespace Enroll
open Effect

variable {S : Type}

theorem parseRecords_returned {fuel : Nat} {rest : Bytes} (enough : rest.length ≤ fuel)
    (r : Records) : Returned (parseRecords fuel rest r).kind := by
  induction fuel generalizing rest r with
  | zero =>
    rw [parseRecords, if_pos (by omega)]
    exact .value
  | succ fuel ih =>
    rw [parseRecords]
    split
    · exact .value
    · refine Outcome.bind_returned (Bytes.rd16_returned (by omega)) fun tag _ => ?_
      refine Outcome.bind_returned (Bytes.rd16_returned (by omega)) fun len _ => ?_
      refine Outcome.guard_returned fun _ => ih ?_ _
      have header : magicLen = 0x38 := rfl
      rw [List.length_drop]
      omega

theorem parseUpdate_returned (res : Bytes) : Returned (parseUpdate res).kind := by
  refine Outcome.guard_returned fun long => ?_
  refine Outcome.bind_returned (Bytes.rd16_returned (by omega)) fun l _ => ?_
  exact Outcome.guard_returned fun _ => parseRecords_returned (Nat.le_refl _) _

theorem enrollmentUpdate_returned (w : Usb.World S) (blob : WriteEnable) (prev : Bytes) :
    Within Returned (enrollmentUpdate w blob prev) := by
  refine Returns.commitAfter_returned w blob fun s => ?_
  obtain ⟨_, t, out, run, _, _, ⟨a, rfl, _⟩ | ⟨err, rfl⟩⟩ :=
    WriteBracket.feedTemplate_run w prev s
  · rw [run]
    exact .value
  · rw [run]
    exact .error

end Enroll

namespace Capture
open Effect

variable {S : Type}

theorem parseCaptureStatus_returned (body : Bytes) : Returned (parseCaptureStatus body).kind := by
  refine Outcome.guard_returned fun long => ?_
  refine Outcome.bind_returned (Bytes.rd32_returned (by omega)) fun l _ => ?_
  have payload : 12 ≤ (body.drop 4).length := by
    rw [List.length_drop]
    omega
  refine Outcome.guard_returned fun _ => ?_
  refine Outcome.bind_returned (Bytes.rd32_returned (by omega)) fun error _ => ?_
  refine Outcome.guard_returned fun _ => ?_
  refine Outcome.bind_returned (Bytes.rd16_returned (by omega)) fun x _ => ?_
  refine Outcome.bind_returned (Bytes.rd16_returned (by omega)) fun y _ => ?_
  refine Outcome.bind_returned (Bytes.rd16_returned (by omega)) fun w1 _ => ?_
  exact Outcome.bind_returned (Bytes.rd16_returned (by omega)) fun w2 _ => .value

theorem captureStatus_returned (w : Usb.World S) : Within Returned (captureStatus w) :=
  .bind (Returns.request_returned w _ _) fun _ => .ofOutcome (parseCaptureStatus_returned _)

theorem parseDict_returned {fuel : Nat} {b : Bytes} (enough : b.length ≤ fuel) :
    Returned (parseDict fuel b).kind := by
  induction fuel generalizing b with
  | zero =>
    obtain rfl := List.length_eq_zero_iff.mp (Nat.le_zero.mp enough)
    exact .value
  | succ fuel ih =>
    match b with
    | [] => exact .value
    | [_] | [_, _] | [_, _, _] => exact .error
    | t0 :: t1 :: l0 :: l1 :: tail =>
      have size : (t0 :: t1 :: l0 :: l1 :: tail).length = tail.length + 4 := rfl
      refine Outcome.bind_returned (Outcome.ofOption_returned _ _) fun v _ => ?_
      refine Outcome.bind_returned (ih ?_) fun entries _ => .value
      rw [List.length_drop]
      omega

theorem parseMatch_returned (body : Bytes) : Returned (parseMatch body).kind := by
  refine Outcome.guard_returned fun long => ?_
  refine Outcome.bind_returned (Bytes.rd16_returned (by omega)) fun l _ => ?_
  refine Outcome.guard_returned fun _ => ?_
  refine Outcome.bind_returned (parseDict_returned (Nat.le_refl _)) fun dict _ => ?_
  refine Outcome.bind_returned (Outcome.ofOption_returned _ _) fun user _ => ?_
  refine Outcome.bind_returned (Outcome.ofOption_returned _ _) fun subtype _ => ?_
  refine Outcome.guard_returned fun complete => ?_
  refine Outcome.bind_returned (Bytes.rd32_returned (by omega)) fun userDbid _ => ?_
  exact Outcome.bind_returned (Bytes.rd16_returned (by omega)) fun subtype _ => .value

end Capture

namespace Calibration
open Effect

theorem average_returned {cfg : SensorConfig} (supported : Sensor.Supported cfg) (raw : Bytes) :
    Returned (average raw cfg).kind := by
  cases supported with
  | type1 values data =>
    unfold average Sensor.config199
    dsimp only
    rw [if_neg (by decide), if_pos (by decide)]
    refine Outcome.bind_returned (Outcome.ofOption_returned _ _) fun frame _ => ?_
    rw [if_neg (by decide)]
    exact .value
  | type2 values data =>
    unfold average Sensor.configDb
    dsimp only
    rw [if_neg (by decide), if_neg (by decide)]
    refine Outcome.bind_returned (Outcome.ofOption_returned _ _) fun kept _ => ?_
    rw [if_neg (by decide)]
    exact .value

theorem processCalibrationResults_returned {cfg : SensorConfig} (wide : 0 < cfg.bytesPerLine.toNat)
    (calib : Calibration) (cooked : Bytes) :
    Returned (processCalibrationResults calib cooked cfg).kind := by
  unfold processCalibrationResults
  dsimp only
  rw [if_neg (Nat.ne_of_gt wide)]
  split
  · exact .value
  · exact .value

end Calibration

namespace NoPanic
open Effect Crypto Pairing EnrollRounds Returns

variable {S : Type}

/-! A call that waits for an interrupt returns where a clock goes on, and never panics where none
does. -/

/-- A call that is stuck at most in a wait that no clock ends. -/
structure Waits {α : Type} (w : Usb.World S) (call : Nat → Usb.Drv S α) : Prop where
  calm : ∀ fuel, Within (· ≠ .panic) (call fuel)
  ends : Clock w none → Finishes call

theorem calm_of_returned {α : Type} {x : Usb.Drv S α} (returned : Within Returned x) :
    Within (· ≠ .panic) x := by
  intro s fell
  rcases returned s with ends | ends <;> rw [ends] at fell <;> cases fell

theorem waitInt_waits (w : Usb.World S) (deadline : Nat) :
    Waits w fun fuel => Capture.waitInt w fuel deadline where
  calm fuel := .loop (by decide) (by decide)
    (fun _ => calm_of_returned (waitIntStep_returned w deadline)) fuel ()
  ends clock := waitInt_finishes clock deadline

namespace Waits

variable {α β : Type} {w : Usb.World S} {call : Nat → Usb.Drv S α}

theorem after {x : Usb.Drv S β} {call : β → Nat → Usb.Drv S α} (returned : Within Returned x)
    (waits : ∀ b, Waits w (call b)) : Waits w fun fuel => x >>= fun b => call b fuel where
  calm fuel := (calm_of_returned returned).bind fun b => (waits b).calm fuel
  ends clock := .bind returned fun b => (waits b).ends clock

theorem andThen {f : α → Usb.Drv S β} (waits : Waits w call)
    (returned : ∀ a, Within Returned (f a)) : Waits w fun fuel => call fuel >>= f where
  calm fuel := (waits.calm fuel).bind fun a => calm_of_returned (returned a)
  ends clock := .andThen (waits.ends clock) returned

theorem attempt (waits : Waits w call) : Waits w fun fuel => Act.attempt (call fuel) where
  calm fuel := .attempt (by decide) fun s => .inr (waits.calm fuel s)
  ends clock := .attempt (waits.ends clock)

end Waits

theorem appendNewImage_waits (w : Usb.World S) (blob : WriteEnable) (prev : Bytes) :
    Waits w fun fuel => Enroll.appendNewImage w fuel blob prev := by
  refine .after (Enroll.enrollmentUpdate_returned w blob prev) fun _ => ?_
  refine .after (fun _ => .value) fun start => (waitInt_waits w _).andThen fun _ => ?_
  refine .bind (Enroll.enrollmentUpdate_returned w blob prev) fun res => ?_
  exact .ofOutcome (Enroll.parseUpdate_returned res)

theorem matchFinger_waits (w : Usb.World S) : Waits w fun fuel => Capture.matchFinger w fuel := by
  have run : Waits w fun fuel => Capture.runMatch w fuel := by
    refine .after (exchange_returned w _ _) fun _ => .after (fun _ => .value) fun start => ?_
    refine (waitInt_waits w _).andThen fun b => .guard .error fun _ => ?_
    exact .bind (request_returned w _ _) fun rsp => .ofOutcome (Capture.parseMatch_returned _)
  refine run.attempt.andThen fun result => ?_
  exact .bind (ignore_returned (cmd_returned w _)) fun _ => .lift .value .error _

/-- Whatever the sensor answers, each parser ends in a value or an error, as do the calls that
wait on a sensor once their waits are over. -/
structure Holds (C : Primitives) (P : Curve) (w : Usb.World S) : Prop where
  checkStatus : ∀ rsp, Returned (Literal.checkStatus rsp).kind
  parseTlsResponse : ∀ rsp,
    Within Returned (Literal.parseTlsResponse C rsp : Act String (Usb.Entry S) Tls Bytes)
  handleHandshake : ∀ handshake,
    Within Returned (Literal.handleHandshake C handshake : Act String (Usb.Entry S) Tls Unit)
  handleServerHello : ∀ p,
    Within Returned (Literal.handleServerHello p : Act String (Usb.Entry S) Tls Unit)
  parseFlashBlocks : ∀ data, Returned (Literal.parseFlashBlocks C data).kind
  inspectPairing : ∀ blocks keys, Returned (Literal.inspectPairing C blocks keys).kind
  buildMaterial : ∀ blocks keys, Returned (Literal.buildMaterial C P blocks keys).kind
  getUserStorage : ∀ name, Within Returned (Literal.getUserStorage w name)
  getUser : ∀ dbid, Within Returned (Literal.getUser w dbid)
  lookupUser : ∀ identity, Within Returned (Literal.lookupUser w identity)
  parseUser : ∀ b, Returned (Literal.parseUser b).kind
  parseIdentity : ∀ b, Returned (Literal.parseIdentity b).kind
  getFactoryBits : ∀ tag, Within Returned (Sensor.getFactoryBits w tag)
  parseUpdate : ∀ res, Returned (Literal.parseUpdate res).kind
  appendNewImage : ∀ blob prev, Waits w fun fuel => Literal.appendNewImage w fuel blob prev
  captureStatus : Within Returned (Literal.captureStatus w)
  parseDict : ∀ b, Returned (Literal.parseDict b.length b).kind
  matchFinger : Waits w fun fuel => Literal.matchFinger w fuel
  average : ∀ devices s p t, Yields (Sensor.probe w devices) s p t →
    ∀ raw, Returned (Literal.average raw p.toSensorConfig).kind
  processCalibrationResults : ∀ devices s p t, Yields (Sensor.probe w devices) s p t →
    ∀ calib cooked,
      Returned (Literal.processCalibrationResults calib cooked p.toSensorConfig).kind

theorem supported_wide {cfg : SensorConfig} (supported : Sensor.Supported cfg) :
    0 < cfg.bytesPerLine.toNat := by
  cases supported with
  | type1 values data => exact Nat.succ_pos _
  | type2 values data => exact Nat.succ_pos _

theorem replies_return (C : Primitives) (P : Curve) (w : Usb.World S) : Holds C P w where
  checkStatus rsp := by
    rw [Literal.checkStatus_eq]
    exact Literal.ofExcept_returned _
  parseTlsResponse rsp := by
    rw [Literal.parseTlsResponse_eq]
    exact Tls.handleRecords_returned C (Nat.le_refl _) []
  handleHandshake handshake := by
    rw [Literal.handleHandshake_eq]
    exact Tls.handleHandshake_returned C handshake
  handleServerHello p := by
    rw [Literal.handleServerHello_eq]
    exact Tls.handleServerHello_returned p
  parseFlashBlocks data := by
    rw [Literal.parseFlashBlocks_eq]
    exact Literal.ofExcept_returned _
  inspectPairing blocks keys := by
    rw [Literal.inspectPairing_eq]
    exact Literal.ofExcept_returned _
  buildMaterial blocks keys := by
    rw [Literal.buildMaterial_eq]
    exact Literal.ofExcept_returned _
  getUserStorage name := by
    rw [Literal.getUserStorage_eq]
    exact getUserStorage_returned w name
  getUser dbid := by
    rw [Literal.getUser_eq]
    exact .bind (cmd_returned w _) fun rsp => .bind (check_returned rsp) fun _ =>
      .ofOutcome (Db.parseUser_returned _)
  lookupUser identity := by
    rw [Literal.lookupUser_eq]
    exact lookupUser_returned w identity
  parseUser b := by
    rw [Literal.parseUser_eq]
    exact Db.parseUser_returned b
  parseIdentity b := by
    rw [Literal.parseIdentity_eq]
    exact Sid.parseIdentity_returned b
  getFactoryBits tag := Sensor.getFactoryBits_returned w tag
  parseUpdate res := by
    rw [Literal.parseUpdate_eq]
    exact Enroll.parseUpdate_returned res
  appendNewImage blob prev := by
    simp only [Literal.appendNewImage_eq]
    exact appendNewImage_waits w blob prev
  captureStatus := by
    rw [Literal.captureStatus_eq]
    exact Capture.captureStatus_returned w
  parseDict b := by
    rw [Literal.parseDict_eq]
    exact Capture.parseDict_returned (Nat.le_refl _)
  matchFinger := by
    simp only [Literal.matchFinger_eq]
    exact matchFinger_waits w
  average devices s p t probed raw := by
    have supported := Sensor.probe_supported probed
    rw [Literal.average_eq supported]
    exact Calibration.average_returned supported raw
  processCalibrationResults devices s p t probed calib cooked := by
    have wide := supported_wide (Sensor.probe_supported probed)
    rw [Literal.processCalibrationResults_eq wide]
    exact Calibration.processCalibrationResults_returned wide calib cooked

/-- A sensor of the first row, one trim among its factory values: an image that is too short for
a frame is refused. -/
theorem replies_return_short : ∃ p,
    Yields (Sensor.probe (Sensor.sensor71 [(3, [0, 0, 0, 0, 1])]) Sensor.devices71) () p () ∧
      Returned (Literal.average [7] p.toSensorConfig).kind := by
  have fits : ∀ entry ∈ [((3 : UInt16), ([0, 0, 0, 0, 1] : Bytes))], entry.2.length < 65536 := by
    intro entry mem
    obtain rfl := List.mem_singleton.mp mem
    decide
  have probed := Sensor.probe_sensor71 fits (show 1 < 2 ^ 32 by decide) rfl
  exact ⟨_, probed, (replies_return Tls.plainPrimitives vendorCurve _).average _ _ _ _ probed [7]⟩

end NoPanic

end ValidityFprintd
