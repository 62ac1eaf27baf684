import ValidityFprintd.Agreement
import ValidityFprintd.DriverAlike
import ValidityFprintd.Handle
import ValidityFprintd.SensorFamily

/-! The driver over a session it opened itself: whatever is done there one after another ends as it
would on a bare wire to the same sensor, and leaves the sensor as it would. -/

namespace ValidityFprintd.Likeness
open Effect Crypto Tls

/-- What the daemon and the tools do over a session. -/
inductive Job where
  | probe (devices : List Sensor.DeviceInfo)
  | calibrate (cfg : SensorConfig) (iterations : UInt32)
  | list (passwd : Except String Text) (username : Text)
  | verify (passwd : Except String Text) (username : Text) (mine : Option Nat) (fuel : Nat)
      (calib : Calibration) (cfg : SensorConfig) (timeout : Nat)
  | enroll (passwd : Except String Text) (username : Text) (mine : Option Nat) (fuel : Nat)
      (handle : Device.Handle) (finger : String) (timeout : Nat)
  | delete (passwd : Except String Text) (username : Text)
  | baseline (blob : WriteEnable) (cfg : SensorConfig) (iterations : UInt32) (write force : Bool)
  | firmware (devices : List Sensor.DeviceInfo) (blob : WriteEnable) (fwext : Bytes)
  | shutdown

inductive Answer where
  | probed (cfg : Sensor.Probed)
  | calibrated (calib : Calibration)
  | fingers (names : List String)
  | verified (outcome : Device.VerifyOutcome)
  | enrolled (dbid : UInt16)
  | deleted (fingers : Nat)
  | uploaded (done : Bool)
  | done

section Work

variable {S : Type} (C : Primitives) (w : Usb.World S)

def Job.run : Job → Usb.Drv S Answer
  | probe devices => Sensor.probe w devices >>= fun cfg => Act.ret (.probed cfg)
  | calibrate cfg iterations =>
    Calibration.calibrate w cfg iterations ⟨[]⟩ >>= fun calib => Act.ret (.calibrated calib)
  | list passwd username =>
    Device.listEnrolledFingers w passwd username >>= fun names => Act.ret (.fingers names)
  | verify passwd username mine fuel calib cfg timeout =>
    Device.verify w passwd username mine fuel calib cfg timeout >>= fun outcome =>
      Act.ret (.verified outcome)
  | enroll passwd username mine fuel handle finger timeout =>
    Device.enroll w passwd username mine fuel handle finger timeout >>= fun dbid =>
      Act.ret (.enrolled dbid)
  | delete passwd username =>
    Device.deleteEnrolledFingers w passwd username >>= fun n => Act.ret (.deleted n)
  | baseline blob cfg iterations write force =>
    Baseline.baselineTool C w blob cfg iterations write force >>= fun _ => Act.ret .done
  | firmware devices blob fwext =>
    Firmware.upload w devices blob fwext >>= fun done => Act.ret (.uploaded done)
  | shutdown => Device.shutdown w >>= fun _ => Act.ret .done

def work : List Job → Usb.Drv S (List (Except String Answer))
  | [] => Act.ret []
  | job :: jobs => do
    let answer ← Act.attempt (job.run C w)
    let answers ← work jobs
    Act.ret (answer :: answers)

end Work

section Alike

variable {S T : Type} {p : Exchange Usb.Query.Answer → Prop} {R : S → T → Prop}
  {w : Usb.World S} {v : Usb.World T} (sim : w.Simulates p R v)

include sim

theorem deviceEnroll_alike (passwd : Except String Text) (username : Text) (mine : Option Nat)
    (fuel : Nat) (handle : Device.Handle) (finger : String) (timeout : Nat) :
    Alike p R (Device.enroll w passwd username mine fuel handle finger timeout)
      (Device.enroll v passwd username mine fuel handle finger timeout) :=
  .bind (.lift _) fun _ => .bind (.ofOutcome _) fun _ => enroll_alike sim _ _

theorem job_alike (C : Primitives) (job : Job) : Alike p R (job.run C w) (job.run C v) := by
  cases job with
  | probe devices => exact .bind (probe_alike sim _) fun _ => .ret _
  | calibrate cfg iterations => exact .bind (calibrate_alike sim _ _ _) fun _ => .ret _
  | list passwd username => exact .bind (listEnrolledFingers_alike sim _ _) fun _ => .ret _
  | verify passwd username mine fuel calib cfg timeout =>
    exact .bind (verify_alike sim _ _ _ _ _ _ _) fun _ => .ret _
  | enroll passwd username mine fuel handle finger timeout =>
    exact .bind (deviceEnroll_alike sim _ _ _ _ _ _ _) fun _ => .ret _
  | delete passwd username => exact .bind (deleteEnrolledFingers_alike sim _ _) fun _ => .ret _
  | baseline blob cfg iterations write force =>
    exact .bind (baselineTool_alike sim C _ _ _ _ _) fun _ => .ret _
  | firmware devices blob fwext => exact .bind (upload_alike sim _ _ _) fun _ => .ret _
  | shutdown => exact .bind (.ignore (cmd_alike sim _)) fun _ => .ret _

theorem work_alike (C : Primitives) (jobs : List Job) :
    Alike p R (work C w jobs) (work C v jobs) := by
  induction jobs with
  | nil => exact .ret []
  | cons job jobs ih =>
    exact .bind (.attempt (job_alike sim C job)) fun _ => .bind ih fun _ => .ret _

end Alike

/-- A session with the sensor that issued the pairing record can be opened, and over it jobs end
one after another as they do on the bare wire, having heard the same and leaving the sensor in the
same state, as long as each command and each reply fits in a record. -/
theorem session_transparent {C : Primitives} (cbc : CbcInverts C) {T : Type} {a : Authority}
    {v : Usb.World T} {l : Link (Far T)} (issued : Issued C a l.tls.material)
    (clear : l.env.phase = .clear) :
    ∃ l', Yields (openSession C (far C a v)) l () l' ∧
      ∀ jobs, Admits Short (work C v jobs l.env.sensor).log →
        (work C (transport C (far C a v)) jobs l').out = (work C v jobs l.env.sensor).out ∧
        (work C (transport C (far C a v)) jobs l').state.env.sensor =
          (work C v jobs l.env.sensor).state ∧
        dialogue (work C (transport C (far C a v)) jobs l').log =
          dialogue (work C v jobs l.env.sensor).log := by
  obtain ⟨l', opened, joined⟩ := openSession_agrees (v := v) cbc issued clear
  refine ⟨l', opened, fun jobs short => ?_⟩
  obtain ⟨out, after, heard⟩ := work_alike (far_simulates cbc) C jobs l' _ joined short
  exact ⟨out, after.1, heard⟩

theorem issued_plain : Issued plainPrimitives ⟨[], fun _ _ _ => true⟩ fresh.material where
  agrees := fun _ => rfl
  signs := ⟨[], rfl, fun _ => ⟨[], rfl, by decide, rfl⟩⟩
  point := fun _ => Nat.zero_le 65
  cert := by decide

/-- The sensor probed and rebooted over a session. -/
theorem session_transparent_probe : ∃ l',
    Yields (openSession plainPrimitives (far plainPrimitives ⟨[], fun _ _ _ => true⟩
      (Sensor.sensor71 [(3, [0, 0, 0, 0, 9])]))) ⟨fresh, ⟨.clear, fun _ => 0, ()⟩⟩ () l' ∧
    (work plainPrimitives (transport plainPrimitives (far plainPrimitives ⟨[], fun _ _ _ => true⟩
      (Sensor.sensor71 [(3, [0, 0, 0, 0, 9])]))) [.probe Sensor.devices71, .shutdown] l').out =
        (work plainPrimitives (Sensor.sensor71 [(3, [0, 0, 0, 0, 9])])
          [.probe Sensor.devices71, .shutdown] ()).out := by
  obtain ⟨l', opened, same⟩ := session_transparent (C := plainPrimitives) plain_inverts
    (v := Sensor.sensor71 [(3, [0, 0, 0, 0, 9])]) (l := ⟨fresh, ⟨.clear, fun _ => 0, ()⟩⟩)
    issued_plain rfl
  have short : Admits Short (work plainPrimitives (Sensor.sensor71 [(3, [0, 0, 0, 0, 9])])
      [.probe Sensor.devices71, .shutdown] ()).log := by
    decide +kernel
  exact ⟨l', opened, (same _ short).1⟩

end ValidityFprintd.Likeness
