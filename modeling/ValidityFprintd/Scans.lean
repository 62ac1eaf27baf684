import ValidityFprintd.Enroll
import ValidityFprintd.Reach

/-! The sensor's side of an enrolment: which answers, one after the other, carry a scan through.
It is said of the world alone, query by query; that the driver takes such a scan for accepted, and
no other, is what is proved about it. -/

namespace ValidityFprintd.Scans
open Effect Capture Enroll

variable {S : Type} (w : Usb.World S)

/-- The command is answered with the status of success. -/
def Accepts (out : Bytes) (s : S) (rsp : Bytes) (t : S) : Prop :=
  w (.cmd out) s = (.ok rsp, t) ∧ Usb.checkStatus rsp = .ok ()

/-- A poll hears an interrupt, or times out while there is still time. -/
def Polled (deadline : Nat) (s : S) : Unit ⊕ Bytes → S → Prop
  | .inr b, t => w .pollInterrupt s = (.ok (some b), t)
  | .inl _, t => ∃ u time, w .pollInterrupt s = (.ok none, u) ∧ w .now u = (time, t) ∧
      time < deadline

/-- An interrupt comes before the deadline. -/
def Interrupts (deadline : Nat) (s : S) (b : Bytes) (t : S) : Prop :=
  Repeats (fun _ => Polled w deadline) () s b t

/-- A look at the counter of operations finds this one current. -/
def GoesOn : Option Nat → S → S → Prop
  | none, s, t => s = t
  | some op, s, t => w .current s = (op, t)

/-- A poll feels the finger, or goes by without it. -/
def FingerPolled (mine : Option Nat) (deadline : Nat) (s : S) : Unit ⊕ Unit → S → Prop
  | .inr _, t => ∃ u b, GoesOn w mine s u ∧ w .pollInterrupt u = (.ok (some b), t) ∧
      b.head? = some 2
  | .inl _, t => ∃ u, GoesOn w mine s u ∧
      ((∃ b, w .pollInterrupt u = (.ok (some b), t) ∧ b.head? ≠ some 2) ∨
        ∃ v time, w .pollInterrupt u = (.ok none, v) ∧ w .now v = (time, t) ∧ time < deadline)

/-- A finger is presented before the deadline. -/
def Touched (mine : Option Nat) (deadline : Nat) (s t : S) : Prop :=
  Repeats (fun _ => FingerPolled w mine deadline) () s () t

/-- The interrupt says that the scan is complete. -/
def ScanComplete (b : Bytes) : Prop := ∃ v, b[2]? = some v ∧ v &&& 4 ≠ 0

def ScanPolled (deadline : Nat) (s : S) : Unit ⊕ Unit → S → Prop
  | .inr _, t => ∃ b, Interrupts w deadline s b t ∧ b.head? = some 3 ∧ ScanComplete b
  | .inl _, t => ∃ b, Interrupts w deadline s b t ∧ b.head? = some 3 ∧ ¬ ScanComplete b

/-- The scan completes, each of its interrupts before the deadline. -/
def Scanned (deadline : Nat) (s t : S) : Prop :=
  Repeats (fun _ => ScanPolled w deadline) () s () t

/-- The sensor starts a capture, feels a finger, completes the scan and reports no error. -/
def Captured (r : Request) (s t : S) : Prop :=
  ∃ cmd rsp s1 start s2 b s3 armed s4 s5 touched s6 s7 status s8 result,
    r.calib.buildCmd02 .enroll r.cfg = .ok cmd ∧ Accepts w cmd s rsp s1 ∧
    w .now s1 = (start, s2) ∧ Interrupts w (start + 5000) s2 b s3 ∧ b.head? = some 0 ∧
    w .now s3 = (armed, s4) ∧ Touched w r.mine (armed + r.fingerTimeout) s4 s5 ∧
    w .now s5 = (touched, s6) ∧ Scanned w (touched + 15000) s6 s7 ∧
    Accepts w [0x51, 0x00, 0x20, 0x00, 0x00] s7 status s8 ∧
    parseCaptureStatus (status.drop 2) = .ok result ∧ (w (.cmd [0x04]) s8).2 = t

/-- The sensor opens an update and hands out its next key. -/
def Updates (key : UInt32) (s : S) (key' : UInt32) (t : S) : Prop :=
  ∃ rsp s1 start s2 b, Accepts w (0x68 :: (Bytes.le32 key ++ Bytes.le32 0)) s rsp s1 ∧
    6 ≤ rsp.length ∧ Bytes.rd32 (ε := String) rsp 2 = .ok key' ∧ w .now s1 = (start, s2) ∧
    Interrupts w (start + 5000) s2 b t

/-- The sensor takes the template, and commits. -/
def Feeds (blob : WriteEnable) (template : Bytes) (s : S) (reply : Bytes) (t : S) : Prop :=
  ∃ unlocked s1 rsp s2 committed, Accepts w blob.val s unlocked s1 ∧
    Accepts w (0x6b :: template) s1 rsp s2 ∧ rsp.drop 2 = reply ∧
    w (.cmd [0x1a]) s2 = (.ok committed, t) ∧
    (Usb.statusIs Flash.statusNothingToCommit committed = true ∨
      Usb.checkStatus committed = .ok ())

/-- The sensor adds the image to the template. -/
def Appends (blob : WriteEnable) (template : Bytes) (s : S) (records : Records) (t : S) : Prop :=
  ∃ reply s1 start s2 b s3 res, Feeds w blob template s reply s1 ∧ w .now s1 = (start, s2) ∧
    Interrupts w (start + 10000) s2 b s3 ∧ Feeds w blob template s3 res t ∧
    parseUpdate res = .ok records

/-- A scan that the sensor carries through, from the capture to the new template. -/
def CarriesThrough (r : Request) (key : UInt32) (template : Bytes) (s : S) (key' : UInt32)
    (records : Records) (t : S) : Prop :=
  ∃ s1 s2, Captured w r s s1 ∧ Updates w key s1 key' s2 ∧ Appends w r.blob template s2 records t

/-- An accepted scan of an enrolment, between the lights and the end of its update. What answers
those two get does not matter. -/
def Accepted (r : Request) (stage : Nat) (key : UInt32) (template : Bytes) (s : S) (key' : UInt32)
    (records : Records) (t : S) : Prop :=
  ∃ u, CarriesThrough w r key template (w (.cmd glowStartScanCmd) s).2 key' records u ∧
    (w (.onStage (stage + 1) none) (w (.cmd (0x69 :: Bytes.le32 0)) u).2).2 = t

/-- No scan fails: one after the other is accepted, until the sensor hands out a template id or
has accepted `maxStages` of them. -/
inductive NeverFails (r : Request) : Nat → UInt32 → Bytes → S → Prop
  | full {stage : Nat} {key : UInt32} {template : Bytes} {s : S} :
      maxStages ≤ stage → NeverFails r stage key template s
  | last {stage : Nat} {key key' : UInt32} {template : Bytes} {records : Records} {s t : S} :
      Accepted w r stage key template s key' records t → records.tid ≠ [] →
      NeverFails r stage key template s
  | more {stage : Nat} {key key' : UInt32} {template : Bytes} {records : Records} {s t : S} :
      Accepted w r stage key template s key' records t → records.tid = [] →
      NeverFails r (stage + 1) key' records.template t → NeverFails r stage key template s

section Waits

variable {w} {deadline : Nat} {s t : S}

theorem pollInterrupt_yields {b : Option Bytes} :
    Yields (Usb.pollInterrupt w) s b t ↔ w .pollInterrupt s = (.ok b, t) := by
  simp only [Usb.pollInterrupt, Yields.bind_iff, World.ask_yields, Yields.lift_iff]
  constructor
  · rintro ⟨a, u, h, rfl, rfl⟩
    exact h
  · intro h
    exact ⟨_, _, h, rfl, rfl⟩

theorem now_yields {time : Nat} : Yields (Usb.now w) s time t ↔ w .now s = (time, t) :=
  World.ask_yields

theorem waitIntStep_yields {r : Unit ⊕ Bytes} :
    Yields (waitIntStep w deadline) s r t ↔ Polled w deadline s r t := by
  unfold waitIntStep
  rw [Yields.bind_iff]
  constructor
  · rintro ⟨b, u, polled, rest⟩
    rw [pollInterrupt_yields] at polled
    cases b with
    | some b =>
      obtain ⟨rfl, rfl⟩ := Yields.ret_iff.mp rest
      exact polled
    | none =>
      obtain ⟨time, v, clock, rest⟩ := Yields.bind_iff.mp rest
      obtain ⟨_, _, passed, rest⟩ := Yields.bind_iff.mp rest
      obtain ⟨early, rfl⟩ := Yields.bailIf_iff.mp passed
      obtain ⟨rfl, rfl⟩ := Yields.ret_iff.mp rest
      exact ⟨u, time, polled, now_yields.mp clock, Nat.not_le.mp early⟩
  · intro h
    cases r with
    | inr b => exact ⟨some b, t, pollInterrupt_yields.mpr h, rfl, rfl⟩
    | inl =>
      obtain ⟨u, time, polled, clock, early⟩ := h
      refine ⟨none, u, pollInterrupt_yields.mpr polled, ?_⟩
      refine Yields.bind_iff.mpr ⟨time, t, now_yields.mpr clock, ?_⟩
      exact Yields.bind_iff.mpr
        ⟨(), t, Yields.bailIf_iff.mpr ⟨Nat.not_le.mpr early, rfl⟩, rfl, rfl⟩

theorem waitInt_reaches {b : Bytes} :
    Reaches (fun n => waitInt w n deadline) s b t ↔ Interrupts w deadline s b t := by
  unfold waitInt Interrupts
  rw [Reaches.loop_iff fun _ => .const _]
  exact Repeats.congr fun _ _ _ _ => Reaches.const_iff.trans waitIntStep_yields

theorem stopped_yields {mine : Option Nat} :
    Yields (stopped w mine) s false t ↔ GoesOn w mine s t := by
  cases mine with
  | none => exact Yields.ret_iff.trans (and_iff_right rfl)
  | some op =>
    rw [stopped, Yields.bind_iff]
    simp only [World.ask_yields, Yields.ret_iff, GoesOn, decide_eq_false_iff_not, ne_eq, not_not]
    constructor
    · rintro ⟨current, u, look, rfl, rfl⟩
      exact look
    · intro look
      exact ⟨op, t, look, rfl, rfl⟩

theorem awaitFingerStep_yields {mine : Option Nat} {r : Unit ⊕ Unit} :
    Yields (awaitFingerStep w mine deadline) s r t ↔ FingerPolled w mine deadline s r t := by
  unfold awaitFingerStep pollFinger
  constructor
  · intro run
    obtain ⟨isStopped, u, look, run⟩ := Yields.bind_iff.mp run
    obtain ⟨_, _, checked, polls⟩ := Yields.bind_iff.mp run
    obtain ⟨going, rfl⟩ := Yields.bailIf_iff.mp checked
    rw [Bool.not_eq_true] at going
    rw [going, stopped_yields] at look
    obtain ⟨b, v, polled, rest⟩ := Yields.bind_iff.mp polls
    rw [pollInterrupt_yields] at polled
    cases b with
    | none =>
      obtain ⟨time, x, clock, rest⟩ := Yields.bind_iff.mp rest
      obtain ⟨_, _, passed, rest⟩ := Yields.bind_iff.mp rest
      obtain ⟨early, rfl⟩ := Yields.bailIf_iff.mp passed
      obtain ⟨rfl, rfl⟩ := Yields.ret_iff.mp rest
      exact ⟨u, look, .inr ⟨v, time, polled, now_yields.mp clock, Nat.not_le.mp early⟩⟩
    | some b =>
      dsimp only at rest
      split at rest
      · rename_i finger
        obtain ⟨rfl, rfl⟩ := Yields.ret_iff.mp rest
        exact ⟨u, b, look, polled, finger⟩
      · rename_i other
        obtain ⟨rfl, rfl⟩ := Yields.ret_iff.mp rest
        exact ⟨u, look, .inl ⟨b, polled, other⟩⟩
  · intro h
    have going : ∀ {u}, GoesOn w mine s u → ∀ {x : Usb.Drv S (Unit ⊕ Unit)}, Yields x u r t →
        Yields (stopped w mine >>= fun isStopped =>
          Act.bailIf (isStopped = true) "stopped" >>= fun _ => x) s r t := by
      intro u look x run
      refine Yields.bind_iff.mpr ⟨false, u, stopped_yields.mpr look, ?_⟩
      exact Yields.bind_iff.mpr ⟨(), u, Yields.bailIf_iff.mpr ⟨Bool.false_ne_true, rfl⟩, run⟩
    cases r with
    | inr =>
      obtain ⟨u, b, look, polled, finger⟩ := h
      refine going look (Yields.bind_iff.mpr ⟨some b, t, pollInterrupt_yields.mpr polled, ?_⟩)
      dsimp only
      rw [if_pos finger]
      exact Yields.ret_iff.mpr ⟨rfl, rfl⟩
    | inl =>
      obtain ⟨u, look, ⟨b, polled, other⟩ | ⟨v, time, polled, clock, early⟩⟩ := h
      · refine going look (Yields.bind_iff.mpr ⟨some b, t, pollInterrupt_yields.mpr polled, ?_⟩)
        dsimp only
        rw [if_neg other]
        exact Yields.ret_iff.mpr ⟨rfl, rfl⟩
      · refine going look (Yields.bind_iff.mpr ⟨none, v, pollInterrupt_yields.mpr polled, ?_⟩)
        refine Yields.bind_iff.mpr ⟨time, t, now_yields.mpr clock, ?_⟩
        exact Yields.bind_iff.mpr
          ⟨(), t, Yields.bailIf_iff.mpr ⟨Nat.not_le.mpr early, rfl⟩, rfl, rfl⟩

theorem awaitFinger_reaches {mine : Option Nat} :
    Reaches (fun n => awaitFinger w mine n deadline) s () t ↔ Touched w mine deadline s t := by
  unfold awaitFinger Touched
  rw [Reaches.loop_iff fun _ => .const _]
  exact Repeats.congr fun _ _ _ _ => Reaches.const_iff.trans awaitFingerStep_yields

theorem waitInt_grows : Grows fun n => waitInt w n deadline := .loop (fun _ => .const _) ()

theorem awaitScanStep_grows : Grows fun n => awaitScanStep w n deadline :=
  .bind waitInt_grows fun _ => .const _

theorem awaitScanStep_reaches {r : Unit ⊕ Unit} :
    Reaches (fun n => awaitScanStep w n deadline) s r t ↔ ScanPolled w deadline s r t := by
  unfold awaitScanStep
  refine (Reaches.bind_iff waitInt_grows ?_).trans ?_
  · exact fun _ => .const _
  simp only [waitInt_reaches, Reaches.const_iff, Yields.bind_iff, Yields.bailIf_iff, ne_eq, not_not]
  constructor
  · rintro ⟨b, _, waited, _, _, ⟨third, rfl⟩, rest⟩
    split at rest
    · rename_i v found
      split at rest
      · rename_i complete
        obtain ⟨rfl, rfl⟩ := Yields.ret_iff.mp rest
        exact ⟨b, waited, third, v, found, complete⟩
      · rename_i incomplete
        obtain ⟨rfl, rfl⟩ := Yields.ret_iff.mp rest
        refine ⟨b, waited, third, ?_⟩
        rintro ⟨v', found', complete⟩
        rw [found] at found'
        cases found'
        exact incomplete complete
    · rename_i short
      obtain ⟨rfl, rfl⟩ := Yields.ret_iff.mp rest
      refine ⟨b, waited, third, ?_⟩
      rintro ⟨v, found, _⟩
      rw [short] at found
      cases found
  · intro h
    cases r with
    | inr =>
      obtain ⟨b, waited, third, v, found, complete⟩ := h
      refine ⟨b, t, waited, (), t, ⟨third, rfl⟩, ?_⟩
      rw [found]
      dsimp only
      rw [if_pos complete]
      exact Yields.ret_iff.mpr ⟨rfl, rfl⟩
    | inl =>
      obtain ⟨b, waited, third, incomplete⟩ := h
      refine ⟨b, t, waited, (), t, ⟨third, rfl⟩, ?_⟩
      cases found : b[2]? with
      | none => exact Yields.ret_iff.mpr ⟨rfl, rfl⟩
      | some v =>
        dsimp only
        rw [if_neg fun complete => incomplete ⟨v, found, complete⟩]
        exact Yields.ret_iff.mpr ⟨rfl, rfl⟩

theorem awaitScan_reaches :
    Reaches (fun n => awaitScan w n deadline) s () t ↔ Scanned w deadline s t := by
  unfold awaitScan Scanned
  rw [Reaches.loop_iff fun _ => awaitScanStep_grows]
  exact Repeats.congr fun _ _ _ _ => awaitScanStep_reaches

theorem awaitFinger_grows {mine : Option Nat} : Grows fun n => awaitFinger w mine n deadline :=
  .loop (fun _ => .const _) ()

theorem awaitScan_grows : Grows fun n => awaitScan w n deadline :=
  .loop (fun _ => awaitScanStep_grows) ()

end Waits

section Round

variable {w} {s t : S}

theorem exchange_yields {out : Bytes} {c : String} :
    Yields (Usb.exchange w out c) s () t ↔ ∃ rsp, Accepts w out s rsp t := by
  simp only [Usb.exchange, Yields.bind_iff, Usb.request_yields, Yields.ret_iff, true_and]
  constructor
  · rintro ⟨rsp, _, accepted, rfl⟩
    exact ⟨rsp, accepted⟩
  · rintro ⟨rsp, accepted⟩
    exact ⟨rsp, t, accepted, rfl⟩

theorem ignore_cmd_yields {out : Bytes} :
    Yields (Act.ignore (Usb.cmd w out)) s () t ↔ (w (.cmd out) s).2 = t := by
  have run : Act.ignore (Usb.cmd w out) s =
      Act.follow (Act.attempt (Usb.cmd w out) s) fun _ => Act.ret () := rfl
  have sent : Usb.cmd w out s = Act.follow (w.ask (.cmd out) s) Act.lift := rfl
  rw [Yields, run, Act.attempt, sent, World.ask_run, Act.follow_ok]
  cases (w (.cmd out) s).1 <;> exact and_iff_right rfl

theorem ignore_exchange_yields {out : Bytes} {c : String} :
    Yields (Act.ignore (Usb.exchange w out c)) s () t ↔ (w (.cmd out) s).2 = t := by
  have step : Act.ignore (Usb.exchange w out c) s =
      Act.follow (Act.attempt (Usb.exchange w out c) s) fun _ => Act.ret () := rfl
  have left : (Usb.exchange w out c s).state = (w (.cmd out) s).2 := by
    have run : Usb.cmd w out s = Act.follow (w.ask (.cmd out) s) Act.lift := rfl
    have req : Usb.exchange w out c s =
        Act.follow (Act.follow (Usb.cmd w out s) fun rsp =>
          Act.mapErr (Usb.context c) (Usb.check rsp) >>= fun _ => Act.ret rsp) fun _ =>
            Act.ret () := rfl
    rw [req, run, World.ask_run, Act.follow_ok]
    cases (w (.cmd out) s).1 with
    | error e => rfl
    | ok rsp =>
      simp only [Act.lift, Act.ret, Act.follow_ok, Act.bind_run, Usb.checked_run]
      cases Usb.checkStatus rsp <;> rfl
  obtain ⟨e, u, _, ⟨_, run⟩ | ⟨_, err, run⟩⟩ := Usb.exchange_run w out c s
  · rw [run] at left
    rw [Yields, step, Act.attempt, run, ← left]
    exact and_iff_right rfl
  · rw [run] at left
    rw [Yields, step, Act.attempt, run, ← left]
    exact and_iff_right rfl

theorem scan_reaches {mine : Option Nat} {cmd : Bytes} {fingerTimeout : Nat}
    {result : CaptureResult} : Reaches (fun n => scan w mine n cmd fingerTimeout) s result t ↔
      ∃ rsp s1 start s2 b s3 armed s4 s5 touched s6 s7 status, Accepts w cmd s rsp s1 ∧
        w .now s1 = (start, s2) ∧ Interrupts w (start + 5000) s2 b s3 ∧ b.head? = some 0 ∧
        w .now s3 = (armed, s4) ∧ Touched w mine (armed + fingerTimeout) s4 s5 ∧
        w .now s5 = (touched, s6) ∧ Scanned w (touched + 15000) s6 s7 ∧
        Accepts w [0x51, 0x00, 0x20, 0x00, 0x00] s7 status t ∧
        parseCaptureStatus (status.drop 2) = .ok result := by
  constructor
  · rintro ⟨n, run⟩
    obtain ⟨_, s1, starts, run1⟩ := Yields.bind_iff.mp run
    obtain ⟨rsp, started⟩ := exchange_yields.mp starts
    obtain ⟨start, s2, clock1, run2⟩ := Yields.bind_iff.mp run1
    obtain ⟨b, s3, ready, run3⟩ := Yields.bind_iff.mp run2
    obtain ⟨_, _, checked, run4⟩ := Yields.bind_iff.mp run3
    obtain ⟨first, rfl⟩ := Yields.bailIf_iff.mp checked
    obtain ⟨armed, s4, clock2, run5⟩ := Yields.bind_iff.mp run4
    obtain ⟨_, s5, felt, run6⟩ := Yields.bind_iff.mp run5
    obtain ⟨touched, s6, clock3, run7⟩ := Yields.bind_iff.mp run6
    obtain ⟨_, s7, scanned, run8⟩ := Yields.bind_iff.mp run7
    obtain ⟨status, _, told, last⟩ := Yields.bind_iff.mp run8
    obtain ⟨parsed, rfl⟩ := Yields.ofOutcome_iff.mp last
    exact ⟨rsp, s1, start, s2, b, s3, armed, s4, s5, touched, s6, s7, status, started,
      now_yields.mp clock1, waitInt_reaches.mp ⟨n, ready⟩, not_not.mp first,
      now_yields.mp clock2, awaitFinger_reaches.mp ⟨n, felt⟩, now_yields.mp clock3,
      awaitScan_reaches.mp ⟨n, scanned⟩, Usb.request_yields.mp told, parsed⟩
  · rintro ⟨rsp, s1, start, s2, b, s3, armed, s4, s5, touched, s6, s7, status, started, clock1,
      ready, first, clock2, felt, clock3, scanned, told, parsed⟩
    obtain ⟨n, ready⟩ := waitInt_reaches.mpr ready
    obtain ⟨m, felt⟩ := awaitFinger_reaches.mpr felt
    obtain ⟨k, scanned⟩ := awaitScan_reaches.mpr scanned
    refine ⟨max n (max m k), Yields.bind_iff.mpr ⟨(), s1, exchange_yields.mpr ⟨rsp, started⟩, ?_⟩⟩
    refine Yields.bind_iff.mpr ⟨start, s2, now_yields.mpr clock1, ?_⟩
    refine Yields.bind_iff.mpr ⟨b, s3, waitInt_grows.yields (by omega) ready, ?_⟩
    refine Yields.bind_iff.mpr ⟨(), s3, Yields.bailIf_iff.mpr ⟨not_not.mpr first, rfl⟩, ?_⟩
    refine Yields.bind_iff.mpr ⟨armed, s4, now_yields.mpr clock2, ?_⟩
    refine Yields.bind_iff.mpr ⟨(), s5, awaitFinger_grows.yields (by omega) felt, ?_⟩
    refine Yields.bind_iff.mpr ⟨touched, s6, now_yields.mpr clock3, ?_⟩
    refine Yields.bind_iff.mpr ⟨(), s7, awaitScan_grows.yields (by omega) scanned, ?_⟩
    exact Yields.bind_iff.mpr ⟨status, t, Usb.request_yields.mpr told, parsed, rfl⟩

theorem capture_reaches {r : Request} : (∃ result, Reaches (fun n =>
    capture w r.mine n r.calib r.cfg .enroll r.fingerTimeout) s result t) ↔ Captured w r s t := by
  constructor
  · rintro ⟨result, n, run⟩
    obtain ⟨cmd, _, builds, run1⟩ := Yields.bind_iff.mp run
    obtain ⟨built, rfl⟩ := Yields.ofOutcome_iff.mp builds
    obtain ⟨tried, s8, attempted, run2⟩ := Yields.bind_iff.mp run1
    obtain ⟨_, _, stops, last⟩ := Yields.bind_iff.mp run2
    obtain ⟨rfl, rfl⟩ := Yields.lift_iff.mp last
    obtain ⟨rsp, s1, start, s2, b, s3, armed, s4, s5, touched, s6, s7, status, scanned⟩ :=
      scan_reaches.mp ⟨n, Yields.attempt_ok_iff.mp attempted⟩
    obtain ⟨started, clock1, ready, first, clock2, felt, clock3, ended, told, parsed⟩ := scanned
    exact ⟨cmd, rsp, s1, start, s2, b, s3, armed, s4, s5, touched, s6, s7, status, s8, result,
      built, started, clock1, ready, first, clock2, felt, clock3, ended, told, parsed,
      ignore_cmd_yields.mp stops⟩
  · rintro ⟨cmd, rsp, s1, start, s2, b, s3, armed, s4, s5, touched, s6, s7, status, s8, result,
      built, started, clock1, ready, first, clock2, felt, clock3, ended, told, parsed, stops⟩
    obtain ⟨n, scanned⟩ := scan_reaches.mpr ⟨rsp, s1, start, s2, b, s3, armed, s4, s5, touched, s6,
      s7, status, started, clock1, ready, first, clock2, felt, clock3, ended, told, parsed⟩
    refine ⟨result, n, Yields.bind_iff.mpr ⟨cmd, s, Yields.ofOutcome_iff.mpr ⟨built, rfl⟩, ?_⟩⟩
    refine Yields.bind_iff.mpr ⟨.ok result, s8, Yields.attempt_ok_iff.mpr scanned, ?_⟩
    exact Yields.bind_iff.mpr ⟨(), t, ignore_cmd_yields.mpr stops, Yields.lift_iff.mpr ⟨rfl, rfl⟩⟩

theorem enrollmentUpdateStart_reaches {key key' : UInt32} :
    Reaches (fun n => enrollmentUpdateStart w n key) s key' t ↔ Updates w key s key' t := by
  constructor
  · rintro ⟨n, run⟩
    obtain ⟨rsp, s1, opened, run1⟩ := Yields.bind_iff.mp run
    obtain ⟨_, _, checked, run2⟩ := Yields.bind_iff.mp run1
    obtain ⟨long, rfl⟩ := Yields.bailIf_iff.mp checked
    obtain ⟨_, _, reads, run3⟩ := Yields.bind_iff.mp run2
    obtain ⟨read, rfl⟩ := Yields.ofOutcome_iff.mp reads
    obtain ⟨start, s2, clock, run4⟩ := Yields.bind_iff.mp run3
    obtain ⟨b, _, waited, last⟩ := Yields.bind_iff.mp run4
    obtain ⟨rfl, rfl⟩ := Yields.ret_iff.mp last
    exact ⟨rsp, s1, start, s2, b, Usb.request_yields.mp opened, Nat.not_lt.mp long, read,
      now_yields.mp clock, waitInt_reaches.mp ⟨n, waited⟩⟩
  · rintro ⟨rsp, s1, start, s2, b, opened, long, read, clock, waited⟩
    obtain ⟨n, waited⟩ := waitInt_reaches.mpr waited
    refine ⟨n, Yields.bind_iff.mpr ⟨rsp, s1, Usb.request_yields.mpr opened, ?_⟩⟩
    refine Yields.bind_iff.mpr ⟨(), s1, Yields.bailIf_iff.mpr ⟨Nat.not_lt.mpr long, rfl⟩, ?_⟩
    refine Yields.bind_iff.mpr ⟨key', s1, Yields.ofOutcome_iff.mpr ⟨read, rfl⟩, ?_⟩
    refine Yields.bind_iff.mpr ⟨start, s2, now_yields.mpr clock, ?_⟩
    exact Yields.bind_iff.mpr ⟨b, t, waited, rfl, rfl⟩

theorem callCleanups_yields : Yields (Flash.callCleanups w) s () t ↔ ∃ committed,
    w (.cmd [0x1a]) s = (.ok committed, t) ∧
      (Usb.statusIs Flash.statusNothingToCommit committed = true ∨
        Usb.checkStatus committed = .ok ()) := by
  simp only [Flash.callCleanups, Yields.bind_iff, Usb.cmd_yields]
  refine exists_congr fun committed => ⟨?_, ?_⟩
  · rintro ⟨u, sent, rest⟩
    split at rest
    · rename_i nothing
      obtain ⟨_, rfl⟩ := Yields.ret_iff.mp rest
      exact ⟨sent, .inl nothing⟩
    · obtain ⟨passed, rfl⟩ := Yields.lift_iff.mp (Yields.mapErr_iff.mp rest)
      exact ⟨sent, .inr passed⟩
  · rintro ⟨sent, how⟩
    refine ⟨t, sent, ?_⟩
    split
    · exact Yields.ret_iff.mpr ⟨rfl, rfl⟩
    · rename_i something
      exact Yields.mapErr_iff.mpr (Yields.lift_iff.mpr ⟨how.resolve_left something, rfl⟩)

theorem feedTemplate_yields {template reply : Bytes} :
    Yields (feedTemplate w template) s reply t ↔
      ∃ rsp, Accepts w (0x6b :: template) s rsp t ∧ rsp.drop 2 = reply := by
  simp only [feedTemplate, Yields.bind_iff, Usb.request_yields]
  refine exists_congr fun rsp => ⟨?_, ?_⟩
  · rintro ⟨u, ⟨sent, passed⟩, rest⟩
    obtain ⟨tail, rfl⟩ := (Usb.checkStatus_ok_iff rsp).mp passed
    obtain ⟨rfl, rfl⟩ := Yields.ret_iff.mp rest
    exact ⟨⟨sent, passed⟩, rfl⟩
  · rintro ⟨⟨sent, passed⟩, rfl⟩
    obtain ⟨tail, rfl⟩ := (Usb.checkStatus_ok_iff rsp).mp passed
    exact ⟨t, ⟨sent, passed⟩, rfl, rfl⟩

theorem enrollmentUpdate_yields {blob : WriteEnable} {template reply : Bytes} :
    Yields (enrollmentUpdate w blob template) s reply t ↔ Feeds w blob template s reply t := by
  constructor
  · intro run
    obtain ⟨_, s1, unlocks, run1⟩ := Yields.bind_iff.mp run
    obtain ⟨unlocked, enabled⟩ := exchange_yields.mp unlocks
    obtain ⟨fed, s2, attempted, run2⟩ := Yields.bind_iff.mp run1
    obtain ⟨cleanup, s3, cleaned, run3⟩ := Yields.bind_iff.mp run2
    obtain ⟨_, _, lifted, run4⟩ := Yields.bind_iff.mp run3
    obtain ⟨rfl, rfl⟩ := Yields.lift_iff.mp lifted
    obtain ⟨_, _, lifted', last⟩ := Yields.bind_iff.mp run4
    obtain ⟨rfl, rfl⟩ := Yields.lift_iff.mp lifted'
    obtain ⟨rfl, rfl⟩ := Yields.ret_iff.mp last
    obtain ⟨rsp, taken, rfl⟩ := feedTemplate_yields.mp (Yields.attempt_ok_iff.mp attempted)
    obtain ⟨committed, sent, how⟩ := callCleanups_yields.mp (Yields.attempt_ok_iff.mp cleaned)
    exact ⟨unlocked, s1, rsp, s2, committed, enabled, taken, rfl, sent, how⟩
  · rintro ⟨unlocked, s1, rsp, s2, committed, enabled, taken, rfl, sent, how⟩
    refine Yields.bind_iff.mpr ⟨(), s1, exchange_yields.mpr ⟨unlocked, enabled⟩, ?_⟩
    refine Yields.bind_iff.mpr ⟨.ok (rsp.drop 2), s2,
      Yields.attempt_ok_iff.mpr (feedTemplate_yields.mpr ⟨rsp, taken, rfl⟩), ?_⟩
    refine Yields.bind_iff.mpr ⟨.ok (), t,
      Yields.attempt_ok_iff.mpr (callCleanups_yields.mpr ⟨committed, sent, how⟩), ?_⟩
    refine Yields.bind_iff.mpr ⟨_, t, Yields.lift_iff.mpr ⟨rfl, rfl⟩, ?_⟩
    exact Yields.bind_iff.mpr ⟨(), t, Yields.lift_iff.mpr ⟨rfl, rfl⟩, rfl, rfl⟩

theorem appendNewImage_reaches {blob : WriteEnable} {template : Bytes} {records : Records} :
    Reaches (fun n => appendNewImage w n blob template) s records t ↔
      Appends w blob template s records t := by
  constructor
  · rintro ⟨n, run⟩
    obtain ⟨reply, s1, fed, run1⟩ := Yields.bind_iff.mp run
    obtain ⟨start, s2, clock, run2⟩ := Yields.bind_iff.mp run1
    obtain ⟨b, s3, waited, run3⟩ := Yields.bind_iff.mp run2
    obtain ⟨res, _, fed', last⟩ := Yields.bind_iff.mp run3
    obtain ⟨parsed, rfl⟩ := Yields.ofOutcome_iff.mp last
    exact ⟨reply, s1, start, s2, b, s3, res, enrollmentUpdate_yields.mp fed, now_yields.mp clock,
      waitInt_reaches.mp ⟨n, waited⟩, enrollmentUpdate_yields.mp fed', parsed⟩
  · rintro ⟨reply, s1, start, s2, b, s3, res, fed, clock, waited, fed', parsed⟩
    obtain ⟨n, waited⟩ := waitInt_reaches.mpr waited
    refine ⟨n, Yields.bind_iff.mpr ⟨reply, s1, enrollmentUpdate_yields.mpr fed, ?_⟩⟩
    refine Yields.bind_iff.mpr ⟨start, s2, now_yields.mpr clock, ?_⟩
    refine Yields.bind_iff.mpr ⟨b, s3, waited, ?_⟩
    exact Yields.bind_iff.mpr ⟨res, t, enrollmentUpdate_yields.mpr fed', parsed, rfl⟩

/-! Fuel: what has returned returns the same with more of it. -/

theorem scan_grows {mine : Option Nat} {cmd : Bytes} {fingerTimeout : Nat} :
    Grows fun n => scan w mine n cmd fingerTimeout := by
  refine .bind (.const _) fun _ => .bind (.const _) fun start => .bind waitInt_grows fun b => ?_
  refine .bind (.const _) fun _ => .bind (.const _) fun armed => ?_
  refine .bind awaitFinger_grows fun _ => .bind (.const _) fun touched => ?_
  exact .bind awaitScan_grows fun _ => .const _

theorem capture_grows {r : Request} :
    Grows fun n => capture w r.mine n r.calib r.cfg .enroll r.fingerTimeout :=
  .bind (.const _) fun _ => .bind scan_grows.attempt fun _ => .const _

theorem enrollmentUpdateStart_grows {key : UInt32} :
    Grows fun n => enrollmentUpdateStart w n key := by
  refine .bind (.const _) fun rsp => .bind (.const _) fun _ => .bind (.const _) fun newKey => ?_
  exact .bind (.const _) fun start => .bind waitInt_grows fun _ => .const _

theorem appendNewImage_grows {blob : WriteEnable} {template : Bytes} :
    Grows fun n => appendNewImage w n blob template := by
  refine .bind (.const _) fun _ => .bind (.const _) fun start => ?_
  exact .bind waitInt_grows fun _ => .const _

theorem updates_grows {r : Request} {key : UInt32} {template : Bytes} :
    Grows fun n => updates w n r key template := by
  refine .bind enrollmentUpdateStart_grows.attempt fun started => ?_
  cases started with
  | error e => exact .const _
  | ok key => exact .bind appendNewImage_grows.attempt fun _ => .const _

theorem round_grows {r : Request} {key : UInt32} {template : Bytes} :
    Grows fun n => round w n r key template := by
  refine .bind capture_grows.attempt fun captured => ?_
  cases captured with
  | error e => exact .const _
  | ok _ => exact updates_grows

/-- The driver accepts the scans that the sensor carries through, and no others. -/
theorem round_reaches {r : Request} {key key' : UInt32} {template : Bytes} {records : Records} :
    Reaches (fun n => round w n r key template) s (key', .ok records) t ↔
      CarriesThrough w r key template s key' records t := by
  constructor
  · rintro ⟨n, run⟩
    obtain ⟨captured, s1, attempted, run1⟩ := Yields.bind_iff.mp run
    cases captured with
    | error e => cases run1.1
    | ok result =>
      obtain ⟨started, s2, attempted', run2⟩ := Yields.bind_iff.mp run1
      cases started with
      | error e => cases run2.1
      | ok next =>
        obtain ⟨appended, _, attempted'', last⟩ := Yields.bind_iff.mp run2
        obtain ⟨same, rfl⟩ := Yields.ret_iff.mp last
        cases same
        exact ⟨s1, s2, capture_reaches.mp ⟨result, n, Yields.attempt_ok_iff.mp attempted⟩,
          enrollmentUpdateStart_reaches.mp ⟨n, Yields.attempt_ok_iff.mp attempted'⟩,
          appendNewImage_reaches.mp ⟨n, Yields.attempt_ok_iff.mp attempted''⟩⟩
  · rintro ⟨s1, s2, captured, updated, appended⟩
    obtain ⟨result, n, captured⟩ := capture_reaches.mpr captured
    obtain ⟨m, updated⟩ := enrollmentUpdateStart_reaches.mpr updated
    obtain ⟨k, appended⟩ := appendNewImage_reaches.mpr appended
    refine ⟨max n (max m k), Yields.bind_iff.mpr ⟨.ok result, s1,
      Yields.attempt_ok_iff.mpr (capture_grows.yields (by omega) captured), ?_⟩⟩
    refine Yields.bind_iff.mpr ⟨.ok key', s2,
      Yields.attempt_ok_iff.mpr (enrollmentUpdateStart_grows.yields (by omega) updated), ?_⟩
    exact Yields.bind_iff.mpr ⟨.ok records, t,
      Yields.attempt_ok_iff.mpr (appendNewImage_grows.yields (by omega) appended), rfl, rfl⟩

theorem settle_accepted {r : Request} {p : Progress} {key : UInt32} {records : Records} :
    Yields (settle w r p (key, .ok records)) s
      (if records.tid.isEmpty then .inl ⟨key, records.template, records.tid, p.stage + 1⟩
        else .inr ⟨key, records.template, records.tid, p.stage + 1⟩)
      (w (.onStage (p.stage + 1) none) s).2 := by
  refine Yields.bind_iff.mpr ⟨(), _, World.ask_yields.mpr rfl, ?_⟩
  dsimp only
  split
  · exact Yields.ret_iff.mpr ⟨rfl, rfl⟩
  · exact Yields.ret_iff.mpr ⟨rfl, rfl⟩

/-- A turn of the loop accepts the scan. -/
theorem enrollStep_accepted {r : Request} {p : Progress} {key : UInt32} {records : Records}
    (room : p.stage < maxStages) (h : Accepted w r p.stage p.key p.template s key records t) :
    Reaches (fun n => enrollStep w n r p) s
      (if records.tid.isEmpty then .inl ⟨key, records.template, records.tid, p.stage + 1⟩
        else .inr ⟨key, records.template, records.tid, p.stage + 1⟩) t := by
  obtain ⟨u, carried, rfl⟩ := h
  obtain ⟨n, carried⟩ := round_reaches.mpr carried
  have step : enrollStep w n r p = (do
      Act.ignore (glowStartScan w)
      let result ← round w n r p.key p.template
      Act.ignore (enrollmentUpdateEnd w)
      settle w r p result) := if_pos room
  refine ⟨n, ?_⟩
  dsimp only
  rw [step]
  refine Yields.bind_iff.mpr ⟨(), _, ignore_exchange_yields.mpr rfl, ?_⟩
  refine Yields.bind_iff.mpr ⟨_, u, carried, ?_⟩
  exact Yields.bind_iff.mpr ⟨(), _, ignore_exchange_yields.mpr rfl, settle_accepted⟩

end Round

end ValidityFprintd.Scans
