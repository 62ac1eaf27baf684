import ValidityFprintd.Bytes
import ValidityFprintd.CutOff

/-! The endpoints of the sensor as the driver sees them: commands on EP1 and EP81, image
data on EP82, interrupts on EP83, and beside them the clock, the counter of operations and
the progress callback of an enrolment. Any world may answer. -/

namespace ValidityFprintd.Usb
open Effect

inductive Query where
  /-- `Transport::cmd`. -/
  | cmd (out : Bytes)
  /-- `poll_interrupt(100 ms)`: `none` is a poll that timed out. -/
  | pollInterrupt
  | readData
  /-- `Instant::now()`, in milliseconds. -/
  | now
  /-- `CURRENT.load(SeqCst)`. -/
  | current
  | onStage (stage : Nat) (err : Option String)
  deriving DecidableEq

abbrev Query.Answer : Query → Type
  | .cmd _ => Except String Bytes
  | .pollInterrupt => Except String (Option Bytes)
  | .readData => Except String Bytes
  | .now => Nat
  | .current => Nat
  | .onStage _ _ => Unit

abbrev World (S : Type) := Effect.World Query.Answer S

abbrev Entry (S : Type) := Effect.Entry Query.Answer S

/-- A call of the driver against a world with states `S`. -/
abbrev Drv (S α : Type) := Act String (Entry S) S α

variable {S : Type}

/-- An error's text under a context, as `{:#}` prints it. -/
def context (c e : String) : String := c ++ ": " ++ e

def cmd (w : World S) (out : Bytes) : Drv S Bytes := do
  let rsp ← w.ask (.cmd out)
  Act.lift rsp

theorem cmd_yields {w : World S} {out rsp : Bytes} {s t : S} :
    Yields (cmd w out) s rsp t ↔ w (.cmd out) s = (.ok rsp, t) := by
  simp only [cmd, Yields.bind_iff, World.ask_yields, Yields.lift_iff]
  constructor
  · rintro ⟨a, u, h, rfl, rfl⟩
    exact h
  · intro h
    exact ⟨_, _, h, rfl, rfl⟩

def pollInterrupt (w : World S) : Drv S (Option Bytes) := do
  let b ← w.ask .pollInterrupt
  Act.lift b

def now (w : World S) : Drv S Nat := w.ask .now

/-- Sensor replies begin with a little-endian u16 status word. -/
def checkStatus (rsp : Bytes) : Except String Unit :=
  match rsp with
  | a :: b :: _ =>
    let status := Bytes.fromLe16 a b
    if status = 0 then .ok ()
    else if status = 0x044f then .error "signature validation failed (0x044f)"
    else .error s!"sensor returned error status {Bytes.hexNumber 4 status.toNat}"
  | _ => .error s!"short reply: {rsp.length} bytes"

/-- `rsp.len() >= 2 && u16::from_le_bytes([rsp[0], rsp[1]]) == status`. -/
def statusIs (status : UInt16) (rsp : Bytes) : Bool :=
  match rsp with
  | a :: b :: _ => Bytes.fromLe16 a b = status
  | _ => false

def check {E T : Type} (rsp : Bytes) : Act String E T Unit := Act.lift (checkStatus rsp)

def request (w : World S) (out : Bytes) (c : String) : Drv S Bytes := do
  let rsp ← cmd w out
  Act.mapErr (context c) (check rsp)
  Act.ret rsp

def exchange (w : World S) (out : Bytes) (c : String) : Drv S Unit := do
  let _ ← request w out c
  Act.ret ()

/-! What an entry of a run's log was: the command it sent, and the answer. -/

def exchanged (e : Entry S) : Option (Bytes × Except String Bytes) :=
  match e with
  | ⟨_, .cmd out, answer⟩ => some (out, answer)
  | _ => none

def Sent (c : UInt8) (e : Entry S) : Prop := ∃ rest answer, exchanged e = some (c :: rest, answer)

def Accepted (e : Entry S) : Prop :=
  ∃ out rsp, exchanged e = some (out, .ok rsp) ∧ checkStatus rsp = .ok ()

/-- The transfer itself failed. -/
def Failed (e : Entry S) : Prop := ∃ out err, exchanged e = some (out, .error err)

theorem Sent.det {c c' : UInt8} {e : Entry S} (h : Sent c e) (h' : Sent c' e) : c = c' := by
  obtain ⟨rest, answer, he⟩ := h
  obtain ⟨rest', answer', he'⟩ := h'
  rw [he] at he'
  cases he'
  rfl

theorem Accepted.not_failed {e : Entry S} (h : Accepted e) : ¬ Failed e := by
  rintro ⟨out, err, he⟩
  obtain ⟨out', rsp, he', _⟩ := h
  rw [he] at he'
  cases he'

theorem cmd_run (w : World S) (out : Bytes) (s : S) :
    ∃ e t, (∃ rsp, exchanged e = some (out, .ok rsp) ∧ cmd w out s = ⟨.ok rsp, t, [e]⟩) ∨
      ∃ err, exchanged e = some (out, .error err) ∧ cmd w out s = ⟨.err err, t, [e]⟩ := by
  refine ⟨⟨s, .cmd out, (w (.cmd out) s).1⟩, (w (.cmd out) s).2, ?_⟩
  have run : cmd w out s = Act.follow (w.ask (.cmd out) s) Act.lift := rfl
  rw [run, World.ask_run, Act.follow_ok]
  cases answer : (w (.cmd out) s).1 with
  | ok rsp => exact .inl ⟨rsp, by simp [exchanged], by simp [Act.lift, Act.ret]⟩
  | error err => exact .inr ⟨err, by simp [exchanged], by simp [Act.lift, Act.fail]⟩

theorem checked_run {T : Type} (c : String) (rsp : Bytes) (t : T) :
    (Act.mapErr (context c) (check rsp) : Act String (Entry S) T Unit) t =
      match checkStatus rsp with
      | .ok _ => ⟨.ok (), t, []⟩
      | .error err => ⟨.err (context c err), t, []⟩ := by
  cases status : checkStatus rsp <;> simp [Act.mapErr, check, status, Act.lift, Act.ret, Act.fail]

theorem request_run (w : World S) (out : Bytes) (c : String) (s : S) :
    ∃ e t, (∃ answer, exchanged e = some (out, answer)) ∧
      ((∃ rsp, exchanged e = some (out, .ok rsp) ∧ checkStatus rsp = .ok () ∧
          request w out c s = ⟨.ok rsp, t, [e]⟩) ∨
        (¬ Accepted e ∧ ∃ err, request w out c s = ⟨.err err, t, [e]⟩)) := by
  have step : request w out c s = Act.follow (cmd w out s) fun rsp =>
      Act.mapErr (context c) (check rsp) >>= fun _ => Act.ret rsp := rfl
  obtain ⟨e, t, ⟨rsp, he, run⟩ | ⟨err, he, run⟩⟩ := cmd_run w out s
  · refine ⟨e, t, ⟨_, he⟩, ?_⟩
    rw [step, run, Act.follow_ok, Act.bind_run, checked_run]
    cases status : checkStatus rsp with
    | ok u => exact .inl ⟨rsp, he, status, rfl⟩
    | error err =>
      refine .inr ⟨?_, context c err, rfl⟩
      rintro ⟨out', rsp', he', ok⟩
      rw [he] at he'
      cases he'
      rw [status] at ok
      cases ok
  · refine ⟨e, t, ⟨_, he⟩, .inr ⟨fun accepted => accepted.not_failed ⟨out, err, he⟩, err, ?_⟩⟩
    rw [step, run, Act.follow_err]

theorem request_yields {w : World S} {out rsp : Bytes} {c : String} {s t : S} :
    Yields (request w out c) s rsp t ↔
      w (.cmd out) s = (.ok rsp, t) ∧ checkStatus rsp = .ok () := by
  simp only [request, Yields.bind_iff, cmd_yields, Yields.mapErr_iff, check, Yields.lift_iff,
    Yields.ret_iff]
  constructor
  · rintro ⟨rsp', _, answer, _, _, ⟨status, rfl⟩, rfl, rfl⟩
    exact ⟨answer, status⟩
  · rintro ⟨answer, status⟩
    exact ⟨rsp, t, answer, (), t, ⟨status, rfl⟩, rfl, rfl⟩

theorem request_ok {w : World S} {out rsp : Bytes} {s t : S} (c : String)
    (answered : w (.cmd out) s = (.ok rsp, t)) (accepted : checkStatus rsp = .ok ()) :
    request w out c s = ⟨.ok rsp, t, [⟨s, .cmd out, .ok rsp⟩]⟩ := by
  have sent : cmd w out s = ⟨.ok rsp, t, [⟨s, .cmd out, .ok rsp⟩]⟩ := by
    have run : cmd w out s = Act.follow (w.ask (.cmd out) s) Act.lift := rfl
    rw [run, World.ask_run, answered]
    rfl
  have step : request w out c s = Act.follow (cmd w out s) fun rsp =>
      Act.mapErr (context c) (check rsp) >>= fun _ => Act.ret rsp := rfl
  rw [step, sent, Act.follow_ok, Act.bind_run, checked_run, accepted]
  rfl

theorem exchange_run (w : World S) (out : Bytes) (c : String) (s : S) :
    ∃ e t, (∃ answer, exchanged e = some (out, answer)) ∧
      ((Accepted e ∧ exchange w out c s = ⟨.ok (), t, [e]⟩) ∨
        (¬ Accepted e ∧ ∃ err, exchange w out c s = ⟨.err err, t, [e]⟩)) := by
  have step : exchange w out c s = Act.follow (request w out c s) fun _ => Act.ret () := rfl
  obtain ⟨e, t, sent, ⟨rsp, he, status, run⟩ | ⟨refused, err, run⟩⟩ := request_run w out c s
  · exact ⟨e, t, sent, .inl ⟨⟨out, rsp, he, status⟩, by rw [step, run]; rfl⟩⟩
  · exact ⟨e, t, sent, .inr ⟨refused, err, by rw [step, run]; rfl⟩⟩

theorem ignore_exchange_yields (w : World S) (out : Bytes) (c : String) (s : S) :
    ∃ t, Yields (Act.ignore (exchange w out c)) s () t := by
  have step : Act.ignore (exchange w out c) s =
      Act.follow (Act.attempt (exchange w out c) s) fun _ => Act.ret () := rfl
  obtain ⟨e, t, _, ⟨_, run⟩ | ⟨_, err, run⟩⟩ := exchange_run w out c s
  · exact ⟨t, by rw [Yields, step, Act.attempt, run]; exact ⟨rfl, rfl⟩⟩
  · exact ⟨t, by rw [Yields, step, Act.attempt, run]; exact ⟨rfl, rfl⟩⟩

theorem checkStatus_ok_iff (rsp : Bytes) :
    checkStatus rsp = .ok () ↔ ∃ rest, rsp = 0 :: 0 :: rest := by
  rcases rsp with _ | ⟨a, _ | ⟨b, rest⟩⟩
  · simp [checkStatus]
  · simp [checkStatus]
  · have zero : Bytes.fromLe16 a b = 0 ↔ a = 0 ∧ b = 0 := by
      rw [← UInt16.toNat_inj, Bytes.fromLe16_toNat, ← UInt8.toNat_inj, ← UInt8.toNat_inj]
      simp only [UInt16.toNat_zero, UInt8.toNat_zero]
      omega
    simp only [checkStatus]
    split
    · rename_i h
      simp [zero.mp h]
    · rename_i h
      have no : ¬ (a = 0 ∧ b = 0) := fun both => h (zero.mpr both)
      constructor
      · intro h
        split at h <;> cases h
      · rintro ⟨rest', h⟩
        cases h
        exact absurd ⟨rfl, rfl⟩ no

/-! A command that is cut off has taken effect or not. -/

section Leaving

variable {w : World S} {V : Type} {view : S → V} {v : V} {out : Bytes} {c : String}
  {J : Bytes → V → Prop} {K : V → Prop}

theorem cmd_leaves (before : K v) (after : ∀ s, view s = v → K (view (w (.cmd out) s).2))
    (answer : ∀ s rsp, view s = v → (w (.cmd out) s).1 = .ok rsp →
      J rsp (view (w (.cmd out) s).2)) : Leaves view v (cmd w out) J K := by
  have asked : Leaves view v (w.ask (.cmd out) : Drv S _)
      (fun r u => K u ∧ ∀ rsp, r = .ok rsp → J rsp u) K :=
    .ask before after fun s seen => ⟨after s seen, fun rsp sent => answer s rsp seen sent⟩
  exact asked.bind (fun r u ok => .lift ok.2 ok.1) fun _ cut => cut

theorem request_leaves (before : K v) (after : ∀ s, view s = v → K (view (w (.cmd out) s).2))
    (answer : ∀ s rsp, view s = v → (w (.cmd out) s).1 = .ok rsp → checkStatus rsp = .ok () →
      J rsp (view (w (.cmd out) s).2)) : Leaves view v (request w out c) J K := by
  have asked : Leaves view v (cmd w out)
      (fun rsp u => K u ∧ (checkStatus rsp = .ok () → J rsp u)) K :=
    cmd_leaves before after fun s rsp seen sent => ⟨after s seen, answer s rsp seen sent⟩
  refine asked.bind (fun rsp u ok => ?_) fun _ cut => cut
  refine Leaves.bind (J := fun _ u' => u' = u ∧ checkStatus rsp = .ok ()) (K := K)
    (.mapErr (.lift (fun _ passed => ⟨rfl, passed⟩) ok.1)) ?_ fun _ cut => cut
  rintro _ _ ⟨rfl, passed⟩
  exact .ret (ok.2 passed) ok.1

end Leaving

end ValidityFprintd.Usb
