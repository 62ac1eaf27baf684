import ValidityFprintd.Handle
import ValidityFprintd.Machine
import ValidityFprintd.VerifyOwner

/-! The session the daemon keeps between calls. It is dropped where a job returns an error, and a
verification returns none for a transport that fails. -/

namespace ValidityFprintd.Slot
open Effect Capture Device

/-- The session behind its mutex, which a job that panics poisons. -/
inductive Session where
  | closed
  | held (handle : Handle)
  | poisoned

/-- The session, and what is at the other end of the cable. -/
structure Shared (S : Type) where
  session : Session
  env : S

variable {S E α : Type}

def slotAfter (session : Session) : Outcome String α → Session
  | .err _ => .closed
  | .panic => .poisoned
  | _ => session

/-- The session in the slot, or a new one. `opens` stands for `Sensor::open`. -/
def liveSession (opens : S → Outcome String Handle × S) : Act String E (Shared S) Handle := fun d =>
  match d.session with
  | .held handle => ⟨.ok handle, d, []⟩
  | .poisoned => ⟨.panic, d, []⟩
  | .closed =>
    match opens d.env with
    | (.ok handle, env) => ⟨.ok handle, ⟨.held handle, env⟩, []⟩
    | (o, env) => ⟨o, ⟨slotAfter .closed o, env⟩, []⟩

/-- A job's end. The session it ran with is dropped if it failed. -/
def conclude (handle : Handle) (r : Result String E S α) : Result String E (Shared S) α :=
  ⟨r.out, ⟨slotAfter (.held handle) r.out, r.state⟩, r.log⟩

def underSlot (handle : Handle) (x : Act String E S α) : Act String E (Shared S) α := fun d =>
  conclude handle (x d.env)

/-- Run a job against a live session, opening one if needed. -/
def withSensor (opens : S → Outcome String Handle × S) (job : Handle → Act String E S α) :
    Act String E (Shared S) α := do
  let handle ← liveSession opens
  underSlot handle (job handle)

inductive Answer where
  | fingers (names : List String)
  | deleted (count : Nat)
  | verified (outcome : VerifyOutcome)

/-- A sensor job, with what it finds in `/etc/passwd`. A verification asks for one attempt after
the other. -/
inductive Attempt where
  | list (passwd : Except String Text) (username : Text)
  | delete (passwd : Except String Text) (username : Text)
  | verify (passwd : Except String Text) (username : Text) (mine : Option Nat) (fuel timeout : Nat)

def Attempt.isVerify : Attempt → Bool
  | .verify .. => true
  | _ => false

variable (w : Usb.World S) (opens : S → Outcome String Handle × S)

def Attempt.job (handle : Handle) : Attempt → Usb.Drv S Answer
  | .list passwd username => do
    let names ← listEnrolledFingers w passwd username
    Act.ret (.fingers names)
  | .delete passwd username => do
    let count ← deleteEnrolledFingers w passwd username
    Act.ret (.deleted count)
  | .verify passwd username mine fuel timeout => do
    let outcome ← Device.verify w passwd username mine fuel handle.calib
      handle.cfg.toSensorConfig timeout
    Act.ret (.verified outcome)

def attempt (a : Attempt) : Act String (Usb.Entry S) (Shared S) Answer :=
  withSensor opens fun handle => a.job w handle

/-- The daemon's jobs, one after the other as the slot's mutex has them. -/
def daemon (env : S) : Machine (Shared S) Attempt (Usb.Entry S) where
  init := ⟨.closed, env⟩
  step d a := some ((attempt w opens a d).state, (attempt w opens a d).log)

/-- A command, a poll or a read that the transport failed. -/
def failing : Usb.Entry S → Bool
  | ⟨_, .cmd _, .error _⟩ => true
  | ⟨_, .pollInterrupt, .error _⟩ => true
  | ⟨_, .readData, .error _⟩ => true
  | _ => false

abbrev Failing (e : Usb.Entry S) : Prop := failing e = true

def OnTransport : Usb.Query → Prop
  | .cmd _ => True
  | .pollInterrupt => True
  | .readData => True
  | _ => False

/-- From some command or poll on, the transport fails every one. -/
def Dies (log : List (Usb.Entry S)) : Prop :=
  ∃ pre e post, log = pre ++ e :: post ∧ Failing e ∧ ∀ x ∈ post, OnTransport x.query → Failing x

/-- An attempt in which the session dies empties the slot, and one without any failure leaves
the session there. -/
structure DropsDead (move : Machine.Move (Shared S) Attempt (Usb.Entry S)) : Prop where
  dropped : Dies move.events → move.after.session = .closed
  kept : (∀ e ∈ move.events, ¬ Failing e) →
    ∀ answer, (attempt w opens move.label move.before).out = .ok answer →
      ∃ handle, move.after.session = .held handle ∧
        ∀ held, move.before.session = .held held → handle = held

section Runs

variable {w opens}

variable (opens) in
/-- A job ran on the session in the slot, or on a new one, if there is one. -/
theorem withSensor_cases (job : Handle → Act String E S α) (d : Shared S) :
    (∃ handle env, (env = d.env ∨ env = (opens d.env).2) ∧
      (∀ held, d.session = .held held → handle = held) ∧
      withSensor opens job d = conclude handle (job handle env)) ∨
    ((∀ a, (withSensor opens job d).out ≠ .ok a) ∧
      ((withSensor opens job d).state.env = d.env ∨
        (withSensor opens job d).state.env = (opens d.env).2) ∧
      (withSensor opens job d).log = []) := by
  have run : withSensor opens job d =
      Act.follow (liveSession opens d) fun handle => underSlot handle (job handle) := rfl
  rw [run]
  obtain ⟨session, env⟩ := d
  cases session with
  | held handle =>
    exact .inl ⟨handle, env, .inl rfl, fun held same => Session.held.inj same, rfl⟩
  | poisoned => exact .inr ⟨nofun, .inl rfl, rfl⟩
  | closed =>
    rcases opened : opens env with ⟨o, env'⟩
    simp only [liveSession, opened]
    cases o with
    | ok handle => exact .inl ⟨handle, env', .inr rfl, nofun, rfl⟩
    | err e | panic | stuck => exact .inr ⟨nofun, .inr rfl, rfl⟩

section Heeding

variable {passwd : Except String Text} {username : Text}

theorem cmd_heeds (out : Bytes) : Heeds Failing (Usb.cmd w out) := by
  intro s e mem bad
  have run : Usb.cmd w out s = Act.follow (w.ask (.cmd out) s) Act.lift := rfl
  rw [run, World.ask_run, Act.follow_ok] at mem ⊢
  cases answer : (w (.cmd out) s).1 with
  | ok rsp =>
    rw [answer] at mem
    obtain rfl := List.mem_singleton.mp mem
    cases bad
  | error err => exact ⟨err, rfl⟩

theorem request_heeds (out : Bytes) (c : String) : Heeds Failing (Usb.request w out c) :=
  .bind (cmd_heeds out) fun _ => .bind (.mapErr (.lift _)) fun _ => .ret _

theorem exchange_heeds (out : Bytes) (c : String) : Heeds Failing (Usb.exchange w out c) :=
  .bind (request_heeds out c) fun _ => .ret _

theorem getUserStorage_heeds (name : Bytes) : Heeds Failing (Db.getUserStorage w name) := by
  refine .bind (cmd_heeds _) fun rsp => .ite (.ret _) ?_
  exact .bind (.lift _) fun _ => .bind (.ofOutcome _) fun storage => .ret _

theorem getUsers_heeds (users : List Db.UserRef) : Heeds Failing (Db.getUsers w users) := by
  induction users with
  | nil => exact .ret _
  | cons u users ih =>
    have user : Heeds Failing (Db.getUser w u.dbid) :=
      .bind (cmd_heeds _) fun rsp => .bind (.lift _) fun _ => .ofOutcome _
    exact .bind user fun _ => .bind ih fun _ => .ret _

theorem listUsers_heeds : Heeds Failing (Db.listUsers w) := by
  refine .bind (getUserStorage_heeds _) fun storage => ?_
  cases storage with
  | none => exact .ret _
  | some storage => exact getUsers_heeds _

theorem lookupUser_heeds (identity : SidIdentity) : Heeds Failing (Db.lookupUser w identity) := by
  refine .bind (getUserStorage_heeds _) fun storage => ?_
  cases storage with
  | none => exact .ret _
  | some storage =>
    refine .bind (cmd_heeds _) fun rsp => .ite (.ret _) ?_
    exact .bind (.lift _) fun _ => .bind (.ofOutcome _) fun user => .ret _

theorem delRecords_heeds (dbids : List UInt16) : Heeds Failing (Db.delRecords w dbids) := by
  induction dbids with
  | nil => exact .ret _
  | cons dbid dbids ih => exact .bind (exchange_heeds _ _) fun _ => ih

theorem listEnrolledFingers_heeds :
    Heeds Failing (listEnrolledFingers w passwd username) :=
  .bind (.lift _) fun _ => .bind listUsers_heeds fun _ => .ret _

theorem deleteEnrolledFingers_heeds :
    Heeds Failing (deleteEnrolledFingers w passwd username) := by
  refine .bind (.lift _) fun sid => .bind (lookupUser_heeds _) fun user => ?_
  cases user with
  | none => exact .ret _
  | some user => exact .bind (delRecords_heeds _) fun _ => .ret _

/-- A failed command ends every job but a verification. -/
theorem job_heeds (a : Attempt) (handle : Handle) (h : a.isVerify = false) :
    Heeds Failing (a.job w handle) := by
  cases a with
  | list => exact .bind listEnrolledFingers_heeds fun _ => .ret _
  | delete => exact .bind deleteEnrolledFingers_heeds fun _ => .ret _
  | verify => cases h

/-- A verification with a user to look for returns no error. -/
theorem verify_unfailing {sid : SidIdentity} (resolved : sidForUser passwd username = .ok sid)
    (mine : Option Nat) (fuel : Nat) (calib : Calibration) (cfg : SensorConfig) (timeout : Nat)
    (s : S) (e : String) :
    (verify w passwd username mine fuel calib cfg timeout s).out ≠ .err e := by
  have ignored : ∀ {α : Type} (x : Usb.Drv S α), Within (· ≠ .error) (Act.ignore x) :=
    fun x => .ignore (by decide) fun s => em _
  have attempted : ∀ {α : Type} (x : Usb.Drv S α), Within (· ≠ .error) (Act.attempt x) :=
    fun x => .attempt (by decide) fun s => em _
  have within : Within (· ≠ .error) (verify w passwd username mine fuel calib cfg timeout) := by
    have judged : ∀ captured, Within (· ≠ .error) (judge w fuel sid captured) := by
      intro captured
      cases captured with
      | error e => exact .ret (by decide) _
      | ok result =>
        refine .bind (attempted _) fun found => ?_
        cases found with
        | error e => exact .ret (by decide) _
        | ok m =>
          refine .bind (attempted _) fun owner => ?_
          cases owner with
          | error e => exact .ret (by decide) _
          | ok u => exact .ite (.ret (by decide) _) (.ret (by decide) _)
    have rest : ∀ captured, Within (· ≠ .error) (judge w fuel sid captured >>= fun outcome =>
        Act.ignore (glowEndScan w) >>= fun _ => Act.ret outcome) := by
      intro captured
      exact .bind (judged captured) fun outcome => .bind (ignored _) fun _ => .ret (by decide) _
    intro s
    simp only [verify, resolved, Act.lift_bind]
    exact Within.bind (ignored _) (fun _ => .bind (attempted _) rest) s
  intro fails
  exact within s (congrArg Outcome.kind fails)

end Heeding

theorem Dies.some_failing {log : List (Usb.Entry S)} (h : Dies log) : ∃ e ∈ log, Failing e := by
  obtain ⟨pre, e, post, rfl, bad, _⟩ := h
  exact ⟨e, List.mem_append_right _ List.mem_cons_self, bad⟩

theorem Dies.of_all {log : List (Usb.Entry S)} (some_ : log ≠ []) (all : log.all failing = true) :
    Dies log := by
  cases log with
  | nil => exact absurd rfl some_
  | cons e post =>
    rw [List.all_cons, Bool.and_eq_true, List.all_eq_true] at all
    exact ⟨[], e, post, rfl, all.1, fun x mem _ => all.2 x mem⟩

/-- A verification whose transport dies still returns no error. -/
theorem verify_dies {a : Attempt} {handle : Handle} {s : S} (h : a.isVerify = true)
    (dies : Dies (a.job w handle s).log) (e : String) : (a.job w handle s).out ≠ .err e := by
  cases a with
  | list | delete => cases h
  | verify passwd username mine fuel timeout =>
    cases resolved : sidForUser passwd username with
    | error err =>
      have silent :
          ((Attempt.verify passwd username mine fuel timeout).job w handle s).log = [] := by
        simp only [Attempt.job, Device.verify, resolved]
        rfl
      obtain ⟨x, mem, _⟩ := dies.some_failing
      rw [silent] at mem
      cases mem
    | ok sid =>
      intro fails
      have run : (Device.verify w passwd username mine fuel handle.calib
        handle.cfg.toSensorConfig timeout >>=
          fun outcome => Act.ret (.verified outcome) : Usb.Drv S Answer) s =
          (Attempt.verify passwd username mine fuel timeout).job w handle s := rfl
      rw [← run, Act.bind_run] at fails
      have unfailing :=
        verify_unfailing (w := w) resolved mine fuel handle.calib
        handle.cfg.toSensorConfig timeout s
      generalize Device.verify w passwd username mine fuel handle.calib
        handle.cfg.toSensorConfig timeout s = r
        at fails unfailing
      rcases r with ⟨out, t, l⟩
      cases out with
      | err err => exact unfailing err rfl
      | ok outcome => cases fails
      | panic => cases fails
      | stuck => cases fails

theorem conclude_dropped {handle : Handle} {r : Result String E S α} {e : String}
    (h : r.out = .err e) : (conclude handle r).state.session = .closed := by
  simp only [conclude, h, slotAfter]

theorem conclude_kept {handle : Handle} {r : Result String E S α} (h : ∀ e, r.out ≠ .err e) :
    (conclude handle r).state.session ≠ .closed := by
  dsimp only [conclude]
  cases out : r.out with
  | err e => exact absurd out (h e)
  | ok a | panic | stuck => nofun

theorem conclude_ok {handle : Handle} {r : Result String E S α} {a : α} (h : r.out = .ok a) :
    (conclude handle r).state.session = .held handle := by
  simp only [conclude, h, slotAfter]

variable (w opens) in
theorem attempt_dropsDead (d : Shared S) (a : Attempt) :
    DropsDead w opens ⟨d, a, (attempt w opens a d).state, (attempt w opens a d).log⟩ ↔
      (a.isVerify = true → ¬ Dies (attempt w opens a d).log) := by
  rcases withSensor_cases opens (fun handle => a.job w handle) d with
    ⟨handle, env, _, held, run⟩ | ⟨fails, _, silent⟩
  · replace run : attempt w opens a d = conclude handle (a.job w handle env) := run
    constructor
    · intro drops verify dies
      have dropped := drops.dropped dies
      rw [run] at dies dropped
      exact conclude_kept (verify_dies verify dies) dropped
    · intro alive
      constructor
      · intro dies
        replace dies : Dies (attempt w opens a d).log := dies
        cases verify : a.isVerify with
        | true => exact absurd dies (alive verify)
        | false =>
          obtain ⟨e, mem, bad⟩ := dies.some_failing
          rw [run] at mem
          obtain ⟨err, out⟩ := job_heeds a handle verify env e mem bad
          show (attempt w opens a d).state.session = .closed
          rw [run, conclude_dropped out]
      · intro _ answer returned
        replace returned : (attempt w opens a d).out = .ok answer := returned
        rw [run] at returned
        have out : (a.job w handle env).out = .ok answer := returned
        refine ⟨handle, ?_, held⟩
        show (attempt w opens a d).state.session = .held handle
        rw [run, conclude_ok out]
  · have alive : ¬ Dies (attempt w opens a d).log := by
      intro dies
      obtain ⟨e, mem, _⟩ := dies.some_failing
      rw [show (attempt w opens a d).log = [] from silent] at mem
      cases mem
    constructor
    · exact fun _ _ => alive
    · intro _
      exact ⟨fun dies => absurd dies alive, fun _ answer returned => absurd returned (fails answer)⟩

/-- Every session that dies is dropped if and only if none dies in a verification. -/
theorem dead_session_dropped {env : S} {moves last}
    (run : (daemon w opens env).Run moves last) :
    (∀ move ∈ moves, DropsDead w opens move) ↔
      ∀ move ∈ moves, move.label.isVerify = true → ¬ Dies move.events := by
  refine forall₂_congr fun move mem => ?_
  obtain ⟨front, back, rfl⟩ := List.append_of_mem mem
  obtain ⟨after, events⟩ := Prod.mk.inj (Option.some.inj run.move.2)
  have step := attempt_dropsDead w opens move.before move.label
  rw [after, events] at step
  exact step

end Runs

def unplugged : Usb.World Unit
  | .cmd _, s => (.error "No such device", s)
  | .pollInterrupt, s => (.error "No such device", s)
  | .readData, s => (.error "No such device", s)
  | .now, s => (0, s)
  | .current, s => (1, s)
  | .onStage _ _, s => ((), s)

def goneHandle : Handle where
  cfg := ⟨Enroll.smallConfig, "VFS 9999", 0x199, ⟨0, 0, 0, 0, 0, 0⟩, 3⟩
  calib := ⟨[]⟩
  writeEnableBlob := Enroll.smallRequest.blob

def opensGone (s : Unit) : Outcome String Handle × Unit := (.ok goneHandle, s)

def annList : Attempt := .list annsPasswd "ann".toList

def annVerify : Attempt := .verify annsPasswd "ann".toList (some 1) 4 1000

theorem once (env : Unit) (a : Attempt) : (daemon unplugged opensGone env).Run
    [⟨⟨.closed, env⟩, a, (attempt unplugged opensGone a ⟨.closed, env⟩).state,
      (attempt unplugged opensGone a ⟨.closed, env⟩).log⟩]
    (attempt unplugged opensGone a ⟨.closed, env⟩).state :=
  .step .init rfl

theorem dead_session_dropped_list : ∃ moves last, (daemon unplugged opensGone ()).Run moves last ∧
    (∃ move ∈ moves, Dies move.events) ∧ ∀ move ∈ moves, DropsDead unplugged opensGone move := by
  refine ⟨_, _, once () annList, ?_, (dead_session_dropped (once () annList)).mpr ?_⟩
  · refine ⟨_, List.mem_singleton_self _, Dies.of_all ?_ (by decide +kernel)⟩
    exact List.ne_nil_of_length_pos (by decide +kernel)
  · simp [annList, Attempt.isVerify]

def Session.isHeld : Session → Bool
  | .held _ => true
  | _ => false

/-- A verification whose sensor is gone leaves the dead session in the slot. -/
theorem dead_session_kept : ∃ moves last, (daemon unplugged opensGone ()).Run moves last ∧
    last.session.isHeld = true ∧ ¬ ∀ move ∈ moves, DropsDead unplugged opensGone move := by
  refine ⟨_, _, once () annVerify, by decide +kernel, fun all => ?_⟩
  have dies : Dies (attempt unplugged opensGone annVerify ⟨.closed, ()⟩).log := by
    refine Dies.of_all ?_ (by decide +kernel)
    exact List.ne_nil_of_length_pos (by decide +kernel)
  have drops := all _ (List.mem_singleton_self _)
  exact (attempt_dropsDead _ _ _ _).mp drops rfl dies

end ValidityFprintd.Slot
