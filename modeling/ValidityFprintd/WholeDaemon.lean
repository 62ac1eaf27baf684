import ValidityFprintd.OwnFingers
import ValidityFprintd.SensorSlot
import ValidityFprintd.ShelfHistory

/-! The daemon with its sensor. A job has the session to itself for as long as it runs, and what it
came to is told at its end; the daemon goes on meanwhile. -/

namespace ValidityFprintd.Whole
open Effect Device Machine
open Records (Call Matcher)
open Slot (Shared)

inductive Answer where
  | fingers (names : List String)
  | verified (outcome : VerifyOutcome)
  | enrolled (recid : UInt16)
  | deleted (count : Nat)

abbrev ShelfEvent := Shelves.Event SidIdentity String

/-- How a job ended, and what it did to the shelves. -/
abbrev Ended (S : Type) := Result String ShelfEvent (Shared S) Answer

/-- How long one capture waits for a finger, in milliseconds. -/
def fingerTimeout : Nat := 30000

def callOf (user : Text) (passwd : Except String Text) (mine : Option Nat) (fuel : Nat)
    (handle : Handle) : Daemon.Job → Call
  | .list => .listEnrolledFingers passwd user
  | .delete => .deleteEnrolledFingers passwd user
  | .enroll finger =>
    .enroll passwd user mine fuel handle (String.ofList finger) fingerTimeout
  | .verify _ =>
    .verify passwd user mine fuel handle.calib handle.cfg.toSensorConfig fingerTimeout

section Jobs

variable {S : Type} (w : Usb.World S) (opens : S → Outcome String Handle × S)

def outOf (s : S) : Call → Outcome String Answer
  | .listEnrolledFingers passwd username => do
    let names ← (Device.listEnrolledFingers w passwd username s).out
    .ok (.fingers names)
  | .verify passwd username mine fuel calib cfg timeout => do
    let outcome ← (Device.verify w passwd username mine fuel calib cfg timeout s).out
    .ok (.verified outcome)
  | .enroll passwd username mine fuel handle finger timeout => do
    let recid ← (Device.enroll w passwd username mine fuel handle finger timeout s).out
    .ok (.enrolled recid)
  | .deleteEnrolledFingers passwd username => do
    let count ← (Device.deleteEnrolledFingers w passwd username s).out
    .ok (.deleted count)

/-- A method as a job, that tells what it does to the shelves. -/
def method (call : Call) : Act String ShelfEvent S Answer := fun s =>
  ⟨outOf w s call, (call.run w s).1, (call.run w s).2⟩

/-- A job against a live session, run to its end. One that is stuck does not end. -/
def runMethod (d : Shared S) (call : Handle → Call) : Option (Ended S) :=
  let r := Slot.withSensor opens (fun handle => method w (call handle)) d
  match r.out with
  | .stuck => none
  | _ => some r

end Jobs

/-- The turn an operation's job takes with what its method came to. -/
def turnOf : Daemon.Job → Outcome String Answer → Option Daemon.Turn
  | .enroll _, .ok (.enrolled recid) => some (.enrolled (.ok recid))
  | .enroll _, .err e => some (.enrolled (.error e))
  | .enroll _, .panic => some .panicked
  | .verify _, .ok (.verified outcome) => some (.verified (.ok outcome))
  | .verify _, .err e => some (.verified (.error e))
  | .verify _, .panic => some .panicked
  | _, _ => none

/-- What the call that waits for a job hears of it. `joinError` is what the runtime says of a job
that panicked. -/
def heard (joinError : String) : Outcome String Answer → Except String (List String)
  | .ok (.fingers names) => .ok names
  | .ok _ => .ok []
  | .err e => .error e
  | _ => .error joinError

structure System (Client S : Type) where
  daemon : Daemon.System Client
  shared : Shared S
  /-- The jobs that calls wait for, and the user each is about. -/
  spawned : Nat → Option (Daemon.Job × Text)
  ended : Nat → Option (Except String (List String))

inductive Event (Client : Type) where
  | daemon (e : Daemon.Event Client)
  /-- What the job that this call launched did to the shelves. -/
  | sensor (call : Nat) (e : ShelfEvent)
  deriving DecidableEq

inductive Label (Client : Type) where
  | daemon (label : Daemon.Label Client)
  /-- The job that a call waits for runs. -/
  | job (call : Nat) (passwd : Except String Text) (fuel : Nat) (joinError : String)
  /-- The job of an operation runs: an enrolment, or one attempt of a verification. -/
  | turn (op : Nat) (passwd : Except String Text) (fuel : Nat)

variable {Client S : Type} [DecidableEq Client]

abbrev Done (Client S : Type) := System Client S × List (Event Client)

omit [DecidableEq Client] in
/-- The jobs of calls, with one more if one was launched. -/
def note (spawned : Nat → Option (Daemon.Job × Text)) : Daemon.Event Client →
    Nat → Option (Daemon.Job × Text)
  | .launched n .list _ user => Function.update spawned n (some (.list, user))
  | .launched n .delete _ user => Function.update spawned n (some (.delete, user))
  | _ => spawned

section Steps

variable (w : Usb.World S) (opens : S → Outcome String Handle × S) (uid : Client → UInt32)
  (d : System Client S)

def goOn (label : Daemon.Label Client) : Option (Done Client S) :=
  (Daemon.step uid d.daemon label).map fun (daemon, events) =>
    ({ d with daemon := daemon, spawned := events.foldl note d.spawned }, events.map .daemon)

def waits (n : Nat) : Bool :=
  (d.daemon.calls n).any fun call => call.phase = .waiting

def runJob (n : Nat) (passwd : Except String Text) (fuel : Nat) (joinError : String) :
    Option (Done Client S) :=
  (d.spawned n).bind fun (job, user) =>
    (runMethod w opens d.shared fun handle => callOf user passwd none fuel handle job).map fun r =>
      ({ d with
          shared := r.state
          spawned := Function.update d.spawned n none
          ended := Function.update d.ended n (some (heard joinError r.out)) },
        r.log.map (.sensor n))

/-- An operation's job, run until it has something for the task that launched it. -/
def takeTurn (id : Nat) (passwd : Except String Text) (fuel : Nat) : Option (Done Client S) :=
  (d.daemon.ops id).bind fun op =>
    (runMethod w opens d.shared fun handle =>
        callOf op.user passwd (some id) fuel handle op.job).bind fun r =>
      (turnOf op.job r.out).bind fun turn =>
        (Daemon.work d.daemon.current id op turn).map fun op' =>
          ({ d with daemon := (Daemon.put d.daemon id op' []).1, shared := r.state },
            r.log.map (.sensor op.call))

/-- The reports of an enrolment come while its job runs; what a job came to is told by a turn. -/
def step : Label Client → Option (Done Client S)
  | .daemon (.work id (.stage result)) => goOn uid d (.work id (.stage result))
  | .daemon (.work _ _) => none
  | .daemon (.call n env) =>
    if waits d n then (d.ended n).bind fun job => goOn uid d (.call n { env with job := job })
    else goOn uid d (.call n env)
  | .daemon label => goOn uid d label
  | .job n passwd fuel joinError => runJob w opens d n passwd fuel joinError
  | .turn id passwd fuel => takeTurn w opens d id passwd fuel

end Steps

def machine (w : Usb.World S) (opens : S → Outcome String Handle × S) (uid : Client → UInt32)
    (env : S) : Machine (System Client S) (Label Client) (Event Client) where
  init := ⟨Daemon.ready Client, ⟨.closed, env⟩, fun _ => none, fun _ => none⟩
  step := step w opens uid

section Opening

variable {w : Usb.World S} {opens : S → Outcome String Handle × S} {d : Shared S}
  {call : Handle → Call} {r : Ended S}

/-- A job that ended ran its method on the sensor as its session was opened, or it opened none. -/
theorem runMethod_cases (h : runMethod w opens d call = some r) :
    (∃ handle env, (env = d.env ∨ env = (opens d.env).2) ∧ r.out = outOf w env (call handle) ∧
      r.state.env = ((call handle).run w env).1 ∧ r.log = ((call handle).run w env).2) ∨
    ((∀ a, r.out ≠ .ok a) ∧ (r.state.env = d.env ∨ r.state.env = (opens d.env).2) ∧
      r.log = []) := by
  have ended : Slot.withSensor opens (fun handle => method w (call handle)) d = r := by
    unfold runMethod at h
    dsimp only at h
    split at h
    · cases h
    · exact Option.some.inj h
  obtain ⟨handle, env, from_, _, run⟩ | none_ :=
    Slot.withSensor_cases opens (fun handle => method w (call handle)) d
  · rw [ended] at run
    exact .inl ⟨handle, env, from_, run ▸ rfl, run ▸ rfl, run ▸ rfl⟩
  · rw [ended] at none_
    exact .inr none_

end Opening

section Inversion

variable {w : Usb.World S} {opens : S → Outcome String Handle × S} {uid : Client → UInt32}
  {d d' : System Client S} {events : List (Event Client)}

/-- Of what an operation's job comes to, the daemon hears by a turn only. -/
def Idle (label : Daemon.Label Client) : Prop :=
  ∀ id turn, label = .work id turn → ∃ result, turn = .stage result

def Hears (d : System Client S) (label : Daemon.Label Client) : Prop :=
  ∀ n env, label = .call n env → waits d n = true → d.ended n = some env.job

theorem step_cases {label : Label Client} (taken : step w opens uid d label = some (d', events)) :
    (∃ label, Idle label ∧ Hears d label ∧ goOn uid d label = some (d', events)) ∨
    (∃ n passwd fuel joinError, runJob w opens d n passwd fuel joinError = some (d', events)) ∨
    ∃ id passwd fuel, takeTurn w opens d id passwd fuel = some (d', events) := by
  unfold step at taken
  split at taken
  case h_1 =>
    refine .inl ⟨_, ?_, ?_, taken⟩
    · rintro id turn ⟨⟩
      exact ⟨_, rfl⟩
    · rintro n env ⟨⟩
  case h_2 => cases taken
  case h_3 =>
    split at taken
    · obtain ⟨job, ended, went⟩ := Option.bind_eq_some_iff.mp taken
      refine .inl ⟨_, ?_, ?_, went⟩
      · rintro id turn ⟨⟩
      · rintro n env ⟨⟩ _
        exact ended
    · rename_i goes
      refine .inl ⟨_, ?_, ?_, taken⟩
      · rintro id turn ⟨⟩
      · rintro n env ⟨⟩ waiting
        exact absurd waiting goes
  case h_4 works calls =>
    refine .inl ⟨_, ?_, ?_, taken⟩
    · exact fun id turn same => absurd same (works id turn)
    · exact fun n env same => absurd same (calls n env)
  case h_5 => exact .inr (.inl ⟨_, _, _, _, taken⟩)
  case h_6 => exact .inr (.inr ⟨_, _, _, taken⟩)

omit [DecidableEq Client] in
theorem runJob_ran {n : Nat} {passwd : Except String Text} {fuel : Nat} {joinError : String}
    (taken : runJob w opens d n passwd fuel joinError = some (d', events)) :
    ∃ job user r, d.spawned n = some (job, user) ∧
      runMethod w opens d.shared (fun handle => callOf user passwd none fuel handle job) =
        some r ∧
      d'.daemon = d.daemon ∧ d'.shared = r.state ∧
      d'.spawned = Function.update d.spawned n none ∧
      d'.ended = Function.update d.ended n (some (heard joinError r.out)) ∧
      events = r.log.map (.sensor n) := by
  obtain ⟨⟨job, user⟩, spawned, ran⟩ := Option.bind_eq_some_iff.mp taken
  obtain ⟨r, ended, same⟩ := Option.map_eq_some_iff.mp ran
  obtain ⟨rfl, rfl⟩ := Prod.mk.inj same
  exact ⟨job, user, r, spawned, ended, rfl, rfl, rfl, rfl, rfl⟩

omit [DecidableEq Client] in
theorem takeTurn_ran {id : Nat} {passwd : Except String Text} {fuel : Nat}
    (taken : takeTurn w opens d id passwd fuel = some (d', events)) :
    ∃ op r turn op', d.daemon.ops id = some op ∧
      runMethod w opens d.shared
        (fun handle => callOf op.user passwd (some id) fuel handle op.job) = some r ∧
      turnOf op.job r.out = some turn ∧ Daemon.work d.daemon.current id op turn = some op' ∧
      d' = { d with daemon := (Daemon.put d.daemon id op' []).1, shared := r.state } ∧
      events = r.log.map (.sensor op.call) := by
  obtain ⟨op, at_, ran⟩ := Option.bind_eq_some_iff.mp taken
  obtain ⟨r, ended, ran⟩ := Option.bind_eq_some_iff.mp ran
  obtain ⟨turn, took, ran⟩ := Option.bind_eq_some_iff.mp ran
  obtain ⟨op', worked, same⟩ := Option.map_eq_some_iff.mp ran
  obtain ⟨rfl, rfl⟩ := Prod.mk.inj same
  exact ⟨op, r, turn, op', at_, ended, took, worked, rfl, rfl⟩

end Inversion

/-! What a job does to the shelves is for the user it is about. -/

section Told

def Does : Daemon.Job → ShelfEvent → Prop
  | .list, .listed .. => True
  | .delete, .cleared .. => True
  | .enroll finger, .put _ item _ => item = String.ofList finger
  | .verify _, .seen .. => True
  | _, _ => False

theorem toldOf_mem {passwd : Except String Text} {username : Text}
    {event : SidIdentity → ShelfEvent} {e : ShelfEvent}
    (told : e ∈ Records.toldOf passwd username event) :
    ∃ sid, sidForUser passwd username = .ok sid ∧ e = event sid := by
  unfold Records.toldOf at told
  split at told
  case h_1 sid resolved => exact ⟨sid, resolved, List.mem_singleton.mp told⟩
  case h_2 => cases told

variable {w : Usb.World S} {user : Text} {passwd : Except String Text} {mine : Option Nat}
  {fuel : Nat} {handle : Handle} {job : Daemon.Job} {s : S}

theorem told_by {e : ShelfEvent}
    (told : e ∈ ((callOf user passwd mine fuel handle job).run w s).2) :
    sidForUser passwd user = .ok e.user ∧ Does job e := by
  cases job with
  | list =>
    obtain ⟨sid, resolved, rfl⟩ := toldOf_mem told
    exact ⟨resolved, trivial⟩
  | delete =>
    obtain ⟨sid, resolved, rfl⟩ := toldOf_mem told
    exact ⟨resolved, trivial⟩
  | enroll finger =>
    simp only [callOf, Call.run] at told
    split at told
    · obtain ⟨sid, resolved, rfl⟩ := toldOf_mem told
      exact ⟨resolved, rfl⟩
    · cases told
  | verify finger =>
    obtain ⟨sid, resolved, rfl⟩ := toldOf_mem told
    exact ⟨resolved, trivial⟩

/-- A verification that matches has seen its finger. -/
theorem matched_told {finger : String} {sel : Text}
    (out : outOf w s (callOf user passwd mine fuel handle (.verify sel)) =
      .ok (.verified (.matched finger))) :
    ∃ sid, sidForUser passwd user = .ok sid ∧
      .seen sid (some finger) ∈
        ((callOf user passwd mine fuel handle (.verify sel)).run w s).2 := by
  obtain ⟨outcome, ended, same⟩ := Outcome.bind_eq_ok.mp out
  cases same
  cases resolved : sidForUser passwd user with
  | error e =>
    have fails : (Device.verify w passwd user mine fuel handle.calib handle.cfg.toSensorConfig
        fingerTimeout s).out = .err e := by
      unfold Device.verify
      rw [resolved]
      rfl
    rw [fails] at ended
    cases ended
  | ok sid =>
    refine ⟨sid, rfl, ?_⟩
    simp only [callOf, Call.run, Records.toldOf, resolved, ended, Records.returned?,
      Option.bind_some, Records.recognized?, List.mem_singleton]

end Told

end ValidityFprintd.Whole
