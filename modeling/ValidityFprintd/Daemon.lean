import Mathlib.Logic.Function.Basic
import ValidityFprintd.Authorize
import ValidityFprintd.Device
import ValidityFprintd.Machine

/-! The daemon: method calls of any number of clients, and the tasks of the operations they
start. A call is one step while it holds the state's mutex, and other steps can come in
between wherever it waits for polkit or for a job. -/

namespace ValidityFprintd.Daemon

structure DeviceState (Client : Type) where
  claimedBy : Option Text
  claimOwner : Option Client
  busy : Bool

inductive Method where
  | claim (username : Text)
  | release
  | listEnrolledFingers (username : Text)
  | deleteEnrolledFingers (username : Text)
  | deleteEnrolledFingers2
  | enrollStart (fingerName : Text)
  | enrollStop
  | verifyStart (fingerName : Text)
  | verifyStop
  deriving DecidableEq

/-- How far a call has come. -/
inductive Phase where
  | arrived
  /-- Waiting for polkit, with the user it is for where that is settled already. -/
  | authorizing (user : Option Text)
  | authorized
  /-- Waiting for its job. -/
  | waiting
  deriving DecidableEq

structure Call (Client : Type) where
  sender : Option Client
  method : Method
  phase : Phase

/-- What is done on the sensor. -/
inductive Job where
  | list
  | delete
  | enroll (finger : Text)
  | verify (finger : Text)
  deriving DecidableEq

/-- How far the task of an operation has come. -/
inductive Task where
  /-- A verification, before it has said which finger it waits for. -/
  | selecting
  | launching
  | running
  | ended (result : String)
  | finished
  deriving DecidableEq

/-- What a job says on its channel. -/
inductive Report where
  | stage (result : Except String Nat)
  | retry

def Report.text : Report → String
  | .stage (.ok _) => "enroll-stage-passed"
  | .stage (.error _) => "enroll-retry-scan"
  | .retry => "verify-retry-scan"

/-- An operation: who started it, for whom, and where its task, its channel and the task that
forwards what comes from there are. -/
structure Op (Client : Type) where
  call : Nat
  client : Option Client
  user : Text
  job : Job
  task : Task
  queue : List Report
  /-- What the forwarder has found current and not sent yet. -/
  pending : Option String

inductive Signal where
  | enrollStatus (result : String) (done : Bool)
  | verifyStatus (result : String) (done : Bool)
  | verifyFingerSelected (finger : Text)
  deriving DecidableEq

def Signal.done : Signal → Bool
  | .enrollStatus _ done => done
  | .verifyStatus _ done => done
  | .verifyFingerSelected _ => false

/-- The signal that says how an operation goes. -/
def Job.status (result : String) (done : Bool) : Job → Signal
  | .verify _ => .verifyStatus result done
  | _ => .enrollStatus result done

inductive Reply where
  | done
  | fingers (names : List String)
  | error (e : Error)
  deriving DecidableEq

inductive Event (Client : Type) where
  /-- A call looked its sender up in `/etc/passwd`. -/
  | lookedUp (call : Nat) (client : Client) (passwd : Except String Text)
  /-- Polkit said yes. -/
  | allowed (call : Nat) (client : Client) (action : String)
  | claimed (call : Nat) (client : Option Client) (user : Text)
  | released (call : Nat)
  | stopped (call : Nat)
  | began (call op : Nat) (client : Option Client) (user : Text)
  | launched (call : Nat) (job : Job) (client : Option Client) (user : Text)
  | signal (op : Nat) (s : Signal)
  | replied (call : Nat) (reply : Reply)
  deriving DecidableEq

structure System (Client : Type) where
  state : DeviceState Client
  /-- `CURRENT`, which has 64 bits: too many for an operation's number to come back. -/
  current : Nat
  arrivals : Nat
  calls : Nat → Option (Call Client)
  ops : Nat → Option (Op Client)

def ready (Client : Type) : System Client where
  state := ⟨none, none, false⟩
  current := 0
  arrivals := 0
  calls := fun _ => none
  ops := fun _ => none

variable {Client : Type} [DecidableEq Client]

abbrev Done (Client : Type) := System Client × List (Event Client)

namespace System

variable (d : System Client) (n : Nat)

def reply (r : Reply) (events : List (Event Client)) : Done Client :=
  ({ d with calls := Function.update d.calls n none }, events ++ [.replied n r])

def goOn (call : Call Client) (phase : Phase) (events : List (Event Client)) : Done Client :=
  ({ d with calls := Function.update d.calls n (some { call with phase := phase }) }, events)

end System

def holdsClaim (state : DeviceState Client) (sender : Option Client) : Except Error Unit :=
  match state.claimOwner with
  | some owner =>
    if some owner = sender then .ok ()
    else .error (.accessDenied "the device is claimed by another client")
  | none => .error (.failed "device is not claimed")

/-- The user whose claim stands in the sender's way: an existing claim only blocks a new one
while its owner is still on the bus. -/
def blockedBy (state : DeviceState Client) (sender : Option Client) (env : Answers) :
    Option Text :=
  match state.claimedBy, state.claimOwner with
  | some user, some owner =>
    if sender ≠ some owner ∧ env.peerIsAlive = true then some user else none
  | _, _ => none

section Methods

variable (uid : Client → UInt32) (d : System Client) (n : Nat) (call : Call Client)
  (env : Answers)

def lookups : List (Event Client) :=
  match call.sender, env.unixUser with
  | some client, .ok () => [.lookedUp n client env.passwd]
  | _, _ => []

/-- Polkit's yes, if it was asked and gave it. -/
def permissions (action : String) : List (Event Client) :=
  match call.sender, caller uid env call.sender, env.polkit with
  | some client, .ok _, .answered true => if uid client = 0 then [] else [.allowed n client action]
  | _, _, _ => []

def claim (username : Text) : Done Client :=
  match blockedBy d.state call.sender env with
  | some existing =>
    d.reply n (.error (.failed ("device already claimed by " ++ String.ofList existing))) []
  | none =>
    match resolveUser uid env call.sender username with
    | .error e => d.reply n (.error e) (lookups n call env)
    | .ok user =>
      System.reply { d with state := ⟨some user, call.sender, false⟩, current := d.current + 1 } n
        .done (lookups n call env ++ [.claimed n call.sender user])

def release : Done Client :=
  match holdsClaim d.state call.sender with
  | .error e => d.reply n (.error e) []
  | .ok () =>
    System.reply { d with state := ⟨none, none, false⟩, current := d.current + 1 } n
      .done [.released n]

/-- `enroll_stop` and `verify_stop`. -/
def stop : Done Client :=
  match holdsClaim d.state call.sender with
  | .error e => d.reply n (.error e) []
  | .ok () =>
    System.reply { d with state := { d.state with busy := false }, current := d.current + 1 } n
      .done [.stopped n]

def enrollStop : Done Client := stop d n call

def verifyStop : Done Client := stop d n call

/-- A call about a user, up to where it waits: `launch` is what it does once the user is
settled. -/
def forUser (username : Text) (launch : Text → Done Client) : Done Client :=
  match resolveUser uid env call.sender username with
  | .error e => d.reply n (.error e) (lookups n call env)
  | .ok user => launch user

def listEnrolledFingers (username : Text) : Done Client :=
  forUser uid d n call env username fun user =>
    d.goOn n call .waiting (lookups n call env ++ [.launched n .list call.sender user])

def deleteEnrolledFingers (username : Text) : Done Client :=
  forUser uid d n call env username fun user =>
    d.goOn n call (.authorizing (some user)) (lookups n call env)

def deleteEnrolledFingers2 : Done Client :=
  match holdsClaim d.state call.sender with
  | .error e => d.reply n (.error e) []
  | .ok () =>
    match d.state.claimedBy with
    | none => d.reply n (.error (.failed "device is not claimed")) []
    | some user => d.goOn n call (.authorizing (some user)) []

/-- Behind polkit's answer: what the call may do then, or its error. -/
def onceAuthorized (allowed : List (Event Client) → Done Client) : Done Client :=
  let events := lookups n call env ++ permissions uid n call env enrollAction
  match authorize uid env call.sender enrollAction with
  | .error e => d.reply n (.error e) events
  | .ok () => allowed events

def launchDelete (user : Text) : Done Client :=
  onceAuthorized uid d n call env fun events =>
    d.goOn n call .waiting (events ++ [.launched n .delete call.sender user])

def enrollStart : Done Client :=
  match holdsClaim d.state call.sender with
  | .error e => d.reply n (.error e) []
  | .ok () => d.goOn n call (.authorizing none) []

/-- The claim and `busy` are looked at, and the operation begun, under one lock. -/
def start (job : Job) (task : Task) : Done Client :=
  match holdsClaim d.state call.sender with
  | .error e => d.reply n (.error e) []
  | .ok () =>
    match d.state.claimedBy with
    | none => d.reply n (.error (.failed "device is not claimed")) []
    | some user =>
      if d.state.busy then d.reply n (.error (.failed "an operation is already running")) []
      else
        let op := d.current + 1
        System.reply
          { d with
            state := { d.state with busy := true }
            current := op
            ops := Function.update d.ops op (some ⟨n, call.sender, user, job, task, [], none⟩) }
          n .done [.began n op call.sender user]

/-- Clients may ask for any finger; the sensor needs a concrete one. -/
def concreteFinger (fingerName : Text) : Text :=
  if fingerName = "any".toList ∨ fingerName = [] then "right-index-finger".toList else fingerName

def enrollBegin (fingerName : Text) : Done Client :=
  start d n call (.enroll (concreteFinger fingerName)) .launching

def verifyStart (fingerName : Text) : Done Client :=
  start d n call (.verify fingerName) .selecting

def jobReply (names : List String → Reply) : Done Client :=
  match env.job with
  | .error e => d.reply n (.error (.failed e)) []
  | .ok found => d.reply n (names found) []

def advance : Option (Done Client) :=
  match call.method, call.phase with
  | .claim username, .arrived => some (claim uid d n call env username)
  | .release, .arrived => some (release d n call)
  | .listEnrolledFingers username, .arrived =>
    some (listEnrolledFingers uid d n call env username)
  | .listEnrolledFingers _, .waiting => some (jobReply d n env .fingers)
  | .deleteEnrolledFingers username, .arrived =>
    some (deleteEnrolledFingers uid d n call env username)
  | .deleteEnrolledFingers _, .authorizing (some user) => some (launchDelete uid d n call env user)
  | .deleteEnrolledFingers _, .waiting => some (jobReply d n env fun _ => .done)
  | .deleteEnrolledFingers2, .arrived => some (deleteEnrolledFingers2 d n call)
  | .deleteEnrolledFingers2, .authorizing (some user) => some (launchDelete uid d n call env user)
  | .deleteEnrolledFingers2, .waiting => some (jobReply d n env fun _ => .done)
  | .enrollStart _, .arrived => some (enrollStart d n call)
  | .enrollStart _, .authorizing _ =>
    some (onceAuthorized uid d n call env fun events => d.goOn n call .authorized events)
  | .enrollStart fingerName, .authorized => some (enrollBegin d n call fingerName)
  | .enrollStop, .arrived => some (enrollStop d n call)
  | .verifyStart fingerName, .arrived => some (verifyStart d n call fingerName)
  | .verifyStop, .arrived => some (verifyStop d n call)
  | _, _ => none

end Methods

section Tasks

/-- What the sensor came to in a turn of a job. -/
inductive Turn where
  | stage (result : Except String Nat)
  | enrolled (outcome : Except String UInt16)
  | verified (outcome : Except String Device.VerifyOutcome)
  | panicked

def contains (text part : String) : Bool :=
  text.toList.tails.any fun tail => part.toList.isPrefixOf tail

variable (current : Nat) (id : Nat) (op : Op Client)

/-- A turn of an operation's job. A verification goes on while it is current and its scans
cannot be used; an enrolment goes on by itself. -/
def work (turn : Turn) : Option (Op Client) :=
  match op.task, op.job, turn with
  | .running, .enroll _, .stage result => some { op with queue := op.queue ++ [.stage result] }
  | .running, .enroll _, .enrolled (.ok _) => some { op with task := .ended "enroll-completed" }
  | .running, .enroll _, .enrolled (.error _) => some { op with task := .ended "enroll-failed" }
  | .running, .enroll _, .panicked => some { op with task := .ended "enroll-failed" }
  | .running, .verify _, .verified (.ok (.retry why)) =>
    if current = id then
      if contains why Capture.noFinger then some op
      else some { op with queue := op.queue ++ [.retry] }
    else some { op with task := .ended "verify-retry-scan" }
  | .running, .verify _, .verified (.ok (.matched _)) =>
    some { op with task := .ended "verify-match" }
  | .running, .verify _, .verified (.ok .noMatch) =>
    some { op with task := .ended "verify-no-match" }
  | .running, .verify _, .verified (.error _) =>
    some { op with task := .ended "verify-unknown-error" }
  | .running, .verify _, .panicked => some { op with task := .ended "verify-unknown-error" }
  | _, _, _ => none

end Tasks

inductive Label (Client : Type) where
  | arrive (sender : Option Client) (method : Method)
  | call (n : Nat) (env : Answers)
  /-- A verification says which finger it waits for. -/
  | select (op : Nat)
  | launch (op : Nat)
  | work (op : Nat) (turn : Turn)
  /-- The forwarder takes a report, and looks whether its operation is current. -/
  | check (op : Nat)
  /-- It sends what it found current. -/
  | forward (op : Nat)
  | finish (op : Nat)

section Step

variable (d : System Client) (id : Nat) (op : Op Client)

def put (op' : Op Client) (events : List (Event Client)) : Done Client :=
  ({ d with ops := Function.update d.ops id (some op') }, events)

def select : Option (Done Client) :=
  match op.task, op.job with
  | .selecting, .verify finger =>
    some (put d id { op with task := .launching } [.signal id (.verifyFingerSelected finger)])
  | _, _ => none

def launch : Option (Done Client) :=
  match op.task with
  | .launching =>
    some (put d id { op with task := .running } [.launched op.call op.job op.client op.user])
  | _ => none

def check : Option (Done Client) :=
  match op.pending, op.queue with
  | none, report :: queue =>
    let pending := if d.current = id then some report.text else none
    some (put d id { op with queue := queue, pending := pending } [])
  | _, _ => none

def forward : Option (Done Client) :=
  match op.pending with
  | some text =>
    some (put d id { op with pending := none } [.signal id (op.job.status text false)])
  | none => none

/-- Say how an operation went, and free the device, but only if it is still the one going
on. The signal is sent with the state held. -/
def finish : Option (Done Client) :=
  match op.task with
  | .ended result =>
    let d' := (put d id { op with task := .finished } []).1
    if d.current = id then
      some ({ d' with state := { d.state with busy := false } },
        [.signal id (op.job.status result true)])
    else some (d', [])
  | _ => none

def step (uid : Client → UInt32) (d : System Client) : Label Client → Option (Done Client)
  | .arrive sender method =>
    some ({ d with
      arrivals := d.arrivals + 1
      calls := Function.update d.calls d.arrivals (some ⟨sender, method, .arrived⟩) }, [])
  | .call n env => (d.calls n).bind fun call => advance uid d n call env
  | .select id => (d.ops id).bind (select d id)
  | .launch id => (d.ops id).bind (launch d id)
  | .work id turn => (d.ops id).bind fun op => (work d.current id op turn).map (put d id · [])
  | .check id => (d.ops id).bind (check d id)
  | .forward id => (d.ops id).bind (forward d id)
  | .finish id => (d.ops id).bind (finish d id)

end Step

def machine (uid : Client → UInt32) : Machine (System Client) (Label Client) (Event Client) where
  init := ready Client
  step := step uid

abbrev History (Client : Type) := List (Machine.Move (System Client) (Label Client) (Event Client))

end ValidityFprintd.Daemon
