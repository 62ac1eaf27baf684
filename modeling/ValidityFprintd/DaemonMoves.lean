import ValidityFprintd.Daemon

/-! What one step of the daemon can do, said once: the steps of its functions as the cases of
a relation. -/

namespace ValidityFprintd.Daemon

variable {Client : Type}

theorem update_cases {α : Type} {f : Nat → Option α} {i j : Nat} {a b : α}
    (h : Function.update f i (some a) j = some b) : (j = i ∧ a = b) ∨ f j = some b := by
  by_cases same : j = i
  · rw [same, Function.update_self] at h
    exact .inl ⟨same, Option.some.inj h⟩
  · rw [Function.update_of_ne same] at h
    exact .inr h

/-- A lookup of the sender, or polkit's yes to it. -/
def Event.sight : Event Client → Bool
  | .lookedUp .. => true
  | .allowed .. => true
  | _ => false

/-- With such an event the claim or the operation going on is another. -/
def Event.changes : Event Client → Bool
  | .claimed .. => true
  | .released _ => true
  | .stopped _ => true
  | .began .. => true
  | _ => false

def Event.final (id : Nat) : Event Client → Bool
  | .signal op s => op = id && s.done
  | _ => false

def Event.plain : Event Client → Bool
  | .lookedUp .. => true
  | .allowed .. => true
  | .launched .. => true
  | .replied .. => true
  | _ => false

theorem Event.plain_changes {e : Event Client} (h : e.plain = true) : e.changes = false := by
  cases e <;> first | rfl | cases h

theorem Event.plain_final {e : Event Client} (h : e.plain = true) (id : Nat) :
    e.final id = false := by
  cases e <;> first | rfl | cases h

theorem Event.sight_plain {e : Event Client} (h : e.sight = true) : e.plain = true := by
  cases e <;> first | rfl | cases h

/-- A call settled that `user` is its client's own name, or its client is root. -/
def Named (uid : Client → UInt32) (n : Nat) (client : Client) (user : Text)
    (events : List (Event Client)) : Prop :=
  uid client = 0 ∨ ∃ passwd, .lookedUp n client passwd ∈ events ∧
    Passwd.usernameForUid passwd (uid client) = .ok user

/-- Polkit said yes to a call's client, or its client is root. -/
def Permitted (uid : Client → UInt32) (n : Nat) (client : Client)
    (events : List (Event Client)) : Prop :=
  uid client = 0 ∨ .allowed n client enrollAction ∈ events

section Events

variable {uid : Client → UInt32} {n : Nat} {client : Client} {user : Text}
  {events more : List (Event Client)}

theorem Named.mono (h : Named uid n client user events) (sub : ∀ e ∈ events, e ∈ more) :
    Named uid n client user more := by
  cases h with
  | inl root => exact .inl root
  | inr seen =>
    obtain ⟨passwd, looked, name⟩ := seen
    exact .inr ⟨passwd, sub _ looked, name⟩

theorem Permitted.mono (h : Permitted uid n client events) (sub : ∀ e ∈ events, e ∈ more) :
    Permitted uid n client more := by
  cases h with
  | inl root => exact .inl root
  | inr yes => exact .inr (sub _ yes)

end Events

section Sights

variable {uid : Client → UInt32} {n : Nat} {call : Call Client} {env : Answers}

theorem lookups_sight : ∀ e ∈ lookups n call env, e.sight = true := by
  intro e mem
  unfold lookups at mem
  split at mem
  · rw [List.mem_singleton.mp mem]
    rfl
  · cases mem

theorem permissions_sight {action : String} :
    ∀ e ∈ permissions uid n call env action, e.sight = true := by
  intro e mem
  unfold permissions at mem
  split at mem
  · split at mem
    · cases mem
    · rw [List.mem_singleton.mp mem]
      rfl
  · cases mem

theorem sights_append {action : String} :
    ∀ e ∈ lookups n call env ++ permissions uid n call env action, e.sight = true := by
  intro e mem
  cases List.mem_append.mp mem with
  | inl looked => exact lookups_sight e looked
  | inr yes => exact permissions_sight e yes

theorem resolveUser_named {username user : Text}
    (h : resolveUser uid env call.sender username = .ok user) :
    ∃ client, call.sender = some client ∧ Named uid n client user (lookups n call env) := by
  obtain ⟨client, sent, here, name⟩ := resolveUser_ok h
  refine ⟨client, sent, ?_⟩
  cases name with
  | inl root => exact .inl root
  | inr own =>
    refine .inr ⟨env.passwd, ?_, own⟩
    unfold lookups
    rw [sent, here]
    exact List.mem_singleton.mpr rfl

theorem authorize_permitted (h : authorize uid env call.sender enrollAction = .ok ()) :
    ∃ client, call.sender = some client ∧ Permitted uid n client
      (lookups n call env ++ permissions uid n call env enrollAction) := by
  obtain ⟨client, name, sent, called, allowed⟩ := authorize_ok h
  refine ⟨client, sent, ?_⟩
  by_cases root : uid client = 0
  · exact .inl root
  · have yes : env.polkit = .answered true := allowed.resolve_left root
    refine .inr (List.mem_append_right _ ?_)
    unfold permissions
    rw [called, yes, sent]
    simp [root]

end Sights

section Quiet

variable (uid : Client → UInt32) (d : System Client) (n : Nat) (call : Call Client)

/-- The steps of a call that leave the device and its operations as they are. -/
inductive Quiet : Done Client → Prop
  | fails (e : Error) {events : List (Event Client)} (sights : ∀ ev ∈ events, ev.sight = true) :
      Quiet (d.reply n (.error e) events)
  | answers (r : Reply) : Quiet (d.reply n r [])
  /-- `delete_enrolled_fingers`, before polkit. -/
  | named {client : Client} {user : Text} {events : List (Event Client)}
      (sights : ∀ ev ∈ events, ev.sight = true) (sent : call.sender = some client)
      (name : Named uid n client user events) :
      Quiet (d.goOn n call (.authorizing (some user)) events)
  /-- `delete_enrolled_fingers2`, before polkit. -/
  | held {client : Client} {user : Text} (sent : call.sender = some client)
      (owner : d.state.claimOwner = some client) (claimed : d.state.claimedBy = some user) :
      Quiet (d.goOn n call (.authorizing (some user)) [])
  /-- `enroll_start`, before polkit. -/
  | asks : Quiet (d.goOn n call (.authorizing none) [])
  /-- `enroll_start`, behind polkit. -/
  | permitted {client : Client} {events : List (Event Client)}
      (sights : ∀ ev ∈ events, ev.sight = true) (sent : call.sender = some client)
      (yes : Permitted uid n client events) :
      Quiet (d.goOn n call .authorized events)
  | lists {client : Client} {user : Text} {events : List (Event Client)}
      (sights : ∀ ev ∈ events, ev.sight = true) (sent : call.sender = some client)
      (name : Named uid n client user events) :
      Quiet (d.goOn n call .waiting (events ++ [.launched n .list call.sender user]))
  | deletes {client : Client} {user : Text} {events : List (Event Client)}
      (sights : ∀ ev ∈ events, ev.sight = true) (sent : call.sender = some client)
      (named : call.phase = .authorizing (some user)) (yes : Permitted uid n client events) :
      Quiet (d.goOn n call .waiting (events ++ [.launched n .delete call.sender user]))

/-- The steps of an operation's task and of its forwarder, the end of a current one apart. -/
inductive OpMove (id : Nat) (op : Op Client) : Op Client → List (Event Client) → Prop
  | selects (finger : Text) (task : op.task = .selecting) (job : op.job = .verify finger) :
      OpMove id op { op with task := .launching } [.signal id (.verifyFingerSelected finger)]
  | launches (task : op.task = .launching) :
      OpMove id op { op with task := .running } [.launched op.call op.job op.client op.user]
  | works {task : Task} {queue : List Report} (runs : op.task = .running)
      (goesOn : task ≠ .finished ∧ task ≠ .selecting) :
      OpMove id op { op with task := task, queue := queue } []
  | checks {report : Report} {queue : List Report} {pending : Option String}
      (idle : op.pending = none) (waiting : op.queue = report :: queue)
      (found : pending ≠ none → d.current = id) :
      OpMove id op { op with queue := queue, pending := pending } []
  | forwards {text : String} (found : op.pending = some text) :
      OpMove id op { op with pending := none } [.signal id (op.job.status text false)]
  | stale {result : String} (task : op.task = .ended result) (old : d.current ≠ id) :
      OpMove id op { op with task := .finished } []

end Quiet

section QuietCases

variable {uid : Client → UInt32} {d : System Client} {n : Nat} {call : Call Client}
  {env : Answers}

theorem work_moves {id : Nat} {op op' : Op Client} {turn : Turn}
    (h : work d.current id op turn = some op') :
    OpMove d id op op' [] := by
  have ends {result : String} (runs : op.task = .running) :
      OpMove d id op { op with task := .ended result } [] :=
    .works runs ⟨Task.noConfusion, Task.noConfusion⟩
  have again {queue : List Report} (runs : op.task = .running) :
      OpMove d id op { op with queue := queue } [] :=
    .works runs ⟨runs ▸ Task.noConfusion, runs ▸ Task.noConfusion⟩
  unfold work at h
  split at h
  case h_1 runs _ => exact Option.some.inj h ▸ again runs
  case h_2 runs _ => exact Option.some.inj h ▸ ends runs
  case h_3 runs _ => exact Option.some.inj h ▸ ends runs
  case h_4 runs _ => exact Option.some.inj h ▸ ends runs
  case h_5 runs _ =>
    split at h
    · split at h
      · exact Option.some.inj h ▸ again runs
      · exact Option.some.inj h ▸ again runs
    · exact Option.some.inj h ▸ ends runs
  case h_6 runs _ => exact Option.some.inj h ▸ ends runs
  case h_7 runs _ => exact Option.some.inj h ▸ ends runs
  case h_8 runs _ => exact Option.some.inj h ▸ ends runs
  case h_9 runs _ => exact Option.some.inj h ▸ ends runs
  case h_10 => cases h

theorem listEnrolledFingers_moves {username : Text} :
    Quiet uid d n call (listEnrolledFingers uid d n call env username) := by
  unfold listEnrolledFingers forUser
  split
  · exact .fails _ lookups_sight
  · rename_i user resolved
    obtain ⟨client, sent, name⟩ := resolveUser_named resolved
    exact .lists lookups_sight sent name

theorem deleteEnrolledFingers_moves {username : Text} :
    Quiet uid d n call (deleteEnrolledFingers uid d n call env username) := by
  unfold deleteEnrolledFingers forUser
  split
  · exact .fails _ lookups_sight
  · rename_i user resolved
    obtain ⟨client, sent, name⟩ := resolveUser_named resolved
    exact .named lookups_sight sent name

theorem launchDelete_moves {user : Text} (named : call.phase = .authorizing (some user)) :
    Quiet uid d n call (launchDelete uid d n call env user) := by
  unfold launchDelete onceAuthorized
  simp only
  split
  · exact .fails _ sights_append
  · rename_i allowed
    obtain ⟨client, sent, yes⟩ := authorize_permitted allowed
    exact .deletes sights_append sent named yes

theorem enrollPolkit_moves : Quiet uid d n call
    (onceAuthorized uid d n call env fun events => d.goOn n call .authorized events) := by
  unfold onceAuthorized
  simp only
  split
  · exact .fails _ sights_append
  · rename_i allowed
    obtain ⟨client, sent, yes⟩ := authorize_permitted allowed
    exact .permitted sights_append sent yes

theorem jobReply_moves {names : List String → Reply} :
    Quiet uid d n call (jobReply d n env names) := by
  unfold jobReply
  split
  · exact .fails _ (by simp)
  · exact .answers _

end QuietCases

section Frames

variable {uid : Client → UInt32} {d : System Client} {n id : Nat} {call : Call Client}
  {r : Done Client} {op op' : Op Client} {events : List (Event Client)}

theorem Quiet.keeps (q : Quiet uid d n call r) :
    r.1.state = d.state ∧ r.1.current = d.current ∧ r.1.ops = d.ops := by
  cases q <;> exact ⟨rfl, rfl, rfl⟩

theorem plain_append {last : Event Client} (sights : ∀ e ∈ events, e.sight = true)
    (plain : last.plain = true) : ∀ e ∈ events ++ [last], e.plain = true := by
  intro e mem
  cases List.mem_append.mp mem with
  | inl seen => exact Event.sight_plain (sights e seen)
  | inr now => exact List.mem_singleton.mp now ▸ plain

theorem Quiet.plain (q : Quiet uid d n call r) : ∀ e ∈ r.2, e.plain = true := by
  cases q with
  | fails e sights => exact plain_append sights rfl
  | answers r => exact plain_append (by simp) rfl
  | named sights => exact fun e mem => Event.sight_plain (sights e mem)
  | held => exact fun e mem => absurd mem List.not_mem_nil
  | asks => exact fun e mem => absurd mem List.not_mem_nil
  | permitted sights => exact fun e mem => Event.sight_plain (sights e mem)
  | lists sights => exact plain_append sights rfl
  | deletes sights => exact plain_append sights rfl

theorem Job.status_done (result : String) (done : Bool) (job : Job) :
    (job.status result done).done = done := by
  cases job <;> rfl

/-- What an operation is does not change, and one goes on that is current. -/
theorem OpMove.keeps (m : OpMove d id op op' events) : op'.call = op.call ∧
    op'.client = op.client ∧ op'.user = op.user ∧ op'.job = op.job ∧
    (op.task = .finished → op'.task = .finished) ∧
    (op'.task = .finished → op.task = .finished ∨ d.current ≠ id) := by
  cases m with
  | selects finger task => simp [task]
  | launches task => simp [task]
  | works runs goesOn => simp [runs, goesOn.1]
  | checks => simpa using fun ended => Or.inl ended
  | forwards => simpa using fun ended => Or.inl ended
  | stale task old => simp [old]

theorem OpMove.calm (m : OpMove d id op op' events) :
    ∀ e ∈ events, e.changes = false ∧ ∀ i, e.final i = false := by
  cases m with
  | selects finger => simp [Event.changes, Event.final, Signal.done]
  | launches => simp [Event.changes, Event.final]
  | works => simp
  | checks => simp
  | forwards =>
    cases job : op.job <;> simp [Event.changes, Event.final, Signal.done, Job.status]
  | stale => simp

end Frames

section Effects

variable {events : List (Event Client)} {e : Event Client} {n : Nat} {r : Reply}

theorem effect_mem (sights : ∀ ev ∈ events, ev.sight = true) {ev : Event Client}
    (mem : ev ∈ events ++ [e] ++ [.replied n r]) : ev.plain = true ∨ ev = e := by
  cases List.mem_append.mp mem with
  | inl front =>
    cases List.mem_append.mp front with
    | inl seen => exact .inl (Event.sight_plain (sights ev seen))
    | inr now => exact .inr (List.mem_singleton.mp now)
  | inr last =>
    rw [List.mem_singleton.mp last]
    exact .inl rfl

theorem effect_noBegun (sights : ∀ ev ∈ events, ev.sight = true)
    (other : ∀ n id client user, e ≠ .began n id client user) (n' id : Nat) (client : Option Client)
    (user : Text) : .began n' id client user ∉ events ++ [e] ++ [.replied n r] := by
  intro mem
  cases effect_mem sights mem with
  | inl plain => cases plain
  | inr now => exact other n' id client user now.symm

theorem effect_noFinal (sights : ∀ ev ∈ events, ev.sight = true) (other : ∀ i, e.final i = false) :
    ∀ ev ∈ events ++ [e] ++ [.replied n r], ∀ i, ev.final i = false := by
  intro ev mem
  cases effect_mem sights mem with
  | inl plain => exact Event.plain_final plain
  | inr now => exact now ▸ other

end Effects

variable [DecidableEq Client]

theorem holdsClaim_ok {state : DeviceState Client} {sender : Option Client}
    (h : holdsClaim state sender = .ok ()) :
    ∃ owner, state.claimOwner = some owner ∧ sender = some owner := by
  unfold holdsClaim at h
  split at h
  · rename_i owner held
    split at h
    · rename_i same
      exact ⟨owner, held, same.symm⟩
    · cases h
  · cases h

theorem blockedBy_none {state : DeviceState Client} {sender : Option Client} {env : Answers}
    {user : Text} {owner : Client} (h : blockedBy state sender env = none)
    (claimed : state.claimedBy = some user) (held : state.claimOwner = some owner) :
    sender = some owner ∨ env.peerIsAlive = false := by
  unfold blockedBy at h
  rw [claimed, held] at h
  by_cases same : sender = some owner
  · exact .inl same
  · refine .inr (Bool.eq_false_iff.mpr ?_)
    intro alive
    simp [same, alive] at h

section Moves

variable (uid : Client → UInt32) (d : System Client) (n : Nat) (call : Call Client)

/-- The state with another claim, and without the operation going on. -/
def System.claimFor (claimedBy : Option Text) (claimOwner : Option Client) : System Client :=
  { d with state := ⟨claimedBy, claimOwner, false⟩, current := d.current + 1 }

def System.stopped : System Client :=
  { d with state := { d.state with busy := false }, current := d.current + 1 }

def System.started (op : Op Client) : System Client :=
  { d with
    state := { d.state with busy := true }
    current := d.current + 1
    ops := Function.update d.ops (d.current + 1) (some op) }

/-- Whether the next step of a call makes the claim, or the operation going on, another. -/
def TakesEffect (env : Answers) : Prop :=
  match call.method, call.phase with
  | .claim username, .arrived => blockedBy d.state call.sender env = none ∧
    ∃ user, resolveUser uid env call.sender username = .ok user
  | .release, .arrived => holdsClaim d.state call.sender = .ok ()
  | .enrollStop, .arrived => holdsClaim d.state call.sender = .ok ()
  | .verifyStop, .arrived => holdsClaim d.state call.sender = .ok ()
  | .enrollStart _, .authorized => holdsClaim d.state call.sender = .ok () ∧
    (∃ user, d.state.claimedBy = some user) ∧ d.state.busy = false
  | .verifyStart _, .arrived => holdsClaim d.state call.sender = .ok () ∧
    (∃ user, d.state.claimedBy = some user) ∧ d.state.busy = false
  | _, _ => False

/-- The steps of a call. -/
inductive CallMove (env : Answers) : Done Client → Prop
  | quiet {r : Done Client} (q : Quiet uid d n call r) : CallMove env r
  | claims {client : Client} {username user : Text} {events : List (Event Client)}
      (method : call.method = .claim username) (free : blockedBy d.state call.sender env = none)
      (sights : ∀ ev ∈ events, ev.sight = true) (sent : call.sender = some client)
      (name : Named uid n client user events) (effect : TakesEffect uid d call env) :
      CallMove env ((d.claimFor (some user) call.sender).reply n .done
        (events ++ [.claimed n call.sender user]))
  | releases {owner : Client} (sent : call.sender = some owner)
      (held : d.state.claimOwner = some owner) (effect : TakesEffect uid d call env) :
      CallMove env ((d.claimFor none none).reply n .done [.released n])
  | stops {owner : Client} (sent : call.sender = some owner)
      (held : d.state.claimOwner = some owner) (effect : TakesEffect uid d call env) :
      CallMove env (d.stopped.reply n .done [.stopped n])
  | starts {owner : Client} {user : Text} {job : Job} {task : Task}
      (sent : call.sender = some owner) (held : d.state.claimOwner = some owner)
      (claimed : d.state.claimedBy = some user) (free : d.state.busy = false)
      (unfinished : task ≠ .finished)
      (kind : (∃ finger, job = .verify finger) ∨
        (∃ finger, job = .enroll finger) ∧ task = .launching ∧ call.phase = .authorized)
      (effect : TakesEffect uid d call env) :
      CallMove env ((d.started ⟨n, call.sender, user, job, task, [], none⟩).reply n .done
        [.began n (d.current + 1) call.sender user])

def System.freed : System Client := { d with state := { d.state with busy := false } }

/-- What a step can do under each label. -/
inductive Moves : Label Client → Done Client → Prop
  | arrives (sender : Option Client) (method : Method) :
      Moves (.arrive sender method)
        ({ d with
          arrivals := d.arrivals + 1
          calls := Function.update d.calls d.arrivals (some ⟨sender, method, .arrived⟩) }, [])
  | calls {n : Nat} {call : Call Client} {env : Answers} {r : Done Client}
      (at_ : d.calls n = some call) (moved : CallMove uid d n call env r) : Moves (.call n env) r
  | turns {label : Label Client} {id : Nat} {op op' : Op Client} {events : List (Event Client)}
      (at_ : d.ops id = some op) (moved : OpMove d id op op' events) :
      Moves label (put d id op' events)
  | finishes {id : Nat} {op : Op Client} {result : String} (at_ : d.ops id = some op)
      (task : op.task = .ended result) (current : d.current = id) :
      Moves (.finish id) (put d.freed id { op with task := .finished }
        [.signal id (op.job.status result true)])

end Moves

section Cases

variable {uid : Client → UInt32} {d : System Client} {n : Nat} {call : Call Client}
  {env : Answers}

theorem claim_moves {username : Text} (method : call.method = .claim username)
    (phase : call.phase = .arrived) :
    CallMove uid d n call env (claim uid d n call env username) := by
  unfold claim
  split
  · exact .quiet (.fails _ (by simp))
  · rename_i free
    split
    · exact .quiet (.fails _ lookups_sight)
    · rename_i user resolved
      obtain ⟨client, sent, name⟩ := resolveUser_named resolved
      refine .claims method free lookups_sight sent name ?_
      simpa only [TakesEffect, method, phase] using ⟨free, user, resolved⟩

theorem release_moves
    (effect : holdsClaim d.state call.sender = .ok () → TakesEffect uid d call env) :
    CallMove uid d n call env (release d n call) := by
  unfold release
  split
  · exact .quiet (.fails _ (by simp))
  · rename_i holds
    obtain ⟨owner, held, sent⟩ := holdsClaim_ok holds
    exact .releases sent held (effect holds)

theorem stop_moves
    (effect : holdsClaim d.state call.sender = .ok () → TakesEffect uid d call env) :
    CallMove uid d n call env (stop d n call) := by
  unfold stop
  split
  · exact .quiet (.fails _ (by simp))
  · rename_i holds
    obtain ⟨owner, held, sent⟩ := holdsClaim_ok holds
    exact .stops sent held (effect holds)

theorem deleteEnrolledFingers2_moves :
    Quiet uid d n call (deleteEnrolledFingers2 d n call) := by
  unfold deleteEnrolledFingers2
  split
  · exact .fails _ (by simp)
  · rename_i holds
    obtain ⟨owner, held, sent⟩ := holdsClaim_ok holds
    split
    · exact .fails _ (by simp)
    · rename_i user claimed
      exact .held sent held claimed

theorem enrollStart_moves : Quiet uid d n call (enrollStart d n call) := by
  unfold enrollStart
  split
  · exact .fails _ (by simp)
  · exact .asks

theorem start_moves {job : Job} {task : Task} (unfinished : task ≠ .finished)
    (kind : (∃ finger, job = .verify finger) ∨
      (∃ finger, job = .enroll finger) ∧ task = .launching ∧ call.phase = .authorized)
    (effect : holdsClaim d.state call.sender = .ok () ∧
      (∃ user, d.state.claimedBy = some user) ∧ d.state.busy = false → TakesEffect uid d call env) :
    CallMove uid d n call env (start d n call job task) := by
  unfold start
  split
  · exact .quiet (.fails _ (by simp))
  · rename_i holds
    obtain ⟨owner, held, sent⟩ := holdsClaim_ok holds
    split
    · exact .quiet (.fails _ (by simp))
    · rename_i user claimed
      split
      · exact .quiet (.fails _ (by simp))
      · rename_i free
        replace free : d.state.busy = false := Bool.eq_false_iff.mpr free
        exact .starts sent held claimed free unfinished kind (effect ⟨holds, ⟨user, claimed⟩, free⟩)

theorem advance_moves {r : Done Client} (h : advance uid d n call env = some r) :
    CallMove uid d n call env r := by
  unfold advance at h
  split at h
  case h_1 username method phase => exact Option.some.inj h ▸ claim_moves method phase
  case h_2 method phase =>
    exact Option.some.inj h ▸ release_moves fun holds => by simpa only [TakesEffect, method, phase]
  case h_3 method phase => exact Option.some.inj h ▸ .quiet listEnrolledFingers_moves
  case h_4 method phase => exact Option.some.inj h ▸ .quiet jobReply_moves
  case h_5 method phase => exact Option.some.inj h ▸ .quiet deleteEnrolledFingers_moves
  case h_6 user method phase => exact Option.some.inj h ▸ .quiet (launchDelete_moves phase)
  case h_7 method phase => exact Option.some.inj h ▸ .quiet jobReply_moves
  case h_8 method phase => exact Option.some.inj h ▸ .quiet deleteEnrolledFingers2_moves
  case h_9 user method phase => exact Option.some.inj h ▸ .quiet (launchDelete_moves phase)
  case h_10 method phase => exact Option.some.inj h ▸ .quiet jobReply_moves
  case h_11 method phase => exact Option.some.inj h ▸ .quiet enrollStart_moves
  case h_12 method phase => exact Option.some.inj h ▸ .quiet enrollPolkit_moves
  case h_13 fingerName method phase =>
    exact Option.some.inj h ▸ start_moves Task.noConfusion (.inr ⟨⟨_, rfl⟩, rfl, phase⟩)
      fun free => by simpa only [TakesEffect, method, phase]
  case h_14 method phase =>
    exact Option.some.inj h ▸ stop_moves fun holds => by simpa only [TakesEffect, method, phase]
  case h_15 fingerName method phase =>
    exact Option.some.inj h ▸ start_moves Task.noConfusion (.inl ⟨_, rfl⟩)
      fun free => by simpa only [TakesEffect, method, phase]
  case h_16 method phase =>
    exact Option.some.inj h ▸ stop_moves fun holds => by simpa only [TakesEffect, method, phase]
  case h_17 => cases h

theorem effect_said {r : Done Client} (h : advance uid d n call env = some r)
    (effect : TakesEffect uid d call env) : (∃ e ∈ r.2, e.changes = true) ∧
      ∀ id, id ≠ d.current + 1 → r.1.ops id = d.ops id := by
  have started {job : Job} {task : Task} (free : holdsClaim d.state call.sender = .ok () ∧
      (∃ user, d.state.claimedBy = some user) ∧ d.state.busy = false) :
      (∃ e ∈ (start d n call job task).2, e.changes = true) ∧
        ∀ id, id ≠ d.current + 1 → (start d n call job task).1.ops id = d.ops id := by
    obtain ⟨holds, ⟨user, claimed⟩, idle⟩ := free
    simp only [start, holds, claimed, idle]
    exact ⟨⟨_, List.mem_cons_self, rfl⟩, fun id other => Function.update_of_ne other _ _⟩
  have stopped (holds : holdsClaim d.state call.sender = .ok ()) :
      (∃ e ∈ (stop d n call).2, e.changes = true) ∧
        ∀ id, id ≠ d.current + 1 → (stop d n call).1.ops id = d.ops id := by
    simp only [stop, holds]
    exact ⟨⟨_, List.mem_cons_self, rfl⟩, fun _ _ => rfl⟩
  unfold TakesEffect at effect
  split at effect
  case h_1 username method phase =>
    obtain ⟨free, user, resolved⟩ := effect
    simp only [advance, method, phase, claim, free, resolved, Option.some.injEq] at h
    subst h
    exact ⟨⟨_, List.mem_append_left _ (List.mem_append_right _ List.mem_cons_self), rfl⟩,
      fun _ _ => rfl⟩
  case h_2 method phase =>
    simp only [advance, method, phase, release, effect, Option.some.injEq] at h
    subst h
    exact ⟨⟨_, List.mem_cons_self, rfl⟩, fun _ _ => rfl⟩
  case h_3 method phase =>
    simp only [advance, method, phase, enrollStop, Option.some.injEq] at h
    exact h ▸ stopped effect
  case h_4 method phase =>
    simp only [advance, method, phase, verifyStop, Option.some.injEq] at h
    exact h ▸ stopped effect
  case h_5 method phase =>
    simp only [advance, method, phase, enrollBegin, Option.some.injEq] at h
    exact h ▸ started effect
  case h_6 method phase =>
    simp only [advance, method, phase, verifyStart, Option.some.injEq] at h
    exact h ▸ started effect
  case h_7 => exact effect.elim

variable {id : Nat} {op : Op Client} {r : Done Client} {label : Label Client}

theorem select_moves (at_ : d.ops id = some op) (h : select d id op = some r) :
    Moves uid d label r := by
  unfold select at h
  split at h
  · rename_i finger task job
    exact Option.some.inj h ▸ .turns at_ (.selects finger task job)
  · cases h

theorem launch_moves (at_ : d.ops id = some op) (h : launch d id op = some r) :
    Moves uid d label r := by
  unfold launch at h
  split at h
  · rename_i task
    exact Option.some.inj h ▸ .turns at_ (.launches task)
  · cases h

theorem check_moves (at_ : d.ops id = some op) (h : check d id op = some r) :
    Moves uid d label r := by
  unfold check at h
  split at h
  · rename_i report queue idle waiting
    refine Option.some.inj h ▸ .turns at_ (.checks idle waiting ?_)
    intro found
    by_cases current : d.current = id
    · exact current
    · simp [current] at found
  · cases h

theorem forward_moves (at_ : d.ops id = some op) (h : forward d id op = some r) :
    Moves uid d label r := by
  unfold forward at h
  split at h
  · rename_i text found
    exact Option.some.inj h ▸ .turns at_ (.forwards found)
  · cases h

theorem finish_moves (at_ : d.ops id = some op) (h : finish d id op = some r) :
    Moves uid d (.finish id) r := by
  unfold finish at h
  split at h
  · rename_i result task
    simp only at h
    split at h
    · rename_i current
      exact Option.some.inj h ▸ .finishes at_ task current
    · rename_i old
      exact Option.some.inj h ▸ .turns at_ (.stale task old)
  · cases h

theorem call_moves (h : step uid d (.call n env) = some r) :
    ∃ call, d.calls n = some call ∧ CallMove uid d n call env r := by
  obtain ⟨call, at_, moved⟩ := Option.bind_eq_some_iff.mp h
  exact ⟨call, at_, advance_moves moved⟩

theorem step_moves (h : step uid d label = some r) : Moves uid d label r := by
  cases label with
  | arrive sender method => exact Option.some.inj h ▸ .arrives sender method
  | call n env =>
    obtain ⟨call, at_, moved⟩ := call_moves h
    exact .calls at_ moved
  | select id =>
    obtain ⟨op, at_, moved⟩ := Option.bind_eq_some_iff.mp h
    exact select_moves at_ moved
  | launch id =>
    obtain ⟨op, at_, moved⟩ := Option.bind_eq_some_iff.mp h
    exact launch_moves at_ moved
  | work id turn =>
    obtain ⟨op, at_, moved⟩ := Option.bind_eq_some_iff.mp h
    obtain ⟨op', worked, rfl⟩ := Option.map_eq_some_iff.mp moved
    exact .turns at_ (work_moves worked)
  | check id =>
    obtain ⟨op, at_, moved⟩ := Option.bind_eq_some_iff.mp h
    exact check_moves at_ moved
  | forward id =>
    obtain ⟨op, at_, moved⟩ := Option.bind_eq_some_iff.mp h
    exact forward_moves at_ moved
  | finish id =>
    obtain ⟨op, at_, moved⟩ := Option.bind_eq_some_iff.mp h
    exact finish_moves at_ moved

/-- Calls send no signals. -/
theorem CallMove.noSignal (m : CallMove uid d n call env r) :
    ∀ e ∈ r.2, ∀ id s, e ≠ .signal id s := by
  intro e mem id s said
  rw [said] at mem
  cases m with
  | quiet q => cases q.plain _ mem
  | claims method free sights =>
    cases effect_mem sights mem with
    | inl plain => cases plain
    | inr now => cases now
  | releases => simp [System.reply] at mem
  | stops => simp [System.reply] at mem
  | starts => simp [System.reply] at mem

/-- Where a signal comes from. -/
theorem signal_from {s : Signal} (taken : step uid d label = some r) (sent : .signal id s ∈ r.2) :
    ∃ op, d.ops id = some op ∧ (s.done = false ∧ (op.task = .selecting ∨ op.pending ≠ none) ∨
      s.done = true ∧ d.current = id ∧
        ∃ result, op.task = .ended result ∧ s = op.job.status result true) := by
  cases step_moves taken with
  | arrives => cases sent
  | calls at_ moved => exact absurd rfl (moved.noSignal _ sent id s)
  | turns at_ moved =>
    cases moved with
    | selects finger task =>
      obtain ⟨rfl, rfl⟩ := Event.signal.inj (List.mem_singleton.mp sent)
      exact ⟨_, at_, .inl ⟨rfl, .inl task⟩⟩
    | launches => cases List.mem_singleton.mp sent
    | works => cases sent
    | checks => cases sent
    | forwards found =>
      obtain ⟨rfl, rfl⟩ := Event.signal.inj (List.mem_singleton.mp sent)
      exact ⟨_, at_, .inl ⟨Job.status_done _ _ _, .inr (found ▸ Option.some_ne_none _)⟩⟩
    | stale => cases sent
  | finishes at_ task current =>
    obtain ⟨rfl, rfl⟩ := Event.signal.inj (List.mem_singleton.mp sent)
    exact ⟨_, at_, .inr ⟨Job.status_done _ _ _, current, _, task, rfl⟩⟩

end Cases

end ValidityFprintd.Daemon
