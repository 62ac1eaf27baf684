import ValidityFprintd.DaemonMoves

/-! Where an operation that a step leaves has come from: it is the one there was, with no more to
its task than its job's end put there, or it was begun just now. -/

namespace ValidityFprintd.Daemon

variable {Client : Type} [DecidableEq Client] {uid : Client → UInt32} {d : System Client}
  {n : Nat} {call : Call Client} {env : Answers} {r : Done Client}

/-- An operation that was begun just now, whose job is yet to be launched. -/
def Begins (d : System Client) (n : Nat) (r : Done Client) : Prop :=
  ∃ op : Op Client, op.call = n ∧ (op.task = .selecting ∨ op.task = .launching) ∧
    r.1.ops = Function.update d.ops (d.current + 1) (some op) ∧
    .began n (d.current + 1) op.client op.user ∈ r.2

theorem start_ops (job : Job) {task : Task} (fresh : task = .selecting ∨ task = .launching) :
    (start d n call job task).1.ops = d.ops ∨ Begins d n (start d n call job task) := by
  unfold start
  cases holdsClaim d.state call.sender with
  | error e => exact .inl rfl
  | ok held =>
    cases d.state.claimedBy with
    | none => exact .inl rfl
    | some user =>
      dsimp only
      split
      · exact .inl rfl
      · exact .inr ⟨_, rfl, fresh, rfl, List.mem_append_left _ List.mem_cons_self⟩

omit [DecidableEq Client] in
theorem forUser_ops {username : Text} {launch : Text → Done Client}
    (same : ∀ user, (launch user).1.ops = d.ops) :
    (forUser uid d n call env username launch).1.ops = d.ops := by
  unfold forUser
  split
  · rfl
  · exact same _

omit [DecidableEq Client] in
theorem onceAuthorized_ops {allowed : List (Event Client) → Done Client}
    (same : ∀ events, (allowed events).1.ops = d.ops) :
    (onceAuthorized uid d n call env allowed).1.ops = d.ops := by
  unfold onceAuthorized
  dsimp only
  split
  · rfl
  · exact same _

theorem advance_ops (h : advance uid d n call env = some r) :
    r.1.ops = d.ops ∨ Begins d n r := by
  have stops : (stop d n call).1.ops = d.ops := by
    unfold stop
    split <;> rfl
  have replies : ∀ names : List String → Reply, (jobReply d n env names).1.ops = d.ops := by
    intro names
    unfold jobReply
    split <;> rfl
  have deletes : ∀ user, (launchDelete uid d n call env user).1.ops = d.ops :=
    fun user => onceAuthorized_ops fun _ => rfl
  unfold advance at h
  split at h <;> try obtain rfl := Option.some.inj h
  case h_1 =>
    left
    unfold claim
    split
    · rfl
    · split <;> rfl
  case h_2 =>
    left
    unfold release
    split <;> rfl
  case h_3 => exact .inl (forUser_ops fun _ => rfl)
  case h_4 => exact .inl (replies _)
  case h_5 => exact .inl (forUser_ops fun _ => rfl)
  case h_6 => exact .inl (deletes _)
  case h_7 => exact .inl (replies _)
  case h_8 =>
    left
    unfold deleteEnrolledFingers2
    split
    · rfl
    · split <;> rfl
  case h_9 => exact .inl (deletes _)
  case h_10 => exact .inl (replies _)
  case h_11 =>
    left
    unfold enrollStart
    split <;> rfl
  case h_12 => exact .inl (onceAuthorized_ops fun _ => rfl)
  case h_13 => exact start_ops _ (.inr rfl)
  case h_14 => exact .inl stops
  case h_15 => exact start_ops _ (.inl rfl)
  case h_16 => exact .inl stops
  case h_17 => cases h

/-- The operation as it was, with its task not launched any less. -/
structure Stays (op op' : Op Client) (events : List (Event Client)) : Prop where
  call : op'.call = op.call
  client : op'.client = op.client
  user : op'.user = op.user
  job : op'.job = op.job
  launched : op'.task ≠ .selecting → op'.task ≠ .launching →
    (op.task ≠ .selecting ∧ op.task ≠ .launching) ∨
      .launched op.call op.job op.client op.user ∈ events
  ended : ∀ result, op'.task = .ended result → op.task = .ended result

omit [DecidableEq Client] in
theorem work_stage_queues {current id : Nat} {op op' : Op Client} {result : Except String Nat}
    (h : work current id op (.stage result) = some op') :
    ∃ queue, op' = { op with queue := queue } := by
  unfold work at h
  split at h
  case h_1 => exact ⟨_, (Option.some.inj h).symm⟩
  case h_10 => cases h
  all_goals
    rename_i turn
    cases turn

/-- What an operation's turn leaves, which is a match only where its method found one. -/
structure TurnLeaves (op op' : Op Client) (turn : Turn) : Prop where
  running : op.task = .running
  call : op'.call = op.call
  client : op'.client = op.client
  user : op'.user = op.user
  job : op'.job = op.job
  ended : op'.task = .ended "verify-match" →
    ∃ sel finger, op.job = .verify sel ∧ turn = .verified (.ok (.matched finger))

omit [DecidableEq Client] in
theorem turnLeaves_of_work {current id : Nat} {op op' : Op Client} {turn : Turn}
    (h : work current id op turn = some op') : TurnLeaves op op' turn := by
  have going {op' : Op Client} (runs : op.task = .running) (same : op'.call = op.call ∧
      op'.client = op.client ∧ op'.user = op.user ∧ op'.job = op.job)
      (other : op'.task ≠ .ended "verify-match") : TurnLeaves op op' turn :=
    ⟨runs, same.1, same.2.1, same.2.2.1, same.2.2.2, fun no => absurd no other⟩
  have card : op.call = op.call ∧ op.client = op.client ∧ op.user = op.user ∧ op.job = op.job :=
    ⟨rfl, rfl, rfl, rfl⟩
  unfold work at h
  split at h
  case h_1 runs _ => exact Option.some.inj h ▸ going runs card (by simp [runs])
  case h_2 runs _ => exact Option.some.inj h ▸ going runs card (by simp)
  case h_3 runs _ => exact Option.some.inj h ▸ going runs card (by simp)
  case h_4 runs _ => exact Option.some.inj h ▸ going runs card (by simp)
  case h_5 runs _ =>
    split at h
    · split at h
      · exact Option.some.inj h ▸ going runs card (by simp [runs])
      · exact Option.some.inj h ▸ going runs card (by simp [runs])
    · exact Option.some.inj h ▸ going runs card (by simp)
  case h_6 sel finger runs job =>
    exact Option.some.inj h ▸ ⟨runs, rfl, rfl, rfl, rfl, fun _ => ⟨sel, finger, job, rfl⟩⟩
  case h_7 runs _ => exact Option.some.inj h ▸ going runs card (by simp)
  case h_8 runs _ => exact Option.some.inj h ▸ going runs card (by simp)
  case h_9 runs _ => exact Option.some.inj h ▸ going runs card (by simp)
  case h_10 => cases h

/-- Where an operation that a step leaves has come from. -/
theorem op_from {label : Label Client} (taken : step uid d label = some r)
    (idle : ∀ id turn, label = .work id turn → ∃ result, turn = .stage result) {id : Nat}
    {op' : Op Client} (there : r.1.ops id = some op') :
    (∃ op, d.ops id = some op ∧ Stays op op' r.2) ∨
      ((op'.task = .selecting ∨ op'.task = .launching) ∧
        .began op'.call id op'.client op'.user ∈ r.2) := by
  have same : ∀ {op : Op Client}, d.ops id = some op →
      ∃ before, d.ops id = some before ∧ Stays before op r.2 := fun at_ =>
    ⟨_, at_, rfl, rfl, rfl, rfl, fun a b => .inl ⟨a, b⟩, fun _ ended => ended⟩
  -- a step of one operation leaves the others alone
  have turns : ∀ {i : Nat} {op new : Op Client}, d.ops i = some op →
      Function.update d.ops i (some new) id = some op' → Stays op new r.2 →
      ∃ op, d.ops id = some op ∧ Stays op op' r.2 := by
    intro i op new at_ there stays
    obtain ⟨rfl, rfl⟩ | old := update_cases there
    · exact ⟨op, at_, stays⟩
    · exact same old
  cases label with
  | arrive sender method =>
    obtain rfl := Option.some.inj taken
    exact .inl (same there)
  | call n env =>
    obtain ⟨call, _, moved⟩ := Option.bind_eq_some_iff.mp taken
    obtain unchanged | ⟨op, rfl, fresh, ops, began⟩ := advance_ops moved
    · rw [unchanged] at there
      exact .inl (same there)
    · rw [ops] at there
      obtain ⟨rfl, rfl⟩ | old := update_cases there
      · exact .inr ⟨fresh, began⟩
      · exact .inl (same old)
  | select i =>
    obtain ⟨op, at_, moved⟩ := Option.bind_eq_some_iff.mp taken
    unfold select at moved
    split at moved
    · obtain rfl := Option.some.inj moved
      exact .inl (turns at_ there ⟨rfl, rfl, rfl, rfl, fun _ no => absurd rfl no, nofun⟩)
    · cases moved
  | launch i =>
    obtain ⟨op, at_, moved⟩ := Option.bind_eq_some_iff.mp taken
    unfold launch at moved
    split at moved
    · obtain rfl := Option.some.inj moved
      exact .inl (turns at_ there
        ⟨rfl, rfl, rfl, rfl, fun _ _ => .inr List.mem_cons_self, nofun⟩)
    · cases moved
  | work i turn =>
    obtain ⟨op, at_, moved⟩ := Option.bind_eq_some_iff.mp taken
    obtain ⟨op'', worked, rfl⟩ := Option.map_eq_some_iff.mp moved
    obtain ⟨result, rfl⟩ := idle i turn rfl
    obtain ⟨queue, rfl⟩ := work_stage_queues worked
    exact .inl (turns at_ there
      ⟨rfl, rfl, rfl, rfl, fun a b => .inl ⟨a, b⟩, fun _ ended => ended⟩)
  | check i =>
    obtain ⟨op, at_, moved⟩ := Option.bind_eq_some_iff.mp taken
    unfold check at moved
    split at moved
    · obtain rfl := Option.some.inj moved
      exact .inl (turns at_ there
        ⟨rfl, rfl, rfl, rfl, fun a b => .inl ⟨a, b⟩, fun _ ended => ended⟩)
    · cases moved
  | forward i =>
    obtain ⟨op, at_, moved⟩ := Option.bind_eq_some_iff.mp taken
    unfold forward at moved
    split at moved
    · obtain rfl := Option.some.inj moved
      exact .inl (turns at_ there
        ⟨rfl, rfl, rfl, rfl, fun a b => .inl ⟨a, b⟩, fun _ ended => ended⟩)
    · cases moved
  | finish i =>
    obtain ⟨op, at_, moved⟩ := Option.bind_eq_some_iff.mp taken
    unfold finish at moved
    split at moved
    case h_1 result task =>
      have stays : ∀ events, Stays op { op with task := .finished } events := fun events =>
        ⟨rfl, rfl, rfl, rfl, fun _ _ => .inl (by rw [task]; exact ⟨nofun, nofun⟩), nofun⟩
      dsimp only at moved
      split at moved
      · obtain rfl := Option.some.inj moved
        exact .inl (turns at_ there (stays _))
      · obtain rfl := Option.some.inj moved
        exact .inl (turns at_ there (stays _))
    case h_2 => cases moved

def Signal.result? : Signal → Option String
  | .enrollStatus result _ | .verifyStatus result _ => some result
  | .verifyFingerSelected _ => none

theorem Job.status_result (result : String) (done : Bool) (job : Job) :
    (job.status result done).result? = some result := by
  cases job <;> rfl

/-- The last signal of an operation says how it has ended. -/
theorem last_from {id : Nat} {s : Signal} {label : Label Client} {result : String}
    (taken : step uid d label = some r) (sent : .signal id s ∈ r.2) (last : s.done = true)
    (said : s.result? = some result) : ∃ op, d.ops id = some op ∧ op.task = .ended result := by
  obtain ⟨op, at_, ⟨more, _⟩ | ⟨_, _, result', ended, rfl⟩⟩ := signal_from taken sent
  · rw [last] at more
    cases more
  · rw [Job.status_result] at said
    obtain rfl := Option.some.inj said
    exact ⟨op, at_, ended⟩

end ValidityFprintd.Daemon
