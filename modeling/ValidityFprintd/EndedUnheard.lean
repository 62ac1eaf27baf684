import ValidityFprintd.ClaimInForce

/-! When an operation that has ended is not heard of again. The forwarder looks whether its
operation is current and sends in two steps, an operation that has said its last is current
still, and a verification says which finger it waits for without looking at all. -/

namespace ValidityFprintd.Daemon

variable {Client : Type}

/-- A signal of an operation that has not had its last one yet, and since whose begin nothing has
changed. -/
def InTime (before : List (Event Client)) (e : Event Client) : Prop :=
  ∀ id s, e = .signal id s → (∀ s', .signal id s' ∈ before → s'.done = false) ∧
    ∀ front n client user mid, before = front ++ .began n id client user :: mid →
      ∀ x ∈ mid, x.changes = false

/-- An operation that has ended is not heard of again. -/
def Unheard (tr : List (Event Client)) : Prop := Machine.Always InTime tr

/-- Nothing that is still said of an operation is on its way to its client. -/
def Op.Said (op : Op Client) : Prop := op.pending = none ∧ op.task ≠ .selecting

/-- A step that ends operations does so when everything they have to say has been said. -/
def EndsQuietly [DecidableEq Client] (uid : Client → UInt32) (d : System Client) :
    Label Client → Prop
  | .call n env => ∀ call, d.calls n = some call → TakesEffect uid d call env →
    ∀ id op, d.ops id = some op → op.Said
  | .finish id => ∀ op result, d.ops id = some op → op.task = .ended result → d.current = id →
    op.pending = none ∧ op.queue = []
  | _ => True

/-- Only an operation that is current and goes on has anything left to say. -/
structure Hushed (tr : List (Event Client)) (d : System Client) : Prop where
  consistent : Consistent tr d
  old : ∀ id op, d.ops id = some op → id ≠ d.current → op.Said
  ended : ∀ op, d.ops d.current = some op → op.task = .finished → op.pending = none ∧ op.queue = []
  unheard : Unheard tr

theorem Ongoing.since {tr : List (Event Client)} {n id : Nat} {client : Option Client} {user : Text}
    (h : Ongoing tr n id client user) {front mid : List (Event Client)} {n' : Nat}
    {client' : Option Client} {user' : Text}
    (split : tr = front ++ .began n' id client' user' :: mid) : ∀ x ∈ mid, x.changes = false := by
  obtain ⟨pre, since, begun, once, calm⟩ := h
  rw [begun] at split
  obtain ⟨between, _, rest⟩ | ⟨between, before, rest⟩ := List.append_eq_append_iff.mp split
  · cases between with
    | nil => exact (List.cons.inj rest).2 ▸ calm
    | cons e between =>
      have again : .began n' id client' user' ∈ since := by
        rw [(List.cons.inj rest).2]
        exact List.mem_append_right _ List.mem_cons_self
      cases calm _ again
  · cases between with
    | nil => exact (List.cons.inj rest).2 ▸ calm
    | cons e between =>
      have earlier : .began n' id client' user' ∈ pre := by
        rw [before, (List.cons.inj rest).1]
        exact List.mem_append_right _ List.mem_cons_self
      exact absurd rfl (once _ earlier n' client' user')

theorem Consistent.inTime {tr : List (Event Client)} {d : System Client} {op : Op Client}
    (h : Consistent tr d) (at_ : d.ops d.current = some op) (goesOn : op.task ≠ .finished)
    (s : Signal) : InTime tr (.signal d.current s) := by
  intro id s₁ said
  obtain ⟨rfl, _⟩ := Event.signal.inj said
  constructor
  · intro s' mem
    have none : tr.countP (Event.final d.current) = 0 := by
      cases h.once d.current with
      | inl never => exact never
      | inr once =>
        obtain ⟨_, o, there, ended⟩ := once
        rw [Option.some.inj (at_.symm.trans there)] at goesOn
        exact absurd ended goesOn
    have quiet := List.countP_eq_zero.mp none _ mem
    simpa [Event.final] using quiet
  · intro front n client user mid split
    exact (h.force op at_).2.2.since split

namespace Hushed

variable {tr events : List (Event Client)} {d d' : System Client}

theorem init : Hushed [] (ready Client) where
  consistent := .init
  old := by
    intro id op at_
    cases at_
  ended := by
    intro op at_
    cases at_
  unheard := Machine.always_nil _

theorem unheard_append (h : Hushed tr d) (none : ∀ e ∈ events, ∀ id s, e ≠ .signal id s) :
    Unheard (tr ++ events) :=
  h.unheard.free fun e mem _ id s said => absurd said (none e mem id s)

theorem frame (h : Hushed tr d) (next : Consistent (tr ++ events) d')
    (current : d'.current = d.current) (ops : d'.ops = d.ops)
    (none : ∀ e ∈ events, ∀ id s, e ≠ .signal id s) : Hushed (tr ++ events) d' where
  consistent := next
  old := by
    rw [current, ops]
    exact h.old
  ended := by
    rw [current, ops]
    exact h.ended
  unheard := h.unheard_append none

theorem ends (h : Hushed tr d) (next : Consistent (tr ++ events) d')
    (said : ∀ id op, d.ops id = some op → op.Said)
    (ops : ∀ id, id ≠ d'.current → d'.ops id = d.ops id)
    (fresh : ∀ op, d'.ops d'.current = some op → op.task ≠ .finished)
    (none : ∀ e ∈ events, ∀ id s, e ≠ .signal id s) : Hushed (tr ++ events) d' where
  consistent := next
  old := fun id op at_ other => said id op (ops id other ▸ at_)
  ended := fun op at_ ended => absurd ended (fresh op at_)
  unheard := h.unheard_append none

theorem turn {id : Nat} {op op' : Op Client} (h : Hushed tr d) (at_ : d.ops id = some op)
    (m : OpMove d id op op' events) : Hushed (tr ++ events) (put d id op' events).1 := by
  -- what is left to say is only there where the operation goes on
  have goesOn : ∀ s, ¬ op.Said → op.task ≠ .finished → InTime tr (.signal id s) := by
    intro s unsaid unfinished
    have current : id = d.current := by
      by_contra other
      exact unsaid (h.old id op at_ other)
    rw [current] at at_ ⊢
    exact h.consistent.inTime at_ unfinished s
  have kept : (id ≠ d.current → op'.Said) ∧ (id = d.current → op'.task = .finished →
      op'.pending = none ∧ op'.queue = []) ∧ Unheard (tr ++ events) := by
    cases m with
    | selects finger task =>
      refine ⟨fun other => absurd task (h.old id op at_ other).2, fun _ => nofun, ?_⟩
      exact h.unheard.snoc (goesOn _ (fun said => said.2 task) (task ▸ Task.noConfusion))
    | launches task =>
      refine ⟨fun other => ⟨(h.old id op at_ other).1, Task.noConfusion⟩, fun _ => nofun, ?_⟩
      exact h.unheard.snoc fun _ _ => nofun
    | works runs stillRuns =>
      refine ⟨fun other => ⟨(h.old id op at_ other).1, stillRuns.2⟩, ?_, h.unheard_append nofun⟩
      exact fun _ ended => absurd ended stillRuns.1
    | checks idle waiting found =>
      refine ⟨fun other => ⟨?_, (h.old id op at_ other).2⟩, ?_, h.unheard_append nofun⟩
      · by_contra pending
        exact other (found pending).symm
      · intro current ended
        have none := (h.ended op (current ▸ at_) ended).2
        rw [waiting] at none
        cases none
    | forwards found =>
      have unsaid : op.pending ≠ none := found ▸ Option.some_ne_none _
      refine ⟨fun other => ⟨rfl, (h.old id op at_ other).2⟩, ?_, ?_⟩
      · exact fun current ended => ⟨rfl, (h.ended op (current ▸ at_) ended).2⟩
      · refine h.unheard.snoc (goesOn _ (fun said => unsaid said.1) fun ended => ?_)
        by_cases current : id = d.current
        · exact unsaid (h.ended op (current ▸ at_) ended).1
        · exact unsaid (h.old id op at_ current).1
    | stale task old =>
      refine ⟨fun other => ⟨(h.old id op at_ other).1, Task.noConfusion⟩, ?_,
        h.unheard_append nofun⟩
      exact fun current => absurd current.symm old
  obtain ⟨old, ended, unheard⟩ := kept
  refine ⟨h.consistent.turn at_ m, ?_, ?_, unheard⟩
  · intro i o there other
    cases update_cases there with
    | inl new =>
      obtain ⟨rfl, rfl⟩ := new
      exact old other
    | inr before => exact h.old i o before other
  · intro o there
    cases update_cases there with
    | inl new =>
      obtain ⟨same, rfl⟩ := new
      exact ended same.symm
    | inr before => exact h.ended o before

theorem step [DecidableEq Client] {uid : Client → UInt32} {label : Label Client} {r : Done Client}
    (h : Hushed tr d) (quietly : EndsQuietly uid d label) (taken : step uid d label = some r) :
    Hushed (tr ++ r.2) r.1 := by
  have next := h.consistent.step taken
  cases step_moves taken with
  | arrives sender method => exact h.frame next rfl rfl nofun
  | turns at_ moved => exact h.turn at_ moved
  | @finishes id op result at_ task current =>
    obtain ⟨pending, queue⟩ := quietly op result at_ task current
    obtain rfl := current
    have others : ∀ i, i ≠ d.current →
        Function.update d.ops d.current (some { op with task := .finished }) i = d.ops i :=
      fun i other => Function.update_of_ne other _ _
    have this_ : Function.update d.ops d.current (some { op with task := .finished }) d.current =
        some { op with task := .finished } := Function.update_self _ _ _
    refine ⟨next, fun i o there other => ?_, fun o there _ => ?_, ?_⟩
    · exact h.old i o ((others i other).symm.trans there) other
    · exact Option.some.inj (this_.symm.trans there) ▸ ⟨pending, queue⟩
    · exact h.unheard.snoc (h.consistent.inTime at_ (task ▸ Task.noConfusion) _)
  | calls at_ moved =>
    have none := moved.noSignal
    cases moved with
    | quiet q => exact h.frame next q.keeps.2.1 q.keeps.2.2 none
    | claims method free sights sent name effect =>
      refine h.ends next (quietly _ at_ effect) (fun _ _ => rfl) ?_ none
      exact fun op there => nomatch h.consistent.fresh.symm.trans there
    | releases sent held effect =>
      refine h.ends next (quietly _ at_ effect) (fun _ _ => rfl) ?_ none
      exact fun op there => nomatch h.consistent.fresh.symm.trans there
    | stops sent held effect =>
      refine h.ends next (quietly _ at_ effect) (fun _ _ => rfl) ?_ none
      exact fun op there => nomatch h.consistent.fresh.symm.trans there
    | starts sent held claimed free unfinished kind effect =>
      refine h.ends next (quietly _ at_ effect)
        (fun i other => Function.update_of_ne other _ _) ?_ none
      intro op there
      have begun := (Function.update_self _ _ _).symm.trans there
      exact Option.some.inj begun ▸ unfinished

end Hushed

/-- Every operation was begun, and one that selects a finger is a verification. -/
def Begun (tr : List (Event Client)) (d : System Client) : Prop :=
  ∀ id op, d.ops id = some op → (∃ n client user, .began n id client user ∈ tr) ∧
    (op.task = .selecting → ∃ finger, op.job = .verify finger)

namespace Begun

variable {tr events : List (Event Client)} {d d' : System Client}

theorem frame (h : Begun tr d) (ops : d'.ops = d.ops) : Begun (tr ++ events) d' := by
  intro id op at_
  obtain ⟨⟨n, client, user, mem⟩, verifies⟩ := h id op (ops ▸ at_)
  exact ⟨⟨n, client, user, List.mem_append_left _ mem⟩, verifies⟩

theorem update (h : Begun tr d) {id : Nat} {op : Op Client}
    (ops : d'.ops = Function.update d.ops id (some op))
    (begun : ∃ n client user, .began n id client user ∈ tr ++ events)
    (verifies : op.task = .selecting → ∃ finger, op.job = .verify finger) :
    Begun (tr ++ events) d' := by
  intro i o there
  rw [ops] at there
  cases update_cases there with
  | inl new =>
    obtain ⟨rfl, rfl⟩ := new
    exact ⟨begun, verifies⟩
  | inr old =>
    obtain ⟨⟨n, client, user, mem⟩, verifies⟩ := h i o old
    exact ⟨⟨n, client, user, List.mem_append_left _ mem⟩, verifies⟩

theorem step [DecidableEq Client] {uid : Client → UInt32} {label : Label Client} {r : Done Client}
    (h : Begun tr d) (taken : step uid d label = some r) : Begun (tr ++ r.2) r.1 := by
  have before {id : Nat} {op : Op Client} (at_ : d.ops id = some op) :
      ∃ n client user, .began n id client user ∈ tr ++ r.2 := by
    obtain ⟨n, client, user, mem⟩ := (h id op at_).1
    exact ⟨n, client, user, List.mem_append_left _ mem⟩
  cases step_moves taken with
  | arrives sender method => exact h.frame rfl
  | finishes at_ task current => exact h.update rfl (before at_) nofun
  | turns at_ moved =>
    refine h.update rfl (before at_) ?_
    cases moved with
    | selects => nofun
    | launches => nofun
    | works runs stillRuns => exact fun selecting => absurd selecting stillRuns.2
    | checks => exact (h _ _ at_).2
    | forwards => exact (h _ _ at_).2
    | stale => nofun
  | calls at_ moved =>
    cases moved with
    | quiet q => exact h.frame q.keeps.2.2
    | claims => exact h.frame rfl
    | releases => exact h.frame rfl
    | stops => exact h.frame rfl
    | starts sent held claimed free unfinished kind =>
      refine h.update rfl ⟨_, _, _, List.mem_append_right _ List.mem_cons_self⟩ ?_
      intro selecting
      cases kind with
      | inl verify => exact verify
      | inr enroll => cases selecting.symm.trans enroll.2.1

end Begun

/-- The steps in which operations say how they go. -/
def Label.progress : Label Client → Bool
  | .select _ => true
  | .check _ => true
  | .forward _ => true
  | _ => false

section Runs

variable [DecidableEq Client] {uid : Client → UInt32} {moves : History Client} {d : System Client}

/-- Whatever the operations go on to say after a run, one that has ended is not heard of again. -/
def Mute (uid : Client → UInt32) (front : History Client) : Prop :=
  ∀ more t, (machine uid).Run (front ++ more) t → (∀ move ∈ more, move.label.progress = true) →
    Unheard (Machine.trace (front ++ more))

/-- So it is however far the run has come. -/
def NeverHeardAgain (uid : Client → UInt32) (moves : History Client) : Prop :=
  ∀ front back, moves = front ++ back → Mute uid front

theorem unheard_of_quietly (run : (machine uid).Run moves d)
    (quietly : ∀ move ∈ moves, EndsQuietly uid move.before move.label) :
    Unheard (Machine.trace moves) := by
  have hushed : Hushed (Machine.trace moves) d :=
    run.invariant_of .init (fun h ends taken => h.step ends taken) quietly
  exact hushed.unheard

theorem begun (run : (machine uid).Run moves d) : Begun (Machine.trace moves) d :=
  run.invariant (fun _ _ => nofun) fun h taken => h.step taken

section Speech

variable {label : Label Client} {t : System Client} {events : List (Event Client)}

theorem Mute.after (mute : Mute uid moves) (progress : label.progress = true) :
    Mute uid (moves ++ [⟨d, label, t, events⟩]) := by
  intro more u run later
  rw [List.append_assoc] at run ⊢
  refine mute _ u run fun move mem => ?_
  cases mem with
  | head => exact progress
  | tail _ mem => exact later move mem

theorem Mute.inTime (mute : Mute uid moves) (run : (machine uid).Run moves d)
    {id : Nat} {s : Signal} (taken : Daemon.step uid d label = some (t, [.signal id s]))
    (progress : label.progress = true) :
    InTime (Machine.trace moves) (.signal id s) := by
  have unheard := mute [⟨d, label, t, [.signal id s]⟩] t (run.step taken) fun move mem =>
    List.mem_singleton.mp mem ▸ progress
  rw [Machine.trace_append] at unheard
  exact unheard _ _ [] rfl

theorem Mute.unsaid (mute : Mute uid moves) (run : (machine uid).Run moves d) {id : Nat}
    {op : Op Client} (at_ : d.ops id = some op) (unsaid : ¬ op.Said) :
    ∃ s, InTime (Machine.trace moves) (.signal id s) := by
  cases pending : op.pending with
  | some text =>
    have taken : Daemon.step uid d (.forward id) =
        some (put d id { op with pending := none } [.signal id (op.job.status text false)]) := by
      simp only [Daemon.step, at_, Option.bind_some, forward, pending]
    exact ⟨_, mute.inTime run taken rfl⟩
  | none =>
    have selecting : op.task = .selecting := by
      by_contra other
      exact unsaid ⟨pending, other⟩
    obtain ⟨finger, job⟩ := (begun run id op at_).2 selecting
    have taken : Daemon.step uid d (.select id) = some (put d id { op with task := .launching }
        [.signal id (.verifyFingerSelected finger)]) := by
      simp only [Daemon.step, at_, Option.bind_some, select, selecting, job]
    exact ⟨_, mute.inTime run taken rfl⟩

theorem Mute.queued (mute : Mute uid moves) (run : (machine uid).Run moves d) {op : Op Client}
    (at_ : d.ops d.current = some op) (unsaid : ¬ (op.pending = none ∧ op.queue = [])) :
    ∃ s, InTime (Machine.trace moves) (.signal d.current s) := by
  cases pending : op.pending with
  | some text =>
    exact mute.unsaid run at_ fun said => Option.some_ne_none text (pending.symm.trans said.1)
  | none =>
    cases waiting : op.queue with
    | nil => exact absurd ⟨pending, waiting⟩ unsaid
    | cons report queue =>
      -- the forwarder takes the report and finds its operation current
      let op' : Op Client := { op with queue := queue, pending := some report.text }
      let d' := (put d d.current op' []).1
      have taken : Daemon.step uid d (.check d.current) = some (d', []) := by
        simp only [Daemon.step, at_, Option.bind_some, check, pending, waiting, if_pos]
        rfl
      have run' : (machine uid).Run (moves ++ [⟨d, .check d.current, d', []⟩]) d' := run.step taken
      have here : d'.ops d.current = some op' := Function.update_self _ _ _
      have loud : ¬ op'.Said := fun said => Option.some_ne_none _ said.1
      have heard := (mute.after rfl).unsaid run' here loud
      simpa [Machine.trace] using heard

/-- An effect that finds an operation with something left to say would be followed by it. -/
theorem Mute.call_quiet {n : Nat} {env : Answers} (run : (machine uid).Run moves d)
    (taken : step uid d (.call n env) = some (t, events))
    (mute : Mute uid (moves ++ [⟨d, .call n env, t, events⟩])) :
    EndsQuietly uid d (.call n env) := by
  have run' : (machine uid).Run (moves ++ [⟨d, .call n env, t, events⟩]) t := run.step taken
  intro call at_ effect id op there
  by_contra unsaid
  obtain ⟨call', at_', moved⟩ := Option.bind_eq_some_iff.mp taken
  obtain rfl : call = call' := Option.some.inj (at_.symm.trans at_')
  obtain ⟨⟨e, said, changes⟩, ops⟩ := effect_said moved effect
  have known := (consistent run).known id op there
  have still : t.ops id = some op := (ops id (by omega)).trans there
  obtain ⟨s, inTime⟩ := mute.unsaid run' still unsaid
  obtain ⟨n', client, user, begun⟩ := (begun run id op there).1
  obtain ⟨a, b, before⟩ := List.append_of_mem begun
  have calm := (inTime id s rfl).2 a n' client user (b ++ events) (by
    rw [Machine.trace_append, before]
    simp [Machine.trace])
  rw [calm e (List.mem_append_right b said)] at changes
  cases changes

/-- So would a last signal, by the reports still waiting for the forwarder. -/
theorem Mute.finish_quiet {id : Nat} (run : (machine uid).Run moves d)
    (taken : step uid d (.finish id) = some (t, events))
    (mute : Mute uid (moves ++ [⟨d, .finish id, t, events⟩])) :
    EndsQuietly uid d (.finish id) := by
  have run' : (machine uid).Run (moves ++ [⟨d, .finish id, t, events⟩]) t := run.step taken
  intro op result there task current
  by_contra unsaid
  replace there : d.ops id = some op := there
  replace current : d.current = id := current
  obtain rfl := current
  simp only [step, there, Option.bind_some, finish, task, if_pos, Option.some.injEq,
    Prod.mk.injEq] at taken
  obtain ⟨after, said⟩ := taken
  have still : t.ops t.current = some { op with task := .finished } := by
    rw [← after]
    exact Function.update_self _ _ _
  obtain ⟨s, inTime⟩ := mute.queued run' still unsaid
  have same : t.current = d.current := by
    rw [← after]
    rfl
  have last := (inTime t.current s rfl).1 (op.job.status result true) (by
    rw [same, Machine.trace_append, ← said]
    exact List.mem_append_right _ List.mem_cons_self)
  rw [Job.status_done] at last
  cases last

end Speech

/-- A run keeps silent about ended operations, wherever it stands, exactly when each step that
ends operations comes when they have said what they had to say. -/
theorem ended_unheard_iff (run : (machine uid).Run moves d) : NeverHeardAgain uid moves ↔
    ∀ move ∈ moves, EndsQuietly uid move.before move.label := by
  constructor
  · intro never move mem
    obtain ⟨front, back, split⟩ := List.append_of_mem mem
    obtain ⟨front_run, taken⟩ := (split ▸ run).move
    have mute : Mute uid (front ++ [move]) := never _ back (by rw [split]; simp)
    obtain ⟨d₁, label, d₂, events⟩ := move
    replace front_run : (machine uid).Run front d₁ := front_run
    cases label with
    | call n env => exact mute.call_quiet front_run taken
    | finish id => exact mute.finish_quiet front_run taken
    | arrive => trivial
    | select => trivial
    | launch => trivial
    | work => trivial
    | check => trivial
    | forward => trivial
  · intro quietly front back split more t run' progress
    refine unheard_of_quietly run' fun move mem => ?_
    cases List.mem_append.mp mem with
    | inl early => exact quietly move (split ▸ List.mem_append_left back early)
    | inr late =>
      have kind := progress move late
      generalize move.label = label at kind ⊢
      cases label <;> trivial

end Runs

/-- A verification is stopped between the forwarder's look whether it is current and the signal. -/
def lateRetry : List (Label Bool) :=
  [.arrive (some false) (.claim []), .call 0 willing, .arrive (some false) (.verifyStart []),
    .call 1 willing, .select 2, .launch 2, .work 2 (.verified (.ok (.retry "too short"))), .check 2,
    .arrive (some false) .verifyStop, .call 2 willing, .forward 2]

theorem lateRetry_heard : ∃ moves d, (machine uids).Run moves d ∧
    ¬ Unheard (Machine.trace moves) := by
  have goes : (((machine uids).replay (ready Bool) lateRetry).map fun done =>
      Machine.trace done.1) = some ([.lookedUp 0 false willing.passwd,
        .claimed 0 (some false) "andre".toList, .replied 0 .done,
        .began 1 2 (some false) "andre".toList, .replied 1 .done,
        .signal 2 (.verifyFingerSelected []),
        .launched 1 (.verify []) (some false) "andre".toList, .stopped 2, .replied 2 .done] ++
        [.signal 2 (.verifyStatus "verify-retry-scan" false)]) := by decide +kernel
  obtain ⟨⟨moves, d⟩, replayed, trace⟩ := Option.map_eq_some_iff.mp goes
  have run : (machine uids).Run ([] ++ moves) d := Machine.Run.init.replay replayed
  refine ⟨moves, d, run, fun unheard => ?_⟩
  replace trace : Machine.trace moves = _ := trace
  rw [trace] at unheard
  have inTime := unheard _ _ [] rfl
  have calm := (inTime 2 _ rfl).2 [_, _, _] 1 (some false) _ _ rfl (.stopped 2) (by simp)
  cases calm

/-- `EndsQuietly` as a check of the operations there are. -/
def settled (d : System Bool) : Label Bool → Bool
  | .call .. => (List.range (d.current + 1)).all fun id =>
    (d.ops id).all fun op => op.pending = none ∧ op.task ≠ .selecting
  | .finish id => (d.ops id).all fun op => op.pending = none ∧ op.queue = []
  | _ => true

theorem endsQuietly_of_settled {moves : List (Machine.Move (System Bool) (Label Bool) (Event Bool))}
    {d : System Bool} (run : (machine uids).Run moves d)
    (all : moves.all (fun move => settled move.before move.label) = true) :
    ∀ move ∈ moves, EndsQuietly uids move.before move.label := by
  intro move mem
  have checked := List.all_eq_true.mp all move mem
  obtain ⟨front, back, split⟩ := List.append_of_mem mem
  obtain ⟨before, _⟩ := (split ▸ run).move
  have known := (consistent before).known
  obtain ⟨d₁, label, d₂, events⟩ := move
  cases label with
  | call n env =>
    intro call _ _ id op there
    have in_ : id ∈ List.range (d₁.current + 1) :=
      List.mem_range.mpr (Nat.lt_succ_of_le (known id op there))
    have said : (d₁.ops id).all (fun op => op.pending = none ∧ op.task ≠ .selecting) = true :=
      List.all_eq_true.mp checked id in_
    rw [there] at said
    exact of_decide_eq_true (p := op.pending = none ∧ op.task ≠ .selecting) said
  | finish id =>
    intro op result there _ _
    have said : (d₁.ops id).all (fun op => op.pending = none ∧ op.queue = []) = true := checked
    rw [there] at said
    exact of_decide_eq_true said
  | arrive | select | launch | work | check | forward => trivial

/-- The same verification, stopped once its result has been told. -/
theorem ended_unheard_verification : ∃ moves d, (machine uids).Run moves d ∧
    (Machine.trace moves).countP (Event.final 2) = 1 ∧ .stopped 2 ∈ Machine.trace moves ∧
    NeverHeardAgain uids moves := by
  have goes : (((machine uids).replay (ready Bool)
      (verification ++ [.arrive (some false) .verifyStop, .call 2 willing])).map fun done =>
        ((Machine.trace done.1).countP (Event.final 2), decide (.stopped 2 ∈ Machine.trace done.1),
          done.1.all fun move => settled move.before move.label)) = some (1, true, true) := by
    decide +kernel
  obtain ⟨⟨moves, d⟩, replayed, told⟩ := Option.map_eq_some_iff.mp goes
  have run : (machine uids).Run ([] ++ moves) d := Machine.Run.init.replay replayed
  obtain ⟨said, rest⟩ := Prod.mk.inj told
  obtain ⟨stopped, checked⟩ := Prod.mk.inj rest
  exact ⟨moves, d, run, said, of_decide_eq_true stopped,
    (ended_unheard_iff run).mpr (endsQuietly_of_settled run checked)⟩

end ValidityFprintd.Daemon
