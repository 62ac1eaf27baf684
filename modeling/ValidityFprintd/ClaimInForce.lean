import ValidityFprintd.DaemonMoves

/-! What the claim, `busy` and `CURRENT` have to do with the operations, in every run: the
operation they name is the one begun last, and nothing has changed since. -/

namespace ValidityFprintd.Daemon

variable {Client : Type}

/-- Operation `id` was begun once, by call `n`, and nothing has changed since. -/
def Ongoing (tr : List (Event Client)) (n id : Nat) (client : Option Client) (user : Text) : Prop :=
  ∃ pre mid, tr = pre ++ .began n id client user :: mid ∧
    (∀ e ∈ pre, ∀ n' client' user', e ≠ .began n' id client' user') ∧
    ∀ e ∈ mid, e.changes = false

theorem Ongoing.append {tr events : List (Event Client)} {n id : Nat} {client : Option Client}
    {user : Text} (h : Ongoing tr n id client user) (calm : ∀ e ∈ events, e.changes = false) :
    Ongoing (tr ++ events) n id client user := by
  obtain ⟨pre, mid, split, once, since⟩ := h
  refine ⟨pre, mid ++ events, ?_, once, ?_⟩
  · rw [split, List.append_assoc, List.cons_append]
  · intro e mem
    cases List.mem_append.mp mem with
    | inl before => exact since e before
    | inr now => exact calm e now

/-- The claim's fields agree, and so do `busy`, `CURRENT` and the operations begun. -/
structure Consistent (tr : List (Event Client)) (d : System Client) : Prop where
  claim : d.state.claimedBy.isSome = d.state.claimOwner.isSome
  known : ∀ id op, d.ops id = some op → id ≤ d.current
  begun : ∀ n id client user, .began n id client user ∈ tr → id ≤ d.current
  busy : d.state.busy = true ↔ ∃ op, d.ops d.current = some op ∧ op.task ≠ .finished
  force : ∀ op, d.ops d.current = some op → d.state.claimOwner = op.client ∧
    d.state.claimedBy = some op.user ∧ Ongoing tr op.call d.current op.client op.user
  once : ∀ id, tr.countP (Event.final id) = 0 ∨
    tr.countP (Event.final id) = 1 ∧ ∃ op, d.ops id = some op ∧ op.task = .finished

namespace Consistent

variable {tr events after : List (Event Client)} {d d' : System Client}

theorem init : Consistent [] (ready Client) where
  claim := rfl
  known := by
    intro id op h
    cases h
  begun := by
    intro n id client user mem
    cases mem
  busy := by simp [ready]
  force := by
    intro op h
    cases h
  once := fun id => .inl rfl

theorem finals_append (calm : ∀ e ∈ events, ∀ i, e.final i = false) (id : Nat) :
    (tr ++ events).countP (Event.final id) = tr.countP (Event.final id) := by
  have none : events.countP (Event.final id) = 0 := by
    rw [List.countP_eq_zero]
    intro e mem
    rw [calm e mem id]
    exact Bool.false_ne_true
  rw [List.countP_append, none, Nat.add_zero]

theorem begun_append (calm : ∀ e ∈ events, e.changes = false) {n id : Nat} {client : Option Client}
    {user : Text} (mem : .began n id client user ∈ tr ++ events) :
    .began n id client user ∈ tr := by
  cases List.mem_append.mp mem with
  | inl before => exact before
  | inr now => cases calm _ now

theorem frame (h : Consistent tr d) (state : d'.state = d.state) (current : d'.current = d.current)
    (ops : d'.ops = d.ops) (calm : ∀ e ∈ events, e.changes = false ∧ ∀ i, e.final i = false) :
    Consistent (tr ++ events) d' where
  claim := by
    rw [state]
    exact h.claim
  known := by
    rw [ops, current]
    exact h.known
  begun := by
    intro n id client user mem
    rw [current]
    exact h.begun n id client user (begun_append (fun e at_ => (calm e at_).1) mem)
  busy := by
    rw [state, current, ops]
    exact h.busy
  force := by
    rw [state, current, ops]
    intro op at_
    obtain ⟨owner, claimed, ongoing⟩ := h.force op at_
    exact ⟨owner, claimed, ongoing.append fun e mem => (calm e mem).1⟩
  once := by
    intro id
    rw [finals_append fun e mem => (calm e mem).2, ops]
    exact h.once id

theorem turn {id : Nat} {op op' : Op Client} (h : Consistent tr d) (at_ : d.ops id = some op)
    (m : OpMove d id op op' events) : Consistent (tr ++ events) (put d id op' events).1 := by
  obtain ⟨call, client, user, job, stays, ends⟩ := m.keeps
  have calm := m.calm
  have others : ∀ i, i ≠ id → Function.update d.ops id (some op') i = d.ops i :=
    fun i other => Function.update_of_ne other _ _
  have this_ : Function.update d.ops id (some op') id = some op' := Function.update_self _ _ _
  constructor
  · exact h.claim
  · intro i o here
    by_cases same : i = id
    · exact same ▸ h.known id op at_
    · exact h.known i o (others i same ▸ here)
  · intro n i client user mem
    exact h.begun n i client user (begun_append (fun e at_ => (calm e at_).1) mem)
  · show d.state.busy = true ↔ ∃ o, Function.update d.ops id (some op') d.current = some o ∧ _
    by_cases same : d.current = id
    · rw [h.busy, same, this_, at_]
      have ended : op'.task = .finished ↔ op.task = .finished :=
        ⟨fun last => (ends last).resolve_right fun old => old same, stays⟩
      simp [ended]
    · rw [others _ same]
      exact h.busy
  · show ∀ o, Function.update d.ops id (some op') d.current = some o → _
    intro o here
    by_cases same : d.current = id
    · rw [same, this_] at here
      obtain rfl := Option.some.inj here
      have force := h.force op (same ▸ at_)
      rw [← client, ← user, ← call] at force
      exact ⟨force.1, force.2.1, force.2.2.append fun e mem => (calm e mem).1⟩
    · rw [others _ same] at here
      obtain ⟨owner, claimed, ongoing⟩ := h.force o here
      exact ⟨owner, claimed, ongoing.append fun e mem => (calm e mem).1⟩
  · intro i
    rw [finals_append fun e mem => (calm e mem).2]
    show _ ∨ _ ∧ ∃ o, Function.update d.ops id (some op') i = some o ∧ _
    cases h.once i with
    | inl never => exact .inl never
    | inr once =>
      obtain ⟨count, o, there, ended⟩ := once
      refine .inr ⟨count, ?_⟩
      by_cases same : i = id
      · rw [same] at there ⊢
        have known : op.task = .finished := by rw [Option.some.inj (at_.symm.trans there), ended]
        exact ⟨op', this_, stays known⟩
      · exact ⟨o, (others i same).trans there, ended⟩

theorem fresh (h : Consistent tr d) : d.ops (d.current + 1) = none := by
  cases known : d.ops (d.current + 1) with
  | none => rfl
  | some op => exact absurd (h.known _ op known) (by omega)

theorem bump (h : Consistent tr d) (current : d'.current = d.current + 1) (ops : d'.ops = d.ops)
    (claim : d'.state.claimedBy.isSome = d'.state.claimOwner.isSome) (idle : d'.state.busy = false)
    (noBegun : ∀ n id client user, .began n id client user ∉ events)
    (noFinal : ∀ e ∈ events, ∀ i, e.final i = false) : Consistent (tr ++ events) d' where
  claim := claim
  known := by
    rw [current, ops]
    exact fun id op there => Nat.le_succ_of_le (h.known id op there)
  begun := by
    intro n id client user mem
    have before := (List.mem_append.mp mem).resolve_right (noBegun n id client user)
    rw [current]
    exact Nat.le_succ_of_le (h.begun n id client user before)
  busy := by
    rw [idle, current, ops, h.fresh]
    simp
  force := by
    rw [current, ops, h.fresh]
    intro op there
    cases there
  once := by
    intro i
    rw [finals_append noFinal, ops]
    exact h.once i

theorem start {op : Op Client} (h : Consistent tr d) (held : d.state.claimOwner = op.client)
    (claimed : d.state.claimedBy = some op.user) (unfinished : op.task ≠ .finished)
    (begun : events = .began op.call (d.current + 1) op.client op.user :: after)
    (calm : ∀ e ∈ after, e.changes = false ∧ ∀ i, e.final i = false)
    (state : d'.state = { d.state with busy := true }) (current : d'.current = d.current + 1)
    (ops : d'.ops = Function.update d.ops (d.current + 1) (some op)) :
    Consistent (tr ++ events) d' := by
  rw [begun]
  have others : ∀ i, i ≠ d.current + 1 → d'.ops i = d.ops i := by
    intro i other
    rw [ops]
    exact Function.update_of_ne other _ _
  have this_ : d'.ops (d.current + 1) = some op := by
    rw [ops]
    exact Function.update_self _ _ _
  constructor
  · rw [state]
    exact h.claim
  · intro i o there
    rw [current]
    by_cases same : i = d.current + 1
    · exact Nat.le_of_eq same
    · exact Nat.le_succ_of_le (h.known i o (others i same ▸ there))
  · intro n i client user mem
    rw [current]
    cases List.mem_append.mp mem with
    | inl before => exact Nat.le_succ_of_le (h.begun n i client user before)
    | inr now =>
      cases now with
      | head => exact Nat.le_refl _
      | tail _ later => cases (calm _ later).1
  · rw [state, current, this_]
    simpa using unfinished
  · rw [state, current, this_]
    intro o there
    obtain rfl := Option.some.inj there
    refine ⟨held, claimed, tr, after, rfl, ?_, fun e mem => (calm e mem).1⟩
    intro e mem n client user old
    exact absurd (h.begun n _ client user (old ▸ mem)) (Nat.not_succ_le_self _)
  · intro i
    have quiet : ∀ e ∈ .began op.call (d.current + 1) op.client op.user :: after,
        ∀ i, e.final i = false := by
      intro e mem
      cases mem with
      | head => exact fun _ => rfl
      | tail _ later => exact (calm e later).2
    rw [finals_append quiet]
    cases h.once i with
    | inl never => exact .inl never
    | inr once =>
      obtain ⟨count, o, there, ended⟩ := once
      refine .inr ⟨count, o, ?_, ended⟩
      rw [others i ?_]
      · exact there
      · intro same
        rw [same, h.fresh] at there
        cases there

theorem finish {id : Nat} {op : Op Client} {result : String} (h : Consistent tr d)
    (at_ : d.ops id = some op) (task : op.task = .ended result) (current : d.current = id) :
    Consistent (tr ++ [.signal id (op.job.status result true)])
      (put d.freed id { op with task := .finished } []).1 := by
  obtain rfl := current
  have others : ∀ i, i ≠ d.current →
      Function.update d.ops d.current (some { op with task := .finished }) i = d.ops i :=
    fun i other => Function.update_of_ne other _ _
  have this_ : Function.update d.ops d.current (some { op with task := .finished }) d.current =
      some { op with task := .finished } := Function.update_self _ _ _
  have unsaid : tr.countP (Event.final d.current) = 0 := by
    cases h.once d.current with
    | inl never => exact never
    | inr once =>
      obtain ⟨_, o, there, ended⟩ := once
      rw [← Option.some.inj (at_.symm.trans there), task] at ended
      cases ended
  constructor
  · exact h.claim
  · intro i o there
    by_cases same : i = d.current
    · exact Nat.le_of_eq same
    · exact h.known i o (others i same ▸ there)
  · intro n i client user mem
    exact h.begun n i client user ((List.mem_append.mp mem).resolve_right (by simp))
  · show false = true ↔ ∃ o, Function.update d.ops d.current _ d.current = some o ∧ _
    rw [this_]
    simp
  · show ∀ o, Function.update d.ops d.current _ d.current = some o → _
    rw [this_]
    intro o there
    obtain rfl := Option.some.inj there
    obtain ⟨owner, claimed, ongoing⟩ := h.force op at_
    refine ⟨owner, claimed, ongoing.append ?_⟩
    intro e mem
    rw [List.mem_singleton.mp mem]
    rfl
  · intro i
    show _ ∨ _ ∧ ∃ o, Function.update d.ops d.current _ i = some o ∧ _
    rw [List.countP_append]
    by_cases same : i = d.current
    · rw [same, unsaid, this_]
      refine .inr ⟨?_, _, rfl, rfl⟩
      simp [Event.final, Job.status_done]
    · have other : ([.signal d.current (op.job.status result true)] : List (Event Client)).countP
          (Event.final i) = 0 := by
        simp [Event.final, Ne.symm same]
      rw [other, others i same]
      exact h.once i

theorem step [DecidableEq Client] {uid : Client → UInt32} {label : Label Client} {r : Done Client}
    (h : Consistent tr d) (taken : step uid d label = some r) : Consistent (tr ++ r.2) r.1 := by
  have no_sights : ∀ ev ∈ ([] : List (Event Client)), ev.sight = true := List.forall_mem_nil _
  cases step_moves taken with
  | arrives sender method => exact h.frame rfl rfl rfl (by simp)
  | turns at_ moved => exact h.turn at_ moved
  | finishes at_ task current => exact h.finish at_ task current
  | @calls n call env _ at_ moved =>
    cases moved with
    | quiet q =>
      obtain ⟨state, current, ops⟩ := q.keeps
      exact h.frame state current ops fun e mem =>
        ⟨Event.plain_changes (q.plain e mem), Event.plain_final (q.plain e mem)⟩
    | claims method free sights sent name =>
      refine h.bump rfl rfl ?_ rfl (effect_noBegun sights fun _ _ _ _ => nofun)
        (effect_noFinal sights fun _ => rfl)
      rw [sent]
      rfl
    | releases sent held =>
      exact h.bump rfl rfl rfl rfl (effect_noBegun no_sights fun _ _ _ _ => nofun)
        (effect_noFinal no_sights fun _ => rfl)
    | stops sent held =>
      exact h.bump rfl rfl h.claim rfl (effect_noBegun no_sights fun _ _ _ _ => nofun)
        (effect_noFinal no_sights fun _ => rfl)
    | starts sent held claimed free unfinished =>
      have calm : ∀ e ∈ ([.replied n .done] : List (Event Client)),
          e.changes = false ∧ ∀ i, e.final i = false := by
        simp [Event.changes, Event.final]
      exact h.start (held.trans sent.symm) claimed unfinished rfl calm rfl rfl rfl

end Consistent

section Runs

variable [DecidableEq Client] {uid : Client → UInt32} {moves : History Client} {d : System Client}

theorem consistent (run : (machine uid).Run moves d) : Consistent (Machine.trace moves) d :=
  run.invariant .init fun h taken => h.step taken

/-- A step counts one operation on at most. -/
theorem current_step {label : Label Client} {r : Done Client} (taken : step uid d label = some r) :
    r.1.current ≤ d.current + 1 := by
  cases step_moves taken with
  | arrives => exact Nat.le_succ _
  | turns => exact Nat.le_succ _
  | finishes => exact Nat.le_succ _
  | calls at_ moved =>
    cases moved with
    | quiet q =>
      obtain ⟨_, current, _⟩ := q.keeps
      rw [current]
      exact Nat.le_succ _
    | claims | releases | stops | starts => exact Nat.le_refl _

theorem current_le (run : (machine uid).Run moves d) : d.current ≤ moves.length := by
  induction run with
  | init => exact Nat.le_refl 0
  | @step moves s t _ _ _ taken ih =>
    have one : t.current ≤ s.current + 1 := current_step taken
    rw [List.length_append, List.length_singleton]
    omega

/-- `CURRENT` has 64 bits and wraps. In a run of fewer steps than it counts it tells operations
apart as the counter here does. -/
theorem current_apart (run : (machine uid).Run moves d) (short : moves.length < 2 ^ 64)
    {id : Nat} {op : Op Client} (there : d.ops id = some op) :
    UInt64.ofNat id = UInt64.ofNat d.current ↔ id = d.current := by
  have known := (consistent run).known id op there
  have bound := current_le run
  constructor
  · intro same
    have wrapped := congrArg UInt64.toNat same
    rwa [UInt64.toNat_ofNat', UInt64.toNat_ofNat', Nat.mod_eq_of_lt (by omega),
      Nat.mod_eq_of_lt (by omega)] at wrapped
  · rintro rfl
    rfl

/-- An operation's last signal comes while its claim stands and nothing has changed since it
began. -/
def FinalsInForce (moves : History Client) : Prop :=
  ∀ front move back id s, moves = front ++ move :: back → .signal id s ∈ move.events →
    s.done = true → ∃ n client user, move.before.state.claimOwner = some client ∧
      move.before.state.claimedBy = some user ∧
      Ongoing (Machine.trace front) n id (some client) user

/-- No operation has two last signals. -/
def FinalsOnce (moves : History Client) : Prop :=
  ∀ id, (Machine.trace moves).countP (Event.final id) ≤ 1

theorem finals_in_force (run : (machine uid).Run moves d) :
    FinalsInForce moves ∧ FinalsOnce moves := by
  constructor
  · intro front move back id s split sent done
    obtain ⟨run, taken⟩ := (split ▸ run).move
    have before := consistent run
    obtain ⟨op, at_, progress | last⟩ := signal_from taken sent
    · rw [progress.1] at done
      cases done
    · obtain ⟨_, rfl, _⟩ := last
      obtain ⟨owner, claimed, ongoing⟩ := before.force op at_
      have held : move.before.state.claimOwner.isSome = true := by
        rw [← before.claim, claimed]
        rfl
      obtain ⟨client, some_⟩ := Option.isSome_iff_exists.mp held
      rw [← owner, some_] at ongoing
      exact ⟨op.call, client, op.user, some_, claimed, ongoing⟩
  · intro id
    cases (consistent run).once id with
    | inl never => omega
    | inr once => omega

end Runs

/-- Two clients: root, and a user that is not. -/
def uids : Bool → UInt32
  | true => 0
  | false => 1000

def willing : Answers where
  peerIsAlive := true
  unixUser := .ok ()
  passwd := .ok "root:x:0:0::/root:/bin/sh\nandre:x:1000:1000::/home/andre:/bin/sh\n".toList
  polkit := .answered true
  job := .ok []

def verification : List (Label Bool) :=
  [.arrive (some false) (.claim []), .call 0 willing, .arrive (some false) (.verifyStart []),
    .call 1 willing, .select 2, .launch 2, .work 2 (.verified (.ok .noMatch)), .finish 2]

theorem finals_in_force_verification : ∃ moves d, (machine uids).Run moves d ∧
    (Machine.trace moves).countP (Event.final 2) = 1 ∧ FinalsInForce moves ∧ FinalsOnce moves := by
  have goes : (((machine uids).replay (ready Bool) verification).map fun done =>
      (Machine.trace done.1).countP (Event.final 2)) = some 1 := by decide +kernel
  obtain ⟨⟨moves, d⟩, replayed, said⟩ := Option.map_eq_some_iff.mp goes
  have run : (machine uids).Run ([] ++ moves) d := Machine.Run.init.replay replayed
  exact ⟨moves, d, run, said, finals_in_force run⟩

end ValidityFprintd.Daemon
