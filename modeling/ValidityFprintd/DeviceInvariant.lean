import ValidityFprintd.ClaimInForce

/-! What every run keeps of the device: its fields agree, a call that fails changes nothing,
and while there is a claim only its owner decides. -/

namespace ValidityFprintd.Daemon

variable {Client : Type}

section Replies

variable {uid : Client → UInt32} {d : System Client} {n : Nat} {call : Call Client}
  {env : Answers} {r : Done Client} {events : List (Event Client)}

theorem sights_noReply (sights : ∀ e ∈ events, e.sight = true) (m : Nat) (reply : Reply) :
    .replied m reply ∉ events := by
  intro mem
  cases sights _ mem

theorem sights_noReply_append {last : Event Client} (sights : ∀ e ∈ events, e.sight = true)
    (other : ∀ m reply, last ≠ .replied m reply) (m : Nat) (reply : Reply) :
    .replied m reply ∉ events ++ [last] := by
  intro mem
  cases List.mem_append.mp mem with
  | inl seen => exact sights_noReply sights m reply seen
  | inr now => exact other m reply (List.mem_singleton.mp now).symm

/-- A call goes on and says nothing, or has its reply and is over. -/
def Replies (d : System Client) (n : Nat) (r : Done Client) : Prop :=
  r.1.arrivals = d.arrivals ∧
    ((∃ call, r.1.calls = Function.update d.calls n (some call)) ∧
        (∀ m reply, .replied m reply ∉ r.2) ∨
      r.1.calls = Function.update d.calls n none ∧
        ∃ events reply, r.2 = events ++ [.replied n reply] ∧ ∀ m reply, .replied m reply ∉ events)

theorem Quiet.replies (q : Quiet uid d n call r) : Replies d n r := by
  cases q with
  | fails e sights => exact ⟨rfl, .inr ⟨rfl, _, _, rfl, sights_noReply sights⟩⟩
  | answers reply => exact ⟨rfl, .inr ⟨rfl, [], reply, rfl, by simp⟩⟩
  | named sights => exact ⟨rfl, .inl ⟨⟨_, rfl⟩, sights_noReply sights⟩⟩
  | held => exact ⟨rfl, .inl ⟨⟨_, rfl⟩, by simp [System.goOn]⟩⟩
  | asks => exact ⟨rfl, .inl ⟨⟨_, rfl⟩, by simp [System.goOn]⟩⟩
  | permitted sights => exact ⟨rfl, .inl ⟨⟨_, rfl⟩, sights_noReply sights⟩⟩
  | lists sights =>
    exact ⟨rfl, .inl ⟨⟨_, rfl⟩, sights_noReply_append sights fun _ _ => nofun⟩⟩
  | deletes sights =>
    exact ⟨rfl, .inl ⟨⟨_, rfl⟩, sights_noReply_append sights fun _ _ => nofun⟩⟩

variable [DecidableEq Client]

theorem CallMove.effect (m : CallMove uid d n call env r) : Quiet uid d n call r ∨
    r.1.arrivals = d.arrivals ∧ r.1.calls = Function.update d.calls n none ∧
      ∃ events, r.2 = events ++ [.replied n .done] ∧ ∀ m reply, .replied m reply ∉ events := by
  cases m with
  | quiet q => exact .inl q
  | claims method free sights =>
    exact .inr ⟨rfl, rfl, _, rfl, sights_noReply_append sights fun _ _ => nofun⟩
  | releases => exact .inr ⟨rfl, rfl, _, rfl, by simp⟩
  | stops => exact .inr ⟨rfl, rfl, _, rfl, by simp⟩
  | starts => exact .inr ⟨rfl, rfl, _, rfl, by simp⟩

theorem CallMove.replies (m : CallMove uid d n call env r) : Replies d n r := by
  cases m.effect with
  | inl q => exact q.replies
  | inr done =>
    obtain ⟨arrivals, calls, events, split, none⟩ := done
    exact ⟨arrivals, .inr ⟨calls, events, .done, split, none⟩⟩

end Replies

/-- Calls that are open have no reply yet, and none gets two. -/
structure Answered (tr : List (Event Client)) (d : System Client) : Prop where
  waiting : ∀ n call, d.calls n = some call → n < d.arrivals ∧ ∀ r, .replied n r ∉ tr
  known : ∀ n r, .replied n r ∈ tr → n < d.arrivals
  once : Machine.Always (fun pre e => ∀ n r, e = .replied n r → ∀ r', .replied n r' ∉ pre) tr

namespace Answered

variable {tr events : List (Event Client)} {d d' : System Client}

theorem init : Answered [] (ready Client) where
  waiting := by
    intro n call at_
    cases at_
  known := by
    intro n r mem
    cases mem
  once := Machine.always_nil _

theorem silent (h : Answered tr d) (arrivals : d'.arrivals = d.arrivals)
    (calls : d'.calls = d.calls) (none : ∀ m r, .replied m r ∉ events) :
    Answered (tr ++ events) d' where
  waiting := by
    intro n call at_
    obtain ⟨before, unanswered⟩ := h.waiting n call (calls ▸ at_)
    rw [arrivals]
    refine ⟨before, fun r mem => ?_⟩
    exact (List.mem_append.mp mem).elim (unanswered r) (none n r)
  known := by
    intro n r mem
    rw [arrivals]
    exact h.known n r ((List.mem_append.mp mem).resolve_right (none n r))
  once := h.once.free fun e mem _ n r replied => absurd (replied ▸ mem) (none n r)

theorem call {n : Nat} {call : Call Client} {r : Done Client} (h : Answered tr d)
    (at_ : d.calls n = some call) (replies : Replies d n r) : Answered (tr ++ r.2) r.1 := by
  obtain ⟨before, unanswered⟩ := h.waiting n call at_
  obtain ⟨arrivals, ⟨⟨call', calls⟩, none⟩ | ⟨calls, events, reply, split, none⟩⟩ := replies
  · constructor
    · intro m other there
      rw [arrivals]
      by_cases same : m = n
      · rw [same]
        exact ⟨before, fun r mem => (List.mem_append.mp mem).elim (unanswered r) (none n r)⟩
      · rw [calls, Function.update_of_ne same] at there
        obtain ⟨before', unanswered'⟩ := h.waiting m other there
        exact ⟨before', fun r mem => (List.mem_append.mp mem).elim (unanswered' r) (none m r)⟩
    · intro m r mem
      rw [arrivals]
      exact h.known m r ((List.mem_append.mp mem).resolve_right (none m r))
    · exact h.once.free fun e mem _ m r replied => absurd (replied ▸ mem) (none m r)
  · have last : ∀ m r, .replied m r ∈ events ++ [.replied n reply] → m = n := by
      intro m r mem
      have now := (List.mem_append.mp mem).resolve_left (none m r)
      exact (Event.replied.inj (List.mem_singleton.mp now)).1
    rw [split]
    constructor
    · intro m other there
      rw [arrivals]
      by_cases same : m = n
      · rw [same, calls, Function.update_self] at there
        cases there
      · rw [calls, Function.update_of_ne same] at there
        obtain ⟨before', unanswered'⟩ := h.waiting m other there
        exact ⟨before', fun r mem =>
          (List.mem_append.mp mem).elim (unanswered' r) fun now => same (last m r now)⟩
    · intro m r mem
      rw [arrivals]
      cases List.mem_append.mp mem with
      | inl earlier => exact h.known m r earlier
      | inr now => exact last m r now ▸ before
    · refine h.once.ends (fun e mem _ m r replied => absurd (replied ▸ mem) (none m r)) ?_
      intro m r replied r' mem
      obtain ⟨rfl, _⟩ := Event.replied.inj replied
      exact (List.mem_append.mp mem).elim (unanswered r') (none n r')

theorem step [DecidableEq Client] {uid : Client → UInt32} {label : Label Client} {r : Done Client}
    (h : Answered tr d) (taken : step uid d label = some r) : Answered (tr ++ r.2) r.1 := by
  cases step_moves taken with
  | calls at_ moved => exact h.call at_ moved.replies
  | turns at_ moved =>
    refine h.silent rfl rfl ?_
    intro m r mem
    cases moved <;> simp [put] at mem
  | finishes => exact h.silent rfl rfl (by simp [put])
  | arrives sender method =>
    rw [List.append_nil]
    constructor
    · intro n call there
      by_cases same : n = d.arrivals
      · refine ⟨Nat.lt_succ_of_le (Nat.le_of_eq same), fun r mem => ?_⟩
        exact absurd (h.known n r mem) (by omega)
      · have earlier : d.calls n = some call := (Function.update_of_ne same _ _).symm.trans there
        exact ⟨Nat.lt_succ_of_lt (h.waiting n call earlier).1, (h.waiting n call earlier).2⟩
    · exact fun n r mem => Nat.lt_succ_of_lt (h.known n r mem)
    · exact h.once

theorem unique (h : Answered tr d) {n : Nat} {r r' : Reply} (one : .replied n r ∈ tr)
    (other : .replied n r' ∈ tr) : r = r' := by
  obtain ⟨pre, post, split⟩ := List.append_of_mem one
  rw [split] at other
  cases List.mem_append.mp other with
  | inl earlier => exact absurd earlier (h.once pre _ post split n r rfl r')
  | inr rest =>
    cases rest with
    | head => rfl
    | tail _ later =>
      obtain ⟨mid, rest, between⟩ := List.append_of_mem later
      have whole : tr = (pre ++ .replied n r :: mid) ++ .replied n r' :: rest := by
        rw [split, between]
        simp
      exact absurd (by simp) (h.once _ _ rest whole n r' rfl r)

end Answered

section Runs

variable [DecidableEq Client] {uid : Client → UInt32} {moves : History Client} {d : System Client}

theorem answered (run : (machine uid).Run moves d) : Answered (Machine.trace moves) d :=
  run.invariant .init fun h taken => h.step taken

/-- The claim's fields agree. The device is busy while the operation that is current goes on, and
that one was begun under the claim. -/
def FieldsAgree (tr : List (Event Client)) (d : System Client) : Prop :=
  (d.state.claimedBy.isSome ↔ d.state.claimOwner.isSome) ∧
  (d.state.busy ↔ ∃ op, d.ops d.current = some op ∧ op.task ≠ .finished) ∧
  (d.state.busy → ∃ n client user, d.state.claimOwner = some client ∧
    d.state.claimedBy = some user ∧ Ongoing tr n d.current (some client) user)

/-- No step of a call that fails touches the device. -/
def ErrorsChangeNothing (moves : History Client) : Prop :=
  ∀ front move back n env e, moves = front ++ move :: back → move.label = .call n env →
    .replied n (.error e) ∈ Machine.trace moves →
    move.after.state = move.before.state ∧ move.after.current = move.before.current

/-- The claim, or the operation going on, is another after the step. -/
def Disturbs (move : Machine.Move (System Client) (Label Client) (Event Client)) : Prop :=
  move.after.state.claimedBy ≠ move.before.state.claimedBy ∨
  move.after.state.claimOwner ≠ move.before.state.claimOwner ∨
  move.after.current ≠ move.before.current ∨ ∃ e ∈ move.events, e.changes = true

/-- While there is a claim only its owner's calls disturb anything, and the `Claim` of another
client once the owner is gone. -/
def OwnersDecide (moves : History Client) : Prop :=
  ∀ front move back owner, moves = front ++ move :: back →
    move.before.state.claimOwner = some owner → Disturbs move →
    ∃ n env call, move.label = .call n env ∧ move.before.calls n = some call ∧
      (call.sender = some owner ∨
        (∃ username, call.method = .claim username) ∧ env.peerIsAlive = false)

def StartsWhenIdle (moves : History Client) : Prop :=
  ∀ front move back n id client user, moves = front ++ move :: back →
    .began n id client user ∈ move.events → move.before.state.busy = false

theorem fields_agree (run : (machine uid).Run moves d) : FieldsAgree (Machine.trace moves) d := by
  have c := consistent run
  refine ⟨by rw [c.claim], c.busy, ?_⟩
  intro busy
  obtain ⟨op, at_, _⟩ := c.busy.mp busy
  obtain ⟨owner, claimed, ongoing⟩ := c.force op at_
  have held : d.state.claimOwner.isSome = true := by
    rw [← c.claim, claimed]
    rfl
  obtain ⟨client, some_⟩ := Option.isSome_iff_exists.mp held
  rw [← owner, some_] at ongoing
  exact ⟨op.call, client, op.user, some_, claimed, ongoing⟩

theorem errors_change_nothing (run : (machine uid).Run moves d) : ErrorsChangeNothing moves := by
  intro front move back n env e split label failed
  obtain ⟨_, taken⟩ := (split ▸ run).move
  rw [label] at taken
  obtain ⟨call, at_, moved⟩ := call_moves taken
  cases moved.effect with
  | inl q => exact ⟨q.keeps.1, q.keeps.2.1⟩
  | inr effect =>
    -- the call has its reply in this step, and it is no error
    obtain ⟨_, _, events, replied, _⟩ := effect
    replace replied : move.events = events ++ [.replied n .done] := replied
    have done : .replied n .done ∈ Machine.trace moves := by
      rw [split, Machine.trace_append, Machine.trace_cons, replied]
      simp
    cases (answered run).unique done failed

theorem owners_decide (run : (machine uid).Run moves d) : OwnersDecide moves := by
  intro front move back owner split held disturbs
  obtain ⟨front_run, taken⟩ := (split ▸ run).move
  have before := consistent front_run
  obtain ⟨d₁, label, d₂, events⟩ := move
  have undisturbed : d₂.state.claimedBy = d₁.state.claimedBy →
      d₂.state.claimOwner = d₁.state.claimOwner → d₂.current = d₁.current →
      (∀ e ∈ events, e.changes = false) → False := by
    intro claimedBy claimOwner current calm
    obtain other | other | other | ⟨e, mem, changes⟩ := disturbs
    · exact other claimedBy
    · exact other claimOwner
    · exact other current
    · rw [calm e mem] at changes
      cases changes
  replace taken : step uid d₁ label = some (d₂, events) := taken
  generalize done : (d₂, events) = r at taken
  obtain ⟨rfl, rfl⟩ : d₂ = r.1 ∧ events = r.2 := by simp [← done]
  cases step_moves taken with
  | arrives => exact (undisturbed rfl rfl rfl (by simp)).elim
  | turns at_ moved => exact (undisturbed rfl rfl rfl fun e mem => (moved.calm e mem).1).elim
  | finishes => exact (undisturbed rfl rfl rfl (by simp [put, Event.changes])).elim
  | calls at_ moved =>
    refine ⟨_, _, _, rfl, at_, ?_⟩
    cases moved with
    | quiet q =>
      obtain ⟨state, current, _⟩ := q.keeps
      have calm : ∀ e ∈ r.2, e.changes = false := fun e mem => Event.plain_changes (q.plain e mem)
      exact (undisturbed (by rw [state]) (by rw [state]) current calm).elim
    | claims method free sights sent =>
      have claimed : d₁.state.claimedBy.isSome = true := by
        rw [before.claim, held]
        rfl
      obtain ⟨user, claimed⟩ := Option.isSome_iff_exists.mp claimed
      exact (blockedBy_none free claimed held).imp_right fun dead => ⟨⟨_, method⟩, dead⟩
    | releases sent held' => exact .inl (sent.trans (held'.symm.trans held))
    | stops sent held' => exact .inl (sent.trans (held'.symm.trans held))
    | starts sent held' => exact .inl (sent.trans (held'.symm.trans held))

theorem starts_when_idle (run : (machine uid).Run moves d) : StartsWhenIdle moves := by
  intro front move back n id client user split began
  obtain ⟨_, taken⟩ := (split ▸ run).move
  obtain ⟨d₁, label, d₂, events⟩ := move
  replace taken : step uid d₁ label = some (d₂, events) := taken
  generalize done : (d₂, events) = r at taken
  obtain ⟨rfl, rfl⟩ : d₂ = r.1 ∧ events = r.2 := by simp [← done]
  cases step_moves taken with
  | arrives => cases began
  | turns at_ moved => cases (moved.calm _ began).1
  | finishes => cases List.mem_singleton.mp began
  | calls at_ moved =>
    cases moved with
    | quiet q => cases q.plain _ began
    | claims method free sights =>
      cases effect_mem sights began with
      | inl plain => cases plain
      | inr now => cases now
    | releases => simp [System.reply] at began
    | stops => simp [System.reply] at began
    | starts sent held claimed free => exact free

theorem device_invariant (run : (machine uid).Run moves d) :
    FieldsAgree (Machine.trace moves) d ∧ ErrorsChangeNothing moves ∧ OwnersDecide moves ∧
      StartsWhenIdle moves :=
  ⟨fields_agree run, errors_change_nothing run, owners_decide run, starts_when_idle run⟩

end Runs

/-- A claim that another client takes over once its owner is gone, while a verification runs. -/
def takeover : List (Label Bool) :=
  [.arrive (some false) (.claim []), .call 0 willing, .arrive (some false) (.verifyStart []),
    .call 1 willing, .arrive (some true) (.claim []), .call 2 willing,
    .arrive (some true) (.claim "andre".toList), .call 3 { willing with peerIsAlive := false }]

theorem device_invariant_takeover : ∃ moves d, (machine uids).Run moves d ∧
    d.state.claimOwner = some true ∧ d.state.busy = false ∧ FieldsAgree (Machine.trace moves) d ∧
      ErrorsChangeNothing moves ∧ OwnersDecide moves ∧ StartsWhenIdle moves := by
  have goes : (((machine uids).replay (ready Bool) takeover).map fun done =>
      (done.2.state.claimOwner, done.2.state.busy)) = some (some true, false) := by decide +kernel
  obtain ⟨⟨moves, d⟩, replayed, fields⟩ := Option.map_eq_some_iff.mp goes
  obtain ⟨owner, busy⟩ := Prod.mk.inj fields
  have run : (machine uids).Run ([] ++ moves) d := Machine.Run.init.replay replayed
  exact ⟨moves, d, run, owner, busy, device_invariant run⟩

end ValidityFprintd.Daemon
