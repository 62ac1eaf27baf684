import ValidityFprintd.ClaimInForce

/-! Whose fingerprints a client gets at: its own, or anyone's if it is root. What a call has
settled about its client is kept with the events that settled it. -/

namespace ValidityFprintd.Daemon

variable {Client : Type}

/-- The user is the client's own login name, as the call itself looked it up or the `Claim` it
acts through. Root may be anyone. -/
def Entitled (uid : Client → UInt32) (n : Nat) (client : Client) (user : Text)
    (tr : List (Event Client)) : Prop :=
  ∃ n', Named uid n' client user tr ∧ (n' = n ∨ .claimed n' (some client) user ∈ tr)

def Job.changesFingers : Job → Bool
  | .delete => true
  | .enroll _ => true
  | _ => false

/-- What has to have happened before a job is launched. -/
def Lawful (uid : Client → UInt32) (before : List (Event Client)) (e : Event Client) : Prop :=
  ∀ n job client user, e = .launched n job client user → ∃ c, client = some c ∧
    Entitled uid n c user before ∧ (job.changesFingers = true → Permitted uid n c before)

def Event.launches : Event Client → Bool
  | .launched .. => true
  | _ => false

theorem lawful_other {uid : Client → UInt32} {before : List (Event Client)} {e : Event Client}
    (other : e.launches = false) : Lawful uid before e := by
  intro n job client user launched
  rw [launched] at other
  cases other

/-- The claim is for its owner's own name, unless its owner is root. -/
def ClaimIsOwn (uid : Client → UInt32) (tr : List (Event Client)) (d : System Client) : Prop :=
  ∀ owner user, d.state.claimOwner = some owner → d.state.claimedBy = some user →
    ∃ n, Named uid n owner user tr ∧ .claimed n (some owner) user ∈ tr

/-- Every operation is for its client's own name, and one that changes fingers was allowed. -/
def OpsAreOwn (uid : Client → UInt32) (tr : List (Event Client)) (d : System Client) : Prop :=
  ∀ id op, d.ops id = some op → ∃ c, op.client = some c ∧ Entitled uid op.call c op.user tr ∧
    (op.job.changesFingers = true → Permitted uid op.call c tr)

/-- What the claim, the calls and the operations have to show for themselves. -/
structure Entitlements (uid : Client → UInt32) (tr : List (Event Client)) (d : System Client) :
    Prop where
  claim : ClaimIsOwn uid tr d
  named : ∀ n call user, d.calls n = some call → call.phase = .authorizing (some user) →
    ∃ c, call.sender = some c ∧ Entitled uid n c user tr
  permitted : ∀ n call, d.calls n = some call → call.phase = .authorized →
    ∃ c, call.sender = some c ∧ Permitted uid n c tr
  ops : OpsAreOwn uid tr d
  launches : Machine.Always (Lawful uid) tr

section Grown

variable {uid : Client → UInt32} {n : Nat} {client : Client} {user : Text}
  {tr events : List (Event Client)}

theorem Named.append (h : Named uid n client user tr) : Named uid n client user (tr ++ events) :=
  h.mono fun _ mem => List.mem_append_left events mem

theorem Permitted.append (h : Permitted uid n client tr) : Permitted uid n client (tr ++ events) :=
  h.mono fun _ mem => List.mem_append_left events mem

theorem Entitled.append (h : Entitled uid n client user tr) :
    Entitled uid n client user (tr ++ events) := by
  obtain ⟨n', named, source⟩ := h
  exact ⟨n', named.append, source.imp_right (List.mem_append_left events)⟩

theorem Named.entitled (h : Named uid n client user events) :
    Entitled uid n client user (tr ++ events) :=
  ⟨n, h.mono fun _ mem => List.mem_append_right tr mem, .inl rfl⟩

theorem sights_lawful (sights : ∀ e ∈ events, e.sight = true) :
    ∀ e ∈ events, ∀ pre, Lawful uid pre e := by
  intro e mem pre n job client user launched
  cases launched ▸ sights e mem

end Grown

namespace Entitlements

variable {uid : Client → UInt32} {tr events : List (Event Client)} {d d' : System Client}

theorem init : Entitlements uid [] (ready Client) where
  claim := by
    intro owner user held
    cases held
  named := by
    intro n call user at_
    cases at_
  permitted := by
    intro n call at_
    cases at_
  ops := by
    intro id op at_
    cases at_
  launches := Machine.always_nil _

theorem claim_append (h : Entitlements uid tr d) : ClaimIsOwn uid (tr ++ events) d := by
  intro owner user held claimed
  obtain ⟨n, name, mem⟩ := h.claim owner user held claimed
  exact ⟨n, name.append, List.mem_append_left _ mem⟩

theorem ops_append (h : Entitlements uid tr d) : OpsAreOwn uid (tr ++ events) d := by
  intro id op at_
  obtain ⟨client, sent, entitled, yes⟩ := h.ops id op at_
  exact ⟨client, sent, entitled.append, fun changes => (yes changes).append⟩

theorem calls (h : Entitlements uid tr d) {n : Nat} {next : Option (Call Client)}
    (claim : ClaimIsOwn uid (tr ++ events) d') (ops : OpsAreOwn uid (tr ++ events) d')
    (calls : d'.calls = Function.update d.calls n next)
    (named : ∀ c user, next = some c → c.phase = .authorizing (some user) →
      ∃ client, c.sender = some client ∧ Entitled uid n client user (tr ++ events))
    (permitted : ∀ c, next = some c → c.phase = .authorized →
      ∃ client, c.sender = some client ∧ Permitted uid n client (tr ++ events))
    (launches : Machine.Always (Lawful uid) (tr ++ events)) :
    Entitlements uid (tr ++ events) d' where
  claim := claim
  named := by
    rw [calls]
    intro m c user at_ phase
    by_cases same : m = n
    · rw [same, Function.update_self] at at_
      exact same ▸ named c user at_ phase
    · rw [Function.update_of_ne same] at at_
      obtain ⟨client, sent, entitled⟩ := h.named m c user at_ phase
      exact ⟨client, sent, entitled.append⟩
  permitted := by
    rw [calls]
    intro m c at_ phase
    by_cases same : m = n
    · rw [same, Function.update_self] at at_
      exact same ▸ permitted c at_ phase
    · rw [Function.update_of_ne same] at at_
      obtain ⟨client, sent, yes⟩ := h.permitted m c at_ phase
      exact ⟨client, sent, yes.append⟩
  ops := ops
  launches := launches

theorem closed (h : Entitlements uid tr d) {n : Nat}
    (claim : ClaimIsOwn uid (tr ++ events) d') (ops : OpsAreOwn uid (tr ++ events) d')
    (calls : d'.calls = Function.update d.calls n none)
    (launches : Machine.Always (Lawful uid) (tr ++ events)) :
    Entitlements uid (tr ++ events) d' := by
  refine h.calls claim ops calls ?_ ?_ launches
  · intro c user none
    cases none
  · intro c none
    cases none

theorem rests (h : Entitlements uid tr d) {n : Nat} {call : Call Client}
    (claim : ClaimIsOwn uid (tr ++ events) d') (ops : OpsAreOwn uid (tr ++ events) d')
    (calls : d'.calls = Function.update d.calls n (some call))
    (unnamed : ∀ user, call.phase ≠ .authorizing (some user)) (unasked : call.phase ≠ .authorized)
    (launches : Machine.Always (Lawful uid) (tr ++ events)) :
    Entitlements uid (tr ++ events) d' := by
  refine h.calls claim ops calls ?_ ?_ launches
  · intro c user next phase
    exact absurd (Option.some.inj next ▸ phase) (unnamed user)
  · intro c next phase
    exact absurd (Option.some.inj next ▸ phase) unasked

theorem quiet {n : Nat} {call : Call Client} {r : Done Client} (h : Entitlements uid tr d)
    (at_ : d.calls n = some call) (q : Quiet uid d n call r) :
    Entitlements uid (tr ++ r.2) r.1 := by
  cases q with
  | fails e sights =>
    exact h.closed h.claim_append h.ops_append rfl
      (h.launches.ends (sights_lawful sights) (lawful_other rfl))
  | answers reply =>
    exact h.closed h.claim_append h.ops_append rfl (h.launches.snoc (lawful_other rfl))
  | named sights sent name =>
    refine h.calls h.claim_append h.ops_append rfl ?_ ?_ (h.launches.free (sights_lawful sights))
    · intro c user next phase
      obtain rfl := Option.some.inj next
      obtain rfl := Option.some.inj (Phase.authorizing.inj phase)
      exact ⟨_, sent, name.entitled⟩
    · intro c next phase
      cases Option.some.inj next ▸ phase
  | held sent owner claimed =>
    refine h.calls h.claim_append h.ops_append rfl ?_ ?_ (h.launches.free (List.forall_mem_nil _))
    · intro c user next phase
      obtain rfl := Option.some.inj next
      obtain rfl := Option.some.inj (Phase.authorizing.inj phase)
      obtain ⟨m, name, mem⟩ := h.claim_append _ _ owner claimed
      exact ⟨_, sent, m, name, .inr mem⟩
    · intro c next phase
      cases Option.some.inj next ▸ phase
  | asks =>
    refine h.rests h.claim_append h.ops_append rfl ?_ ?_ (h.launches.free (List.forall_mem_nil _))
    · intro user asked
      cases asked
    · exact Phase.noConfusion
  | permitted sights sent yes =>
    refine h.calls h.claim_append h.ops_append rfl ?_ ?_ (h.launches.free (sights_lawful sights))
    · intro c user next phase
      cases Option.some.inj next ▸ phase
    · intro c next _
      obtain rfl := Option.some.inj next
      exact ⟨_, sent, yes.mono fun _ mem => List.mem_append_right tr mem⟩
  | @lists client user events sights sent name =>
    refine h.rests h.claim_append h.ops_append rfl (fun _ => Phase.noConfusion)
      Phase.noConfusion ?_
    refine h.launches.ends (sights_lawful sights) ?_
    intro m job client' user' launched
    obtain ⟨rfl, rfl, rfl, rfl⟩ := Event.launched.inj launched
    exact ⟨client, sent, name.entitled, fun changes => by cases changes⟩
  | @deletes client user events sights sent named yes =>
    refine h.rests h.claim_append h.ops_append rfl (fun _ => Phase.noConfusion)
      Phase.noConfusion ?_
    refine h.launches.ends (sights_lawful sights) ?_
    intro m job client' user' launched
    obtain ⟨rfl, rfl, rfl, rfl⟩ := Event.launched.inj launched
    obtain ⟨client', sent', entitled⟩ := h.named _ _ _ at_ named
    obtain rfl : client = client' := Option.some.inj (sent.symm.trans sent')
    exact ⟨client, sent, entitled.append,
      fun _ => yes.mono fun _ mem => List.mem_append_right tr mem⟩

theorem arrive (h : Entitlements uid tr d) (sender : Option Client) (method : Method) :
    Entitlements uid (tr ++ []) { d with
      arrivals := d.arrivals + 1
      calls := Function.update d.calls d.arrivals (some ⟨sender, method, .arrived⟩) } := by
  exact h.rests h.claim_append h.ops_append rfl (fun _ => Phase.noConfusion) Phase.noConfusion
    (h.launches.free (List.forall_mem_nil _))

theorem op {id : Nat} {op op' : Op Client} (h : Entitlements uid tr d) (at_ : d.ops id = some op)
    (card : op'.call = op.call ∧ op'.client = op.client ∧ op'.user = op.user ∧ op'.job = op.job)
    (claimOwner : d'.state.claimOwner = d.state.claimOwner)
    (claimedBy : d'.state.claimedBy = d.state.claimedBy) (calls : d'.calls = d.calls)
    (ops : d'.ops = Function.update d.ops id (some op'))
    (launches : Machine.Always (Lawful uid) (tr ++ events)) :
    Entitlements uid (tr ++ events) d' where
  claim := by
    rw [ClaimIsOwn, claimOwner, claimedBy]
    exact h.claim_append
  named := by
    rw [calls]
    intro n call user there phase
    obtain ⟨client, sent, entitled⟩ := h.named n call user there phase
    exact ⟨client, sent, entitled.append⟩
  permitted := by
    rw [calls]
    intro n call there phase
    obtain ⟨client, sent, yes⟩ := h.permitted n call there phase
    exact ⟨client, sent, yes.append⟩
  ops := by
    rw [OpsAreOwn, ops]
    intro i o there
    cases update_cases there with
    | inl new =>
      obtain ⟨rfl, rfl⟩ := new
      rw [card.1, card.2.1, card.2.2.1, card.2.2.2]
      exact h.ops_append i op at_
    | inr old => exact h.ops_append i o old
  launches := launches

theorem turn {id : Nat} {op op' : Op Client} (h : Entitlements uid tr d) (at_ : d.ops id = some op)
    (m : OpMove d id op op' events) : Entitlements uid (tr ++ events) (put d id op' events).1 := by
  obtain ⟨call, client, user, job, _⟩ := m.keeps
  refine h.op at_ ⟨call, client, user, job⟩ rfl rfl rfl rfl ?_
  cases m with
  | selects => exact h.launches.snoc (lawful_other rfl)
  | launches task =>
    refine h.launches.snoc ?_
    intro n job client user launched
    obtain ⟨rfl, rfl, rfl, rfl⟩ := Event.launched.inj launched
    exact h.ops id op at_
  | works => exact h.launches.free (List.forall_mem_nil _)
  | checks => exact h.launches.free (List.forall_mem_nil _)
  | forwards => exact h.launches.snoc (lawful_other rfl)
  | stale => exact h.launches.free (List.forall_mem_nil _)

theorem step [DecidableEq Client] {label : Label Client} {r : Done Client}
    (h : Entitlements uid tr d) (taken : step uid d label = some r) :
    Entitlements uid (tr ++ r.2) r.1 := by
  cases step_moves taken with
  | arrives sender method => exact h.arrive sender method
  | turns at_ moved => exact h.turn at_ moved
  | finishes at_ task current =>
    refine h.op at_ ?_ rfl rfl rfl rfl (h.launches.snoc (lawful_other rfl))
    exact ⟨rfl, rfl, rfl, rfl⟩
  | @calls n call env r at_ moved =>
    cases moved with
    | quiet q => exact h.quiet at_ q
    | @claims client username user events method free sights sent name =>
      refine h.closed ?_ h.ops_append rfl (h.launches.ends ?_ (lawful_other rfl))
      · intro owner user' held claimed
        obtain rfl : client = owner := Option.some.inj (sent.symm.trans held)
        obtain rfl : user = user' := Option.some.inj claimed
        refine ⟨n, name.mono fun e mem => ?_, ?_⟩
        · simp [System.reply, mem]
        · simp [System.reply, sent]
      · intro e mem pre
        cases List.mem_append.mp mem with
        | inl seen => exact sights_lawful sights e seen pre
        | inr now => exact List.mem_singleton.mp now ▸ lawful_other rfl
    | releases =>
      exact h.closed (fun _ _ none => by cases none) h.ops_append rfl (h.launches.ends
        (fun e mem _ => List.mem_singleton.mp mem ▸ lawful_other rfl) (lawful_other rfl))
    | stops =>
      exact h.closed h.claim_append h.ops_append rfl (h.launches.ends
        (fun e mem _ => List.mem_singleton.mp mem ▸ lawful_other rfl) (lawful_other rfl))
    | @starts owner user job task sent held claimed free unfinished kind =>
      refine h.closed h.claim_append ?_ rfl (h.launches.ends
        (fun e mem _ => List.mem_singleton.mp mem ▸ lawful_other rfl) (lawful_other rfl))
      intro id op there
      cases update_cases there with
      | inl new =>
        obtain ⟨rfl, rfl⟩ := new
        obtain ⟨m, name, mem⟩ := h.claim_append owner user held claimed
        refine ⟨owner, sent, ⟨m, name, .inr mem⟩, fun changes => ?_⟩
        cases kind with
        | inl verify =>
          obtain ⟨finger, rfl⟩ := verify
          cases changes
        | inr enroll =>
          obtain ⟨client, sent', yes⟩ := h.permitted n call at_ enroll.2.2
          obtain rfl : owner = client := Option.some.inj (sent.symm.trans sent')
          exact yes.append
      | inr old => exact h.ops_append id op old

end Entitlements

/-- Every job is for its client's own fingerprints, and with polkit's yes where it changes them;
and so is the claim. -/
theorem own_fingers [DecidableEq Client] {uid : Client → UInt32}
    {moves : History Client} {d : System Client}
    (run : (machine uid).Run moves d) :
    Machine.Always (Lawful uid) (Machine.trace moves) ∧ ClaimIsOwn uid (Machine.trace moves) d := by
  have all : Entitlements uid (Machine.trace moves) d :=
    run.invariant .init fun h taken => h.step taken
  exact ⟨all.launches, all.claim⟩

/-- A user that is not root claims the device and enrols a finger. -/
def enrolment : List (Label Bool) :=
  [.arrive (some false) (.claim []), .call 0 willing,
    .arrive (some false) (.enrollStart "any".toList), .call 1 willing, .call 1 willing,
    .call 1 willing, .launch 2]

theorem own_fingers_enrolment : ∃ moves d, (machine uids).Run moves d ∧
    (d.ops 2).map Op.task = some .running ∧
    Machine.Always (Lawful uids) (Machine.trace moves) ∧
      ClaimIsOwn uids (Machine.trace moves) d := by
  have goes : (((machine uids).replay (ready Bool) enrolment).map fun done =>
      (done.2.ops 2).map Op.task) = some (some .running) := by decide +kernel
  obtain ⟨⟨moves, d⟩, replayed, task⟩ := Option.map_eq_some_iff.mp goes
  have run : (machine uids).Run ([] ++ moves) d := Machine.Run.init.replay replayed
  exact ⟨moves, d, run, task, own_fingers run⟩

end ValidityFprintd.Daemon
