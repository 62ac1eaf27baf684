import Mathlib.Data.List.Induction
import ValidityFprintd.OwnFingers

/-! Which look at the claim a job rests on. `EnrollStart` looks again behind polkit's answer, and
`VerifyStart` waits for nobody; `DeleteEnrolledFingers2` looks once, before it asks. -/

namespace ValidityFprintd.Daemon

variable {Client : Type}

/-- The methods that launch a job for the user of the claim. -/
def Method.driven : Method → Bool
  | .enrollStart _ => true
  | .verifyStart _ => true
  | .deleteEnrolledFingers2 => true
  | _ => false

/-- The parts of these methods that look at the claim, with the state's mutex held. -/
def Method.looks : Method → Phase → Bool
  | .enrollStart _, .arrived => true
  | .enrollStart _, .authorized => true
  | .verifyStart _, .arrived => true
  | .deleteEnrolledFingers2, .arrived => true
  | _, _ => false

abbrev Step (Client : Type) := Machine.Move (System Client) (Label Client) (Event Client)

def Looks (n : Nat) (move : Step Client) : Prop :=
  ∃ env call, move.label = .call n env ∧ move.before.calls n = some call ∧
    call.method.looks call.phase = true

/-- The call waits for its authorization. -/
def Waits (n : Nat) (d : System Client) : Prop :=
  ∃ call user, d.calls n = some call ∧ call.phase = .authorizing user

def HeldFor (d : System Client) (client : Option Client) (user : Text) : Prop :=
  client.isSome = true ∧ d.state.claimOwner = client ∧ d.state.claimedBy = some user

/-- The step launches the job of a method that acts through the claim. -/
def LaunchesDriven (move : Step Client) (n : Nat) (client : Option Client) (user : Text) : Prop :=
  ∃ job, .launched n job client user ∈ move.events ∧
    ((∃ finger, job = .enroll finger) ∨ (∃ finger, job = .verify finger) ∨
      job = .delete ∧ ∃ call, move.before.calls n = some call ∧
        call.method = .deleteEnrolledFingers2)

/-- Such a job rests on the call's last look, which found the claim and was followed by no wait
for an authorization. -/
def Rests (front : History Client) (move : Step Client) (n : Nat) (client : Option Client)
    (user : Text) : Prop :=
  ∃ pre look mid, front = pre ++ look :: mid ∧ Looks n look ∧ HeldFor look.before client user ∧
    ∀ m ∈ mid ++ [move], ¬ Looks n m ∧ ¬ Waits n m.before

section Sources

variable {uid : Client → UInt32} {d : System Client} {r : Done Client} {n m : Nat} {job : Job}
  {client : Option Client} {user : Text} {call : Call Client}

theorem sights_no_launch {events : List (Event Client)} (sights : ∀ e ∈ events, e.sight = true) :
    .launched n job client user ∉ events := fun mem => by cases sights _ mem

theorem sights_no_reply {events : List (Event Client)} {reply : Reply}
    (sights : ∀ e ∈ events, e.sight = true) : .replied n reply ∉ events :=
  fun mem => by cases sights _ mem

theorem reply_no_launch {reply : Reply} {events : List (Event Client)}
    (sights : ∀ e ∈ events, e.sight = true) :
    .launched n job client user ∉ (d.reply m reply events).2 := by
  intro mem
  cases (List.mem_append.mp mem).resolve_left (sights_no_launch sights) with
  | tail _ none => cases none

theorem Quiet.launched (q : Quiet uid d m call r) (mem : .launched n job client user ∈ r.2) :
    n = m ∧ (job = .list ∨ job = .delete) := by
  cases q with
  | fails e sights => exact absurd mem (reply_no_launch sights)
  | answers => exact absurd mem (reply_no_launch (List.forall_mem_nil _))
  | named sights => exact absurd mem (sights_no_launch sights)
  | held => cases mem
  | asks => cases mem
  | permitted sights => exact absurd mem (sights_no_launch sights)
  | lists sights =>
    have last := (List.mem_append.mp mem).resolve_left (sights_no_launch sights)
    obtain ⟨rfl, rfl, _⟩ := Event.launched.inj (List.mem_singleton.mp last)
    exact ⟨rfl, .inl rfl⟩
  | deletes sights =>
    have last := (List.mem_append.mp mem).resolve_left (sights_no_launch sights)
    obtain ⟨rfl, rfl, _⟩ := Event.launched.inj (List.mem_singleton.mp last)
    exact ⟨rfl, .inr rfl⟩

theorem Quiet.replied {reply : Reply} (q : Quiet uid d m call r) (mem : .replied n reply ∈ r.2) :
    n = m := by
  cases q with
  | fails e sights =>
    have last := (List.mem_append.mp mem).resolve_left (sights_no_reply sights)
    exact (Event.replied.inj (List.mem_singleton.mp last)).1
  | answers => exact (Event.replied.inj (List.mem_singleton.mp mem)).1
  | named sights => exact absurd mem (sights_no_reply sights)
  | held => cases mem
  | asks => cases mem
  | permitted sights => exact absurd mem (sights_no_reply sights)
  | lists sights =>
    cases (List.mem_append.mp mem).resolve_left (sights_no_reply sights) with
    | tail _ none => cases none
  | deletes sights =>
    cases (List.mem_append.mp mem).resolve_left (sights_no_reply sights) with
    | tail _ none => cases none

theorem OpMove.launched {id : Nat} {op op' : Op Client} {events : List (Event Client)}
    (moved : OpMove d id op op' events) (mem : .launched n job client user ∈ events) :
    op.call = n ∧ op.job = job ∧ op.client = client ∧ op.user = user := by
  cases moved with
  | launches =>
    obtain ⟨rfl, rfl, rfl, rfl⟩ := Event.launched.inj (List.mem_singleton.mp mem)
    exact ⟨rfl, rfl, rfl, rfl⟩
  | selects => cases List.mem_singleton.mp mem
  | works => cases mem
  | checks => cases mem
  | forwards => cases List.mem_singleton.mp mem
  | stale => cases mem

theorem OpMove.noReply {id : Nat} {op op' : Op Client} {events : List (Event Client)}
    {reply : Reply} (moved : OpMove d id op op' events) : .replied n reply ∉ events := by
  cases moved <;> simp

theorem mem_effect {events : List (Event Client)} {e ev : Event Client} {reply : Reply}
    (sights : ∀ ev ∈ events, ev.sight = true) (mem : ev ∈ events ++ [e] ++ [.replied m reply]) :
    ev.sight = true ∨ ev = e ∨ ev = .replied m reply := by
  cases List.mem_append.mp mem with
  | inl front =>
    cases List.mem_append.mp front with
    | inl seen => exact .inl (sights ev seen)
    | inr now => exact .inr (.inl (List.mem_singleton.mp now))
  | inr last => exact .inr (.inr (List.mem_singleton.mp last))

end Sources

variable [DecidableEq Client]

structure UnderClaim (moves : History Client) : Prop where
  looked : ∀ front move back n client user, moves = front ++ move :: back →
    LaunchesDriven move n client user → Rests front move n client user
  /-- A client that loses the claim while it waits gets an error, and no job. -/
  lost : ∀ front first mid back n call user, moves = front ++ (first :: mid) ++ back →
    first.before.calls n = some call → call.method.driven = true →
    call.phase = .authorizing user →
    (∀ m ∈ first :: mid, holdsClaim m.before.state call.sender ≠ .ok ()) →
    ∀ m ∈ first :: mid, (∀ job client u, .launched n job client u ∉ m.events) ∧
      ∀ r, .replied n r ∈ m.events → ∃ e, r = .error e

/-- The step by which a `DeleteEnrolledFingers2` gets its authorization. -/
def DeleteAllowed (uid : Client → UInt32) (move : Step Client) : Prop :=
  ∃ n env call user, move.label = .call n env ∧ move.before.calls n = some call ∧
    call.method = .deleteEnrolledFingers2 ∧ call.phase = .authorizing (some user) ∧
    authorize uid env call.sender enrollAction = .ok ()

def allowsDelete (uid : Client → UInt32) (move : Step Client) : Bool :=
  match move.label with
  | .call n env =>
    match move.before.calls n with
    | some ⟨sender, .deleteEnrolledFingers2, .authorizing (some _)⟩ =>
      match authorize uid env sender enrollAction with
      | .ok _ => true
      | .error _ => false
    | _ => false
  | _ => false

omit [DecidableEq Client] in
theorem allowsDelete_iff {uid : Client → UInt32} {move : Step Client} :
    allowsDelete uid move = true ↔ DeleteAllowed uid move := by
  constructor
  · intro h
    unfold allowsDelete at h
    split at h
    · rename_i n env label
      split at h
      · rename_i sender user at_
        split at h
        · rename_i allowed
          exact ⟨n, env, _, user, label, at_, rfl, rfl, allowed⟩
        · cases h
      · cases h
    · cases h
  · rintro ⟨n, env, ⟨sender, method, phase⟩, user, label, at_, rfl, rfl, allowed⟩
    dsimp only at allowed
    simp only [allowsDelete, label, at_, allowed]

instance (uid : Client → UInt32) (move : Step Client) : Decidable (DeleteAllowed uid move) :=
  decidable_of_iff _ allowsDelete_iff

section Steps

variable {uid : Client → UInt32} {d : System Client} {label : Label Client} {r : Done Client}
  {n m : Nat} {job : Job} {client : Option Client} {user : Text} {call : Call Client}
  {env : Answers}

theorem CallMove.launched (moved : CallMove uid d m call env r)
    (mem : .launched n job client user ∈ r.2) : n = m ∧ (job = .list ∨ job = .delete) := by
  have none_ : ∀ ev ∈ ([] : List (Event Client)), ev.sight = true := List.forall_mem_nil _
  cases moved with
  | quiet q => exact q.launched mem
  | claims method free sights => obtain h | h | h := mem_effect sights mem <;> cases h
  | releases => obtain h | h | h := mem_effect none_ mem <;> cases h
  | stops => obtain h | h | h := mem_effect none_ mem <;> cases h
  | starts => obtain h | h | h := mem_effect none_ mem <;> cases h

theorem CallMove.replied {reply : Reply} (moved : CallMove uid d m call env r)
    (mem : .replied n reply ∈ r.2) : n = m := by
  have none_ : ∀ ev ∈ ([] : List (Event Client)), ev.sight = true := List.forall_mem_nil _
  cases moved with
  | quiet q => exact q.replied mem
  | claims method free sights =>
    obtain h | h | h := mem_effect sights mem <;> cases h
    rfl
  | releases =>
    obtain h | h | h := mem_effect none_ mem <;> cases h
    rfl
  | stops =>
    obtain h | h | h := mem_effect none_ mem <;> cases h
    rfl
  | starts =>
    obtain h | h | h := mem_effect none_ mem <;> cases h
    rfl

theorem launched_from (taken : step uid d label = some r)
    (mem : .launched n job client user ∈ r.2) :
    (∃ env call, label = .call n env ∧ d.calls n = some call ∧
      advance uid d n call env = some r ∧ (job = .list ∨ job = .delete)) ∨
      ∃ id op, d.ops id = some op ∧ op.call = n ∧ op.job = job ∧ op.client = client ∧
        op.user = user := by
  cases step_moves taken with
  | arrives => cases mem
  | calls at_ moved =>
    obtain ⟨rfl, kind⟩ := moved.launched mem
    have advanced : (d.calls _).bind (fun call => advance uid d _ call _) = some r := taken
    rw [at_] at advanced
    exact .inl ⟨_, _, rfl, at_, advanced, kind⟩
  | turns at_ moved => exact .inr ⟨_, _, at_, moved.launched mem⟩
  | finishes => cases List.mem_singleton.mp mem

theorem replied_from {reply : Reply} (taken : step uid d label = some r)
    (mem : .replied n reply ∈ r.2) : ∃ env call, label = .call n env ∧ d.calls n = some call ∧
      advance uid d n call env = some r := by
  cases step_moves taken with
  | arrives => cases mem
  | calls at_ moved =>
    obtain rfl := moved.replied mem
    have advanced : (d.calls _).bind (fun call => advance uid d _ call _) = some r := taken
    rw [at_] at advanced
    exact ⟨_, _, rfl, at_, advanced⟩
  | turns at_ moved => exact absurd mem moved.noReply
  | finishes => cases List.mem_singleton.mp mem

theorem no_call (taken : step uid d label = some r) (absent : d.calls n = none) :
    ∀ env, label ≠ .call n env := by
  rintro env rfl
  have advanced : (d.calls n).bind (fun call => advance uid d n call env) = some r := taken
  rw [absent] at advanced
  cases advanced

theorem calls_kept (taken : step uid d label = some r) (old : n < d.arrivals ∨ r.1.arrivals ≤ n)
    (other : ∀ env, label ≠ .call n env) : r.1.calls n = d.calls n := by
  cases step_moves taken with
  | arrives =>
    have apart : n ≠ d.arrivals := by
      obtain old | new := old
      · exact Nat.ne_of_lt old
      · exact Nat.ne_of_gt new
    exact Function.update_of_ne apart _ _
  | @calls m call env r at_ moved =>
    have apart : n ≠ m := by
      rintro rfl
      exact other env rfl
    cases moved with
    | quiet q => cases q <;> exact Function.update_of_ne apart _ _
    | claims | releases | stops | starts => exact Function.update_of_ne apart _ _
  | turns at_ moved => rfl
  | finishes => rfl

theorem arrivals_kept (taken : step uid d label = some r) : d.arrivals ≤ r.1.arrivals := by
  cases step_moves taken with
  | arrives => exact Nat.le_succ _
  | calls at_ moved =>
    cases moved with
    | quiet q => cases q <;> exact Nat.le_refl _
    | claims | releases | stops | starts => exact Nat.le_refl _
  | turns at_ moved => exact Nat.le_refl _
  | finishes => exact Nat.le_refl _

omit [DecidableEq Client] in
theorem onceAuthorized_refused {e : Error} {allowed : List (Event Client) → Done Client}
    (refused : authorize uid env call.sender enrollAction = .error e) :
    onceAuthorized uid d n call env allowed = d.reply n (.error e)
      (lookups n call env ++ permissions uid n call env enrollAction) := by
  simp only [onceAuthorized, refused]

theorem claim_began {op : Nat} {username : Text} :
    .began n op client user ∉ (claim uid d m call env username).2 := by
  unfold claim
  intro mem
  split at mem
  · obtain h | h := List.mem_append.mp mem <;> simp at h
  · split at mem
    · obtain h | h := List.mem_append.mp mem
      · cases lookups_sight _ h
      · cases List.mem_singleton.mp h
    · obtain h | h | h := mem_effect lookups_sight mem <;> cases h

theorem release_began {op : Nat} : .began n op client user ∉ (release d m call).2 := by
  unfold release
  split <;> simp [System.reply]

theorem stop_began {op : Nat} : .began n op client user ∉ (stop d m call).2 := by
  unfold stop
  split <;> simp [System.reply]

theorem began_looks {op : Nat} (h : advance uid d m call env = some r)
    (mem : .began n op client user ∈ r.2) : call.method.looks call.phase = true := by
  have quiet : ∀ {r' : Done Client}, Quiet uid d m call r' → some r' = some r → False := by
    intro r' q same
    cases q.plain _ (Option.some.inj same ▸ mem)
  unfold advance at h
  split at h
  case h_1 => exact absurd (Option.some.inj h ▸ mem) claim_began
  case h_2 => exact absurd (Option.some.inj h ▸ mem) release_began
  case h_3 => exact (quiet listEnrolledFingers_moves h).elim
  case h_4 => exact (quiet jobReply_moves h).elim
  case h_5 => exact (quiet deleteEnrolledFingers_moves h).elim
  case h_6 phase => exact (quiet (launchDelete_moves phase) h).elim
  case h_7 => exact (quiet jobReply_moves h).elim
  case h_8 => exact (quiet deleteEnrolledFingers2_moves h).elim
  case h_9 phase => exact (quiet (launchDelete_moves phase) h).elim
  case h_10 => exact (quiet jobReply_moves h).elim
  case h_11 => exact (quiet enrollStart_moves h).elim
  case h_12 => exact (quiet enrollPolkit_moves h).elim
  case h_13 method phase => rw [method, phase]; rfl
  case h_14 => exact absurd (Option.some.inj h ▸ mem) stop_began
  case h_15 method phase => rw [method, phase]; rfl
  case h_16 => exact absurd (Option.some.inj h ▸ mem) stop_began
  case h_17 => cases h

theorem ops_from {id : Nat} {op : Op Client} (taken : step uid d label = some r)
    (there : r.1.ops id = some op) :
    (∃ before, d.ops id = some before ∧ op.call = before.call ∧ op.client = before.client ∧
      op.user = before.user ∧ op.job = before.job) ∨
    ((∃ env call, label = .call op.call env ∧ d.calls op.call = some call ∧
      call.method.looks call.phase = true ∧ op.client = call.sender) ∧
      HeldFor d op.client op.user ∧ r.1.calls op.call = none ∧ op.job ≠ .delete) := by
  cases step_moves taken with
  | arrives => exact .inl ⟨op, there, rfl, rfl, rfl, rfl⟩
  | @calls m call env r at_ moved =>
    have advanced : (d.calls m).bind (fun call => advance uid d m call env) = some r := taken
    rw [at_] at advanced
    cases moved with
    | quiet q =>
      rw [q.keeps.2.2] at there
      exact .inl ⟨op, there, rfl, rfl, rfl, rfl⟩
    | claims | releases | stops => exact .inl ⟨op, there, rfl, rfl, rfl, rfl⟩
    | @starts owner user job task sent held claimed free unfinished kind effect =>
      have begun : Function.update d.ops (d.current + 1)
          (some ⟨m, call.sender, user, job, task, [], none⟩) id = some op := there
      cases update_cases begun with
      | inl new =>
        obtain ⟨rfl, rfl⟩ := new
        have looked := began_looks advanced (List.mem_append_left _ List.mem_cons_self)
        refine .inr ⟨⟨env, call, rfl, at_, looked, rfl⟩, ⟨?_, ?_, claimed⟩, ?_, ?_⟩
        · simp [sent]
        · rw [held, sent]
        · exact Function.update_self _ _ _
        · obtain ⟨finger, rfl⟩ | ⟨⟨finger, rfl⟩, _⟩ := kind <;> exact Job.noConfusion
      | inr old => exact .inl ⟨op, old, rfl, rfl, rfl, rfl⟩
  | @turns _ i before after events at_ moved =>
    have turned : Function.update d.ops i (some after) id = some op := there
    cases update_cases turned with
    | inl same =>
      obtain ⟨rfl, rfl⟩ := same
      obtain ⟨call, client, user, job, _⟩ := moved.keeps
      exact .inl ⟨before, at_, call, client, user, job⟩
    | inr old => exact .inl ⟨op, old, rfl, rfl, rfl, rfl⟩
  | @finishes i before result at_ task current =>
    have ended : Function.update d.ops i (some { before with task := .finished }) id = some op :=
      there
    cases update_cases ended with
    | inl same =>
      obtain ⟨rfl, rfl⟩ := same
      exact .inl ⟨before, at_, rfl, rfl, rfl, rfl⟩
    | inr old => exact .inl ⟨op, old, rfl, rfl, rfl, rfl⟩

/-- A call that waits, or has just been authorized, without the claim: it fails, or goes on from
the one to the other. -/
theorem without_claim (driven : call.method.driven = true)
    (phase : (∃ user, call.phase = .authorizing user) ∨ call.phase = .authorized)
    (lost : holdsClaim d.state call.sender ≠ .ok ())
    (refused : ∀ user, call.method = .deleteEnrolledFingers2 →
      call.phase = .authorizing (some user) →
      authorize uid env call.sender enrollAction ≠ .ok ())
    (h : advance uid d n call env = some r) :
    ∃ events, (∀ e ∈ events, e.sight = true) ∧
      ((∃ e, r = d.reply n (.error e) events) ∨ r = d.goOn n call .authorized events) := by
  unfold advance at h
  split at h
  case h_9 user method phase =>
    cases allowed : authorize uid env call.sender enrollAction with
    | ok u => exact absurd allowed (refused user method phase)
    | error e =>
      rw [launchDelete, onceAuthorized_refused allowed] at h
      exact ⟨_, sights_append, .inl ⟨e, (Option.some.inj h).symm⟩⟩
  case h_12 =>
    cases allowed : authorize uid env call.sender enrollAction with
    | ok u =>
      simp only [onceAuthorized, allowed] at h
      exact ⟨_, sights_append, .inr (Option.some.inj h).symm⟩
    | error e =>
      rw [onceAuthorized_refused allowed] at h
      exact ⟨_, sights_append, .inl ⟨e, (Option.some.inj h).symm⟩⟩
  case h_13 =>
    cases held : holdsClaim d.state call.sender with
    | ok u => exact absurd held lost
    | error e =>
      simp only [enrollBegin, start, held] at h
      exact ⟨[], List.forall_mem_nil _, .inl ⟨e, (Option.some.inj h).symm⟩⟩
  case h_17 => cases h
  -- the other parts are of other methods, or come before the wait or behind the launch
  all_goals simp_all [Method.driven]

/-- Of a `DeleteEnrolledFingers2`, only the part behind polkit's answer launches a job. -/
theorem delete2_launches (method : call.method = .deleteEnrolledFingers2)
    (h : advance uid d m call env = some r) (mem : .launched n job client user ∈ r.2) :
    ∃ u, call.phase = .authorizing (some u) ∧
      authorize uid env call.sender enrollAction = .ok () := by
  unfold advance at h
  split at h
  case h_8 =>
    obtain rfl := Option.some.inj h
    unfold deleteEnrolledFingers2 at mem
    split at mem
    · exact absurd mem (reply_no_launch (List.forall_mem_nil _))
    · split at mem
      · exact absurd mem (reply_no_launch (List.forall_mem_nil _))
      · cases mem
  case h_9 u _ phase =>
    cases allowed : authorize uid env call.sender enrollAction with
    | ok _ => exact ⟨u, phase, rfl⟩
    | error e =>
      rw [launchDelete, onceAuthorized_refused allowed] at h
      exact absurd (Option.some.inj h ▸ mem) (reply_no_launch sights_append)
  case h_10 =>
    obtain rfl := Option.some.inj h
    unfold jobReply at mem
    split at mem
    · exact absurd mem (reply_no_launch (List.forall_mem_nil _))
    · exact absurd mem (reply_no_launch (List.forall_mem_nil _))
  case h_17 => cases h
  all_goals simp_all

end Steps

section Runs

variable {uid : Client → UInt32} {moves : History Client} {d : System Client}

/-- Every operation rests on a look at the claim, behind which its call was over. -/
structure Grounded (moves : History Client) (d : System Client) : Prop where
  calls : ∀ n call, d.calls n = some call → n < d.arrivals
  ops : ∀ id op, d.ops id = some op → op.job ≠ .delete ∧ op.call < d.arrivals ∧
    d.calls op.call = none ∧ ∃ pre look mid, moves = pre ++ look :: mid ∧ Looks op.call look ∧
      HeldFor look.before op.client op.user ∧ ∀ m ∈ mid, m.before.calls op.call = none

omit [DecidableEq Client] in
theorem Grounded.init : Grounded [] (ready Client) where
  calls := by
    intro n call at_
    cases at_
  ops := by
    intro id op at_
    cases at_

theorem Grounded.step {label : Label Client} {r : Done Client} (h : Grounded moves d)
    (taken : step uid d label = some r) : Grounded (moves ++ [⟨d, label, r.1, r.2⟩]) r.1 where
  calls := by
    intro n call at_
    by_contra new
    have absent : d.calls n = none := by
      cases there : d.calls n with
      | none => rfl
      | some call' =>
        have known := h.calls n call' there
        have kept := arrivals_kept taken
        omega
    rw [calls_kept taken (.inr (Nat.not_lt.mp new)) (no_call taken absent), absent] at at_
    cases at_
  ops := by
    intro id op there
    have kept := arrivals_kept taken
    cases ops_from taken there with
    | inl old =>
      obtain ⟨before, there, call, client, user, job⟩ := old
      obtain ⟨kind, known, absent, pre, look, mid, split, looks, held, gone⟩ :=
        h.ops id before there
      rw [call, client, user, job]
      refine ⟨kind, by omega, ?_, pre, look, mid ++ [⟨d, label, r.1, r.2⟩], ?_, looks, held, ?_⟩
      · rw [calls_kept taken (.inl known) (no_call taken absent), absent]
      · rw [split, List.append_assoc, List.cons_append]
      · intro m mem
        cases List.mem_append.mp mem with
        | inl early => exact gone m early
        | inr last => rw [List.mem_singleton.mp last, absent]
    | inr new =>
      obtain ⟨⟨env, call, rfl, at_, looks, _⟩, held, ended, kind⟩ := new
      have known := h.calls _ call at_
      exact ⟨kind, by omega, ended, moves, _, [], rfl, ⟨env, call, rfl, at_, looks⟩, held,
        List.forall_mem_nil _⟩

theorem grounded (run : (machine uid).Run moves d) : Grounded moves d :=
  run.history_of (p := fun _ => True) .init (fun h _ taken => h.step taken) fun _ _ => trivial

/-- A driven call that waits, or has just been authorized, or is over, and began nothing. -/
structure Adrift (n : Nat) (call : Call Client) (d : System Client) : Prop where
  known : n < d.arrivals
  ops : ∀ id op, d.ops id = some op → op.call ≠ n
  phase : ∀ c, d.calls n = some c → c.sender = call.sender ∧ c.method = call.method ∧
    ((∃ user, c.phase = .authorizing user) ∨ c.phase = .authorized)

/-- Of a call's fate, what a client is told. -/
def Refused (n : Nat) (move : Step Client) : Prop :=
  (∀ job client u, .launched n job client u ∉ move.events) ∧
    ∀ r, .replied n r ∈ move.events → ∃ e, r = .error e

theorem HeldFor.holds {client : Option Client} {user : Text} (h : HeldFor d client user) :
    holdsClaim d.state client = .ok () := by
  obtain ⟨here, owner, _⟩ := h
  obtain ⟨c, rfl⟩ := Option.isSome_iff_exists.mp here
  simp only [holdsClaim, owner, if_true]

theorem Adrift.own {n : Nat} {call c : Call Client} {env : Answers} {r : Done Client}
    (h : Adrift n call d) (driven : call.method.driven = true)
    (lost : holdsClaim d.state call.sender ≠ .ok ()) (at_ : d.calls n = some c)
    (refused : ¬ DeleteAllowed uid ⟨d, .call n env, r.1, r.2⟩)
    (advanced : advance uid d n c env = some r) :
    ∃ events, (∀ e ∈ events, e.sight = true) ∧
      ((∃ e, r = d.reply n (.error e) events) ∨ r = d.goOn n c .authorized events) := by
  obtain ⟨sender, method, phase⟩ := h.phase c at_
  refine without_claim (method ▸ driven) phase (sender ▸ lost) ?_ advanced
  intro user delete waits allowed
  exact refused ⟨n, env, c, user, rfl, at_, delete, waits, allowed⟩

theorem Adrift.goesOn {n : Nat} {call : Call Client} {label : Label Client} {r : Done Client}
    (h : Adrift n call d) (driven : call.method.driven = true)
    (lost : holdsClaim d.state call.sender ≠ .ok ())
    (refused : ¬ DeleteAllowed uid ⟨d, label, r.1, r.2⟩) (taken : step uid d label = some r) :
    Adrift n call r.1 where
  known := Nat.lt_of_lt_of_le h.known (arrivals_kept taken)
  ops := by
    intro id op there mine
    cases ops_from taken there with
    | inl old =>
      obtain ⟨before, there, same, _⟩ := old
      exact h.ops id before there (same ▸ mine)
    | inr new =>
      obtain ⟨⟨env, c, _, at_, _, client⟩, held, _⟩ := new
      rw [mine] at at_
      rw [client, (h.phase c at_).1] at held
      exact lost held.holds
  phase := by
    intro c there
    by_cases own : ∃ env, label = .call n env
    · obtain ⟨env, rfl⟩ := own
      obtain ⟨before, at_, advanced⟩ := Option.bind_eq_some_iff.mp taken
      obtain ⟨sender, method, _⟩ := h.phase before at_
      obtain ⟨events, sights, ⟨e, rfl⟩ | rfl⟩ := h.own driven lost at_ refused advanced
      · have closed : Function.update d.calls n none n = some c := there
        rw [Function.update_self] at closed
        cases closed
      · have next : Function.update d.calls n (some { before with phase := .authorized }) n =
            some c := there
        rw [Function.update_self] at next
        obtain rfl := Option.some.inj next
        exact ⟨sender, method, .inr rfl⟩
    · rw [calls_kept taken (.inl h.known) (not_exists.mp own)] at there
      exact h.phase c there

theorem Adrift.refused {n : Nat} {call : Call Client} {label : Label Client} {r : Done Client}
    (h : Adrift n call d) (driven : call.method.driven = true)
    (lost : holdsClaim d.state call.sender ≠ .ok ())
    (refused : ¬ DeleteAllowed uid ⟨d, label, r.1, r.2⟩) (taken : step uid d label = some r) :
    Refused n ⟨d, label, r.1, r.2⟩ := by
  constructor
  · intro job client u mem
    cases launched_from taken mem with
    | inl asked =>
      obtain ⟨env, c, rfl, at_, advanced, _⟩ := asked
      obtain ⟨events, sights, ⟨e, rfl⟩ | rfl⟩ := h.own driven lost at_ refused advanced
      · exact reply_no_launch (d := d) sights mem
      · exact sights_no_launch sights mem
    | inr task =>
      obtain ⟨id, op, there, mine, _⟩ := task
      exact h.ops id op there mine
  · intro reply mem
    obtain ⟨env, c, rfl, at_, advanced⟩ := replied_from taken mem
    obtain ⟨events, sights, ⟨e, rfl⟩ | rfl⟩ := h.own driven lost at_ refused advanced
    · have last := (List.mem_append.mp mem).resolve_left (sights_no_reply sights)
      exact ⟨e, (Event.replied.inj (List.mem_singleton.mp last)).2⟩
    · exact absurd mem (sights_no_reply sights)

/-- As long as the claim is away, the call gets nowhere. -/
theorem adrift_run {n : Nat} {call : Call Client} {front more : History Client}
    (driven : call.method.driven = true) (start : ∀ s, (machine uid).Run front s → Adrift n call s)
    (run : (machine uid).Run (front ++ more) d)
    (lost : ∀ m ∈ more, holdsClaim m.before.state call.sender ≠ .ok ())
    (refused : ∀ m ∈ more, ¬ DeleteAllowed uid m) :
    Adrift n call d ∧ ∀ m ∈ more, Refused n m := by
  induction more using List.reverseRecOn generalizing d with
  | nil => exact ⟨start d (by rwa [List.append_nil] at run), List.forall_mem_nil _⟩
  | append_singleton more m ih =>
    rw [← List.append_assoc] at run
    obtain ⟨before, taken, rfl⟩ := run.last
    obtain ⟨adrift, earlier⟩ := ih before
      (fun m' mem => lost m' (List.mem_append_left _ mem))
      (fun m' mem => refused m' (List.mem_append_left _ mem))
    have last : m ∈ more ++ [m] := List.mem_append_right _ List.mem_cons_self
    refine ⟨adrift.goesOn driven (lost m last) (refused m last) taken, fun m' mem => ?_⟩
    cases List.mem_append.mp mem with
    | inl early => exact earlier m' early
    | inr now =>
      rw [List.mem_singleton.mp now]
      exact adrift.refused driven (lost m last) (refused m last) taken

theorem rests_of_refused {front back : History Client} {move : Step Client} {n : Nat}
    {client : Option Client} {user : Text} (run : (machine uid).Run (front ++ move :: back) d)
    (refused : ¬ DeleteAllowed uid move) (launches : LaunchesDriven move n client user) :
    Rests front move n client user := by
  obtain ⟨before, taken⟩ := run.move
  obtain ⟨job, mem, kind⟩ := launches
  cases launched_from taken mem with
  | inl asked =>
    obtain ⟨env, call, label, at_, advanced, deed⟩ := asked
    obtain ⟨finger, rfl⟩ | ⟨finger, rfl⟩ | ⟨rfl, call', at', method⟩ := kind
    · obtain deed | deed := deed <;> cases deed
    · obtain deed | deed := deed <;> cases deed
    · obtain rfl := Option.some.inj (at_.symm.trans at')
      obtain ⟨u, phase, allowed⟩ := delete2_launches method advanced mem
      exact absurd ⟨n, env, call, u, label, at_, method, phase, allowed⟩ refused
  | inr task =>
    obtain ⟨id, op, there, rfl, rfl, rfl, rfl⟩ := task
    obtain ⟨_, _, absent, pre, look, mid, split, looks, held, gone⟩ :=
      (grounded before).ops id op there
    refine ⟨pre, look, mid, split, looks, held, fun m mem => ?_⟩
    have empty : m.before.calls op.call = none := by
      cases List.mem_append.mp mem with
      | inl early => exact gone m early
      | inr last => rw [List.mem_singleton.mp last, absent]
    constructor
    · rintro ⟨env, call, _, at_, _⟩
      rw [empty] at at_
      cases at_
    · rintro ⟨call, waits, at_, _⟩
      rw [empty] at at_
      cases at_

theorem delete_allowed_launches {move : Step Client}
    (taken : step uid move.before move.label = some (move.after, move.events))
    (allowed : DeleteAllowed uid move) :
    ∃ n client user, LaunchesDriven move n client user ∧ Waits n move.before := by
  obtain ⟨n, env, call, user, label, at_, method, phase, yes⟩ := allowed
  rw [label] at taken
  obtain ⟨call', at', advanced⟩ := Option.bind_eq_some_iff.mp taken
  obtain rfl := Option.some.inj (at_.symm.trans at')
  simp only [advance, method, phase, launchDelete, onceAuthorized, yes] at advanced
  have events := congrArg Prod.snd (Option.some.inj advanced)
  refine ⟨n, call.sender, user, ⟨.delete, ?_, .inr (.inr ⟨rfl, call, at_, method⟩)⟩, call, _, at_,
    phase⟩
  rw [← show _ = move.events from events]
  exact List.mem_append_right _ List.mem_cons_self

theorem delete_allowed_loose {move : Step Client} (run : (machine uid).Run moves d)
    (mem : move ∈ moves) (allowed : DeleteAllowed uid move) : ¬ UnderClaim moves := by
  intro under
  obtain ⟨front, back, rfl⟩ := List.append_of_mem mem
  obtain ⟨n, client, user, launches, waits⟩ := delete_allowed_launches run.move.2 allowed
  obtain ⟨pre, look, mid, _, _, _, after⟩ := under.looked front move back n client user rfl launches
  exact (after move (List.mem_append_right _ List.mem_cons_self)).2 waits

/-- Every job of a method that acts through the claim starts under the claim if and only if no
`DeleteEnrolledFingers2` is authorized. -/
theorem jobs_under_claim (run : (machine uid).Run moves d) :
    UnderClaim moves ↔ ∀ move ∈ moves, ¬ DeleteAllowed uid move := by
  constructor
  · intro under move mem allowed
    exact delete_allowed_loose run mem allowed under
  · intro refused
    constructor
    · intro front move back n client user split launches
      rw [split] at run refused
      exact rests_of_refused run (refused move (by simp)) launches
    · intro front first mid back n call user split at_ driven phase lost
      rw [split] at run refused
      have upTo : ∃ s, (machine uid).Run (front ++ first :: mid) s := by
        cases back with
        | nil => exact ⟨d, by simpa using run⟩
        | cons m back => exact ⟨_, run.move.1⟩
      obtain ⟨s, upTo⟩ := upTo
      have start : ∀ s, (machine uid).Run front s → Adrift n call s := by
        intro s run'
        obtain rfl := run'.det upTo.move.1
        have before := grounded run'
        refine ⟨before.calls n call at_, fun id op there mine => ?_, fun c there => ?_⟩
        · obtain ⟨_, _, absent, _⟩ := before.ops id op there
          rw [mine, at_] at absent
          cases absent
        · obtain rfl := Option.some.inj (at_.symm.trans there)
          exact ⟨rfl, rfl, .inl ⟨user, phase⟩⟩
      exact (adrift_run driven start upTo lost fun m mem =>
        refused m (List.mem_append_left _ (List.mem_append_right _ mem))).2

end Runs

theorem jobs_under_claim_enrolment : ∃ moves d, (machine uids).Run moves d ∧
    (d.ops 2).map Op.task = some .running ∧ UnderClaim moves := by
  have goes : (((machine uids).replay (ready Bool) enrolment).map fun done =>
      ((done.2.ops 2).map Op.task, done.1.all fun move => !decide (DeleteAllowed uids move))) =
      some (some .running, true) := by decide +kernel
  obtain ⟨⟨moves, d⟩, replayed, facts⟩ := Option.map_eq_some_iff.mp goes
  obtain ⟨task, none_⟩ := Prod.mk.inj facts
  have run : (machine uids).Run ([] ++ moves) d := Machine.Run.init.replay replayed
  refine ⟨moves, d, run, task, (jobs_under_claim run).mpr fun move mem => ?_⟩
  simpa using List.all_eq_true.mp none_ move mem

def releasedWhileAsked : List (Label Bool) :=
  [.arrive (some false) (.claim []), .call 0 willing, .arrive (some false) .deleteEnrolledFingers2,
    .call 1 willing, .arrive (some false) .release, .call 2 willing, .call 1 willing]

/-- They are deleted, although nobody holds a claim any more. -/
theorem jobs_not_under_claim : ∃ moves d, (machine uids).Run moves d ∧
    d.state.claimOwner = none ∧ ¬ UnderClaim moves := by
  have goes : (((machine uids).replay (ready Bool) releasedWhileAsked).map fun done =>
      (done.2.state.claimOwner, done.1.any fun move => decide (DeleteAllowed uids move))) =
      some (none, true) := by decide +kernel
  obtain ⟨⟨moves, d⟩, replayed, facts⟩ := Option.map_eq_some_iff.mp goes
  obtain ⟨free, some_⟩ := Prod.mk.inj facts
  have run : (machine uids).Run ([] ++ moves) d := Machine.Run.init.replay replayed
  obtain ⟨move, mem, allowed⟩ := List.any_eq_true.mp some_
  exact ⟨moves, d, run, free, delete_allowed_loose run mem (of_decide_eq_true allowed)⟩

end ValidityFprintd.Daemon
