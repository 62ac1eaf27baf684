import ValidityFprintd.ListCalls
import ValidityFprintd.ShelfIntegrity

/-! Whose fingers a listing names: those of the user its client may act for, as they were when its
job ran. -/

namespace ValidityFprintd.Whole
open Effect Device Machine
open Records (Matcher Told)

section Listings

variable {Client S : Type} [DecidableEq Client] {w : Usb.World S} {uid : Client → UInt32}
  {opens : S → Outcome String Handle × S} {tr : List (Event Client)} {d d' : System Client S}
  {events : List (Event Client)}

theorem call_from {d : Daemon.System Client} {label : Daemon.Label Client}
    {r : Daemon.Done Client} (known : ∀ n call, d.calls n = some call → n < d.arrivals)
    (taken : Daemon.step uid d label = some r) {n : Nat} {call' : Daemon.Call Client}
    (there : r.1.calls n = some call') :
    (∃ call, d.calls n = some call ∧ call'.method = call.method) ∨ d.arrivals ≤ n := by
  cases before : d.calls n with
  | some call =>
    refine .inl ⟨call, rfl, ?_⟩
    by_cases own : ∃ env, label = .call n env
    · obtain ⟨env, rfl⟩ := own
      have advanced : (d.calls n).bind (fun call => Daemon.advance uid d n call env) = some r :=
        taken
      rw [before] at advanced
      exact Daemon.advance_method advanced there
    · have kept := Daemon.calls_kept taken (.inl (known n call before))
        fun env same => own ⟨env, same⟩
      rw [kept, before] at there
      exact Option.some.inj there ▸ rfl
  | none =>
    refine .inr (Nat.not_lt.mp fun old => ?_)
    rw [Daemon.calls_kept taken (.inl old) (Daemon.no_call taken before), before] at there
    cases there

/-- The job of this call came to these names. -/
def Listed (n : Nat) (names : List String) (tr : List (Event Client)) : Prop :=
  ∃ sid, .sensor n (.listed sid (some names)) ∈ tr

omit [DecidableEq Client] in
theorem Listed.append {n : Nat} {names : List String} (h : Listed n names tr) :
    Listed n names (tr ++ events) := by
  obtain ⟨sid, listed⟩ := h
  exact ⟨sid, List.mem_append_left events listed⟩

/-- Fingers are named to a call only as its job found them. -/
def Found (before : List (Event Client)) (e : Event Client) : Prop :=
  ∀ n names, e = .daemon (.replied n (.fingers names)) → Listed n names before

/-- A call that lists waits for a listing, and hears what that found. -/
structure Heeded (tr : List (Event Client)) (d : System Client S) : Prop where
  calls : ∀ n call, d.daemon.calls n = some call → n < d.daemon.arrivals
  ops : ∀ id op, d.daemon.ops id = some op →
    op.call < d.daemon.arrivals ∧ d.daemon.calls op.call = none
  fresh : ∀ n, d.daemon.arrivals ≤ n → d.spawned n = none ∧ d.ended n = none
  spawned : ∀ n call username, d.daemon.calls n = some call →
    call.method = .listEnrolledFingers username →
    ∀ job user, d.spawned n = some (job, user) → job = .list
  ended : ∀ n call username, d.daemon.calls n = some call →
    call.method = .listEnrolledFingers username →
    ∀ names, d.ended n = some (.ok names) → Listed n names tr
  found : Always Found tr

theorem Heeded.goOn (h : Heeded tr d) {label : Daemon.Label Client} (hears : Hears d label)
    (taken : Whole.goOn uid d label = some (d', events)) : Heeded (tr ++ events) d' := by
  obtain ⟨⟨daemon, more⟩, moved, same⟩ := Option.map_eq_some_iff.mp taken
  obtain ⟨rfl, rfl⟩ := Prod.mk.inj same
  have kept : d.daemon.arrivals ≤ daemon.arrivals := Daemon.arrivals_kept moved
  -- a call that has no step and was over stays so
  have over_ : ∀ {n}, n < d.daemon.arrivals → d.daemon.calls n = none →
      daemon.calls n = none := by
    intro n old none_
    rw [← none_]
    exact Daemon.calls_kept moved (.inl old) (Daemon.no_call moved none_)
  refine ⟨?_, ?_, ?_, ?_, ?_, ?_⟩
  · intro n call at_
    by_contra new
    have absent : d.daemon.calls n = none := by
      cases there : d.daemon.calls n with
      | none => rfl
      | some call' =>
        exact absurd (Nat.lt_of_lt_of_le (h.calls n call' there) kept) new
    rw [Daemon.calls_kept moved (.inr (Nat.not_lt.mp new)) (Daemon.no_call moved absent),
      absent] at at_
    cases at_
  · intro id op there
    cases Daemon.ops_from moved there with
    | inl old =>
      obtain ⟨before, at_, call, _⟩ := old
      obtain ⟨known, none_⟩ := h.ops id before at_
      rw [call]
      exact ⟨Nat.lt_of_lt_of_le known kept, over_ known none_⟩
    | inr new =>
      obtain ⟨⟨env, call, _, at_, _⟩, _, none_, _⟩ := new
      exact ⟨Nat.lt_of_lt_of_le (h.calls _ call at_) kept, none_⟩
  · intro n new
    obtain ⟨unspawned, unended⟩ := h.fresh n (Nat.le_trans kept new)
    refine ⟨?_, unended⟩
    cases now : (more.foldl note d.spawned) n with
    | none => exact now
    | some p =>
      obtain before | ⟨client, launched⟩ := spawned_or_launched now
      · rw [unspawned] at before
        cases before
      · obtain ⟨env, call, _, at_, _⟩ | ⟨id, op, at_, rfl, _⟩ :=
          Daemon.launched_from moved launched
        · exact absurd (h.calls n call at_) (Nat.not_lt.mpr (Nat.le_trans kept new))
        · exact absurd (h.ops id op at_).1 (Nat.not_lt.mpr (Nat.le_trans kept new))
  · intro n call' username there method job user now
    obtain before | ⟨client, launched⟩ := spawned_or_launched now
    · obtain ⟨call, at_, same⟩ | new := call_from h.calls moved there
      · exact h.spawned n call username at_ (same ▸ method) job user before
      · rw [(h.fresh n new).1] at before
        cases before
    · obtain ⟨env, call, _, at_, advanced, _⟩ | ⟨id, op, at_, rfl, _⟩ :=
        Daemon.launched_from moved launched
      · exact Daemon.list_launches (Daemon.advance_method advanced there ▸ method) advanced launched
      · obtain ⟨known, none_⟩ := h.ops id op at_
        rw [over_ known none_] at there
        cases there
  · intro n call' username there method names ended
    obtain ⟨call, at_, same⟩ | new := call_from h.calls moved there
    · exact (h.ended n call username at_ (same ▸ method) names ended).append
    · rw [(h.fresh n new).2] at ended
      cases ended
  · refine h.found.append fun pre e post split => ?_
    rintro n names rfl
    obtain ⟨e, mem, same⟩ := List.mem_map.mp
      (split ▸ List.mem_append_right pre List.mem_cons_self :
        .daemon (.replied n (.fingers names)) ∈ more.map Event.daemon)
    obtain rfl := Event.daemon.inj same
    obtain ⟨env, call, rfl, at_, advanced⟩ := Daemon.replied_from moved mem
    obtain ⟨username, method, phase, job⟩ := Daemon.fingers_replied advanced mem
    have waiting : waits d n = true := by
      rw [waits, at_]
      exact decide_eq_true phase
    have ended := hears n env rfl waiting
    rw [job] at ended
    exact (h.ended n call username at_ method names ended).append

theorem listed_told {s : S} {user : Text} {passwd : Except String Text} {mine : Option Nat}
    {fuel : Nat} {handle : Handle} {joinError : String} {names : List String}
    (out : heard joinError (outOf w s (callOf user passwd mine fuel handle .list)) = .ok names) :
    ∃ sid, .listed sid (some names) ∈ ((callOf user passwd mine fuel handle .list).run w s).2 := by
  cases ran : (Device.listEnrolledFingers w passwd user s).out with
  | ok found =>
    cases resolved : sidForUser passwd user with
    | error e =>
      have fails : (Device.listEnrolledFingers w passwd user s).out = .err e := by
        unfold Device.listEnrolledFingers
        rw [resolved]
        rfl
      rw [fails] at ran
      cases ran
    | ok sid =>
      refine ⟨sid, ?_⟩
      simp only [callOf, outOf, ran, Outcome.ok_bind, heard, Except.ok.injEq] at out
      simp only [callOf, Records.Call.run, Records.toldOf, resolved, ran, Records.returned?, out,
        List.mem_singleton]
  | err e =>
    simp only [callOf, outOf, ran, Outcome.err_bind, heard] at out
    cases out
  | panic =>
    simp only [callOf, outOf, ran, Outcome.panic_bind, heard] at out
    cases out
  | stuck =>
    simp only [callOf, outOf, ran, Outcome.stuck_bind, heard] at out
    cases out

omit [DecidableEq Client] in
theorem found_sensor (h : Always Found tr) (n : Nat) (told : List ShelfEvent) :
    Always Found (tr ++ told.map (Event.sensor n : ShelfEvent → Event Client)) := by
  refine h.free fun e mem pre => ?_
  obtain ⟨e, _, rfl⟩ := List.mem_map.mp mem
  intro m names same
  cases same

omit [DecidableEq Client] in
theorem Heeded.runJob (h : Heeded tr d) {n : Nat} {passwd : Except String Text} {fuel : Nat}
    {joinError : String}
    (taken : Whole.runJob w opens d n passwd fuel joinError = some (d', events)) :
    Heeded (tr ++ events) d' := by
  obtain ⟨job, user, r, spawned, ended, daemon, _, left, heardOf, rfl⟩ := runJob_ran taken
  have old : n < d.daemon.arrivals := by
    by_contra new
    rw [(h.fresh n (Nat.not_lt.mp new)).1] at spawned
    cases spawned
  refine ⟨?_, ?_, ?_, ?_, ?_, found_sensor h.found n r.log⟩
  · rw [daemon]
    exact h.calls
  · rw [daemon]
    exact h.ops
  · rw [daemon, left, heardOf]
    intro m new
    have apart : m ≠ n := by omega
    rw [Function.update_of_ne apart, Function.update_of_ne apart]
    exact h.fresh m new
  · rw [daemon, left]
    intro m call username at_ method job' user' there
    by_cases this : m = n
    · rw [this, Function.update_self] at there
      cases there
    · rw [Function.update_of_ne this] at there
      exact h.spawned m call username at_ method job' user' there
  · rw [daemon, heardOf]
    intro m call username at_ method names there
    by_cases this : m = n
    · subst this
      rw [Function.update_self] at there
      obtain rfl := h.spawned m call username at_ method job user spawned
      obtain ⟨handle, env, _, out, _, told⟩ | ⟨none_, _⟩ := runMethod_cases ended
      · rw [out] at there
        obtain ⟨sid, listed⟩ := listed_told (Option.some.inj there)
        rw [← told] at listed
        exact ⟨sid, List.mem_append_right tr (List.mem_map_of_mem listed)⟩
      · cases out : r.out with
        | ok a => exact absurd out (none_ a)
        | err e | panic | stuck =>
          rw [out] at there
          cases there
    · rw [Function.update_of_ne this] at there
      exact (h.ended m call username at_ method names there).append

omit [DecidableEq Client] in
theorem Heeded.takeTurn (h : Heeded tr d) {id : Nat} {passwd : Except String Text} {fuel : Nat}
    (taken : Whole.takeTurn w opens d id passwd fuel = some (d', events)) :
    Heeded (tr ++ events) d' := by
  obtain ⟨op, r, turn, op', at_, _, _, work, rfl, rfl⟩ := takeTurn_ran taken
  refine ⟨h.calls, ?_, h.fresh, h.spawned, ?_, found_sensor h.found op.call r.log⟩
  · intro i o there
    obtain ⟨rfl, rfl⟩ | old := Daemon.update_cases there
    · rw [(Daemon.turnLeaves_of_work work).call]
      exact h.ops i op at_
    · exact h.ops i o old
  · exact fun n call username at_ method names ended =>
      (h.ended n call username at_ method names ended).append

theorem heeded {env : S} {moves : List (Move (System Client S) (Label Client) (Event Client))}
    {last : System Client S} (run : (machine w opens uid env).Run moves last) :
    Heeded (trace moves) last := by
  have init : Heeded [] (machine w opens uid env).init := by
    refine ⟨?_, ?_, fun _ _ => ⟨rfl, rfl⟩, ?_, ?_, always_nil _⟩
    · intro n call at_
      cases at_
    · intro id op at_
      cases at_
    · intro n call username at_
      cases at_
    · intro n call username at_
      cases at_
  refine run.invariant init fun h taken => ?_
  obtain ⟨_, _, hears, went⟩ | ⟨_, _, _, _, ran⟩ | ⟨_, _, _, took⟩ := step_cases taken
  · exact h.goOn hears went
  · exact h.runJob ran
  · exact h.takeTurn took

/-- What a listing tells is what the shelf is known to hold. -/
theorem told_of_listed {front back events : List ShelfEvent} {sid : SidIdentity}
    {names : List String} {s : Shelves SidIdentity String}
    (h : Leads Shelves.Next Shelves.Empty events s)
    (split : events = front ++ .listed sid (some names) :: back) : Told front sid names := by
  rw [split] at h
  obtain ⟨t, before, u, listed, _⟩ := leads_append.mp h
  obtain ⟨once, same⟩ := listed.own.2 names rfl
  exact ⟨once, fun name mem => Shelves.asked before ((same name).mp mem),
    fun name lasting => (same name).mpr (lasting.found before)⟩

/-- The names are those of a user the call's client may act for, as they were when the call's job
ran: none was not to be enrolled, and none whose enrolment stands is left out. -/
def Owned (uid : Client → UInt32) (n : Nat) (names : List String)
    (before : List (Event Client)) : Prop :=
  ∃ ran after sid client user passwd,
    before = ran ++ .sensor n (.listed sid (some names)) :: after ∧
    Behind uid n .list client user ran ∧ sidForUser passwd user = .ok sid ∧
    Told (sensorEvents ran) sid names

/-- In every run, a client is told the fingers of its own user only, and told them right. -/
theorem listing_owned {env : S} (h : Matcher w) (keeps : ∀ s, h.db (opens s).2 = h.db s)
    (start : h.db env = Records.Database.empty)
    {moves : List (Move (System Client S) (Label Client) (Event Client))} {last : System Client S}
    (run : (machine w opens uid env).Run moves last) :
    Always (fun before e => ∀ n names, e = .daemon (.replied n (.fingers names)) →
      Owned uid n names before) (trace moves) := by
  intro pre e post split n names replied
  obtain ⟨sid, listed⟩ := (heeded run).found pre e post split n names replied
  obtain ⟨ran, after, rfl⟩ := List.append_of_mem listed
  have sound : Sound h uid (trace moves) last :=
    run.invariant (Sound.init h start) fun sound taken => sound.step keeps taken
  have whole : trace moves =
      ran ++ .sensor n (.listed sid (some names)) :: (after ++ e :: post) := by
    rw [split, List.append_assoc]
    rfl
  obtain ⟨job, client, user, passwd, behind, resolved, does⟩ :=
    (sound.backed ran _ _ whole).rightful n _ rfl
  have place : sensorEvents (trace moves) =
      sensorEvents ran ++ .listed sid (some names) :: sensorEvents (after ++ e :: post) := by
    rw [whole, sensorEvents_append]
    rfl
  have told := told_of_listed sound.leads place
  cases job with
  | list => exact ⟨ran, after, sid, client, user, passwd, rfl, behind, resolved, told⟩
  | _ => exact does.elim

end Listings

section Enrolled

def enrolAndList : List (Label Bool) :=
  enrolAndVerify.take 9 ++
    [.daemon (.arrive (some false) (.listEnrolledFingers [])), .daemon (.call 2 Daemon.willing),
      .job 2 Daemon.willing.passwd 4 "task panicked", .daemon (.call 2 Daemon.willing)]

def andresReply : Event Bool := .daemon (.replied 2 (.fingers ["right-index-finger"]))

theorem enrolAndList_replies : ((smallDaemon.replay smallDaemon.init enrolAndList).map
    fun done => decide (andresReply ∈ trace done.1)) = some true := by
  decide +kernel

theorem listing_owned_andre : ∃ moves last pre post, smallDaemon.Run moves last ∧
    trace moves = pre ++ andresReply :: post ∧
    Owned Daemon.uids 2 ["right-index-finger"] pre := by
  obtain ⟨⟨moves, last⟩, replayed, told⟩ := Option.map_eq_some_iff.mp enrolAndList_replies
  have run : smallDaemon.Run ([] ++ moves) last := Run.init.replay replayed
  obtain ⟨pre, post, split⟩ := List.append_of_mem (of_decide_eq_true told)
  exact ⟨moves, last, pre, post, run, split,
    listing_owned Records.Fated.watcher (fun _ => rfl) rfl run pre _ post split 2 _ rfl⟩

end Enrolled

end ValidityFprintd.Whole
