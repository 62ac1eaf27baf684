import ValidityFprintd.ShelfIntegrity

/-! What a completed enrolment promises: its finger is on the shelf of the user it was for, and
stays there until it is enrolled again in vain or the user's fingers are to be deleted. -/

namespace ValidityFprintd.Daemon

variable {Client : Type}

theorem completed_turn {current id : Nat} {op op' : Op Client} {turn : Turn}
    (h : work current id op turn = some op') (ended : op'.task = .ended "enroll-completed") :
    ∃ item recid, op.job = .enroll item ∧ turn = .enrolled (.ok recid) := by
  unfold work at h
  split at h
  case h_2 item recid _ job => exact ⟨item, recid, job, rfl⟩
  case h_1 runs _ =>
    obtain rfl := Option.some.inj h
    rw [runs] at ended
    cases ended
  case h_5 runs _ =>
    split at h
    · split at h
      · obtain rfl := Option.some.inj h
        rw [runs] at ended
        cases ended
      · obtain rfl := Option.some.inj h
        rw [runs] at ended
        cases ended
    · obtain rfl := Option.some.inj h
      simp at ended
  case h_10 => cases h
  all_goals
    obtain rfl := Option.some.inj h
    simp at ended

end ValidityFprintd.Daemon

namespace ValidityFprintd.Whole
open Effect Device Machine
open Records (Matcher)

section Enrolments

variable {Client S : Type} [DecidableEq Client] {w : Usb.World S} {uid : Client → UInt32}
  {opens : S → Outcome String Handle × S} {tr : List (Event Client)} {d d' : System Client S}
  {events : List (Event Client)}

/-- The job of this call put the finger on the user's shelf. -/
def Stored (n : Nat) (job : Daemon.Job) (user : Text) (tr : List (Event Client)) : Prop :=
  ∃ item passwd sid, job = .enroll item ∧ sidForUser passwd user = .ok sid ∧
    .sensor n (.put sid (String.ofList item) true) ∈ tr

omit [DecidableEq Client] in
theorem Stored.append {n : Nat} {job : Daemon.Job} {user : Text} (h : Stored n job user tr) :
    Stored n job user (tr ++ events) := by
  obtain ⟨item, passwd, sid, enrolls, resolved, put⟩ := h
  exact ⟨item, passwd, sid, enrolls, resolved, List.mem_append_left events put⟩

theorem stored_told {s : S} {user : Text} {passwd : Except String Text} {mine : Option Nat}
    {fuel : Nat} {handle : Handle} {item : Text} {recid : UInt16}
    (out : outOf w s (callOf user passwd mine fuel handle (.enroll item)) =
      .ok (.enrolled recid)) :
    ∃ sid, sidForUser passwd user = .ok sid ∧ .put sid (String.ofList item) true ∈
      ((callOf user passwd mine fuel handle (.enroll item)).run w s).2 := by
  obtain ⟨recid', ended, same⟩ := Outcome.bind_eq_ok.mp out
  cases same
  cases resolved : sidForUser passwd user with
  | error e =>
    have fails : (Device.enroll w passwd user mine fuel handle (String.ofList item)
        fingerTimeout s).out = .err e := by
      unfold Device.enroll
      rw [resolved]
      rfl
    rw [fails] at ended
    cases ended
  | ok sid =>
    cases known : fingerSubtype (String.ofList item) with
    | none =>
      have fails : ∃ e, (Device.enroll w passwd user mine fuel handle (String.ofList item)
          fingerTimeout s).out = .err e := by
        unfold Device.enroll
        rw [resolved, known]
        exact ⟨_, rfl⟩
      obtain ⟨e, fails⟩ := fails
      rw [fails] at ended
      cases ended
    | some subtype =>
      refine ⟨sid, rfl, ?_⟩
      simp only [callOf, Records.Call.run, known, Option.isSome_some, if_true, Records.toldOf,
        resolved, ended, Records.returned?, List.mem_singleton]

theorem turn_stored {job : Daemon.Job} {out : Outcome String Answer} {recid : UInt16}
    (turn : turnOf job out = some (.enrolled (.ok recid))) : out = .ok (.enrolled recid) := by
  unfold turnOf at turn
  split at turn <;> cases turn
  rfl

/-- An operation that has completed an enrolment has stored the finger. -/
def Completes (tr : List (Event Client)) (d : System Client S) : Prop :=
  ∀ id op, d.daemon.ops id = some op → op.task = .ended "enroll-completed" →
    Stored op.call op.job op.user tr

theorem Completes.step (h : Completes tr d) {label : Label Client}
    (taken : Whole.step w opens uid d label = some (d', events)) :
    Completes (tr ++ events) d' := by
  obtain ⟨_, idle, _, went⟩ | ⟨_, _, _, _, ran⟩ | ⟨id, passwd, _, took⟩ := step_cases taken
  · obtain ⟨r, moved, same⟩ := Option.map_eq_some_iff.mp went
    obtain ⟨rfl, rfl⟩ := Prod.mk.inj same
    intro id op' there ended
    obtain ⟨op, at_, stays⟩ | ⟨fresh, _⟩ := Daemon.op_from moved idle there
    · rw [stays.call, stays.job, stays.user]
      exact (h id op at_ (stays.ended _ ended)).append
    · rw [ended] at fresh
      cases fresh with
      | inl no => cases no
      | inr no => cases no
  · obtain ⟨_, _, r, _, _, daemon, _, _, _, rfl⟩ := runJob_ran ran
    intro id op there ended
    rw [daemon] at there
    exact (h id op there ended).append
  · obtain ⟨op, r, turn, op', at_, ran, turned, work, rfl, rfl⟩ := takeTurn_ran took
    have left := Daemon.turnLeaves_of_work work
    intro i o there ended
    obtain ⟨rfl, rfl⟩ | old := Daemon.update_cases there
    · obtain ⟨item, recid, job, rfl⟩ := Daemon.completed_turn work ended
      have found := turn_stored turned
      obtain ⟨handle, env, _, out, _, told⟩ | ⟨none_, _⟩ := runMethod_cases ran
      · rw [found, job] at out
        obtain ⟨sid, resolved, put⟩ := stored_told out.symm
        rw [left.call, left.job, left.user]
        refine ⟨item, passwd, sid, job, resolved, List.mem_append_right tr ?_⟩
        refine List.mem_map_of_mem ?_
        rw [told, job]
        exact put
      · exact absurd found (none_ _)
    · exact (h i o old ended).append

/-- The operation was begun for a user whose finger its call was allowed to put, and put. -/
def EnrolledFor (uid : Client → UInt32) (id : Nat) (before : List (Event Client)) : Prop :=
  ∃ n job client user, .daemon (.began n id (some client) user) ∈ before ∧
    Behind uid n job client user before ∧ Stored n job user before

omit [DecidableEq Client] in
theorem EnrolledFor.append {id : Nat} (h : EnrolledFor uid id tr) :
    EnrolledFor uid id (tr ++ events) := by
  obtain ⟨n, job, client, user, began, behind, stored⟩ := h
  exact ⟨n, job, client, user, List.mem_append_left events began, behind.append, stored.append⟩

/-- Only such an operation is told of as completed. -/
structure Promised (h : Matcher w) (uid : Client → UInt32) (tr : List (Event Client))
    (d : System Client S) : Prop where
  sound : Sound h uid tr d
  completes : Completes tr d
  told : Always (fun before e => ∀ id,
    e = .daemon (.signal id (.enrollStatus "enroll-completed" true)) → EnrolledFor uid id before) tr

omit [DecidableEq Client] in
theorem sensor_silent {n id : Nat} {signal : Daemon.Signal} {told : List ShelfEvent} :
    ∀ e ∈ (told.map (.sensor n) : List (Event Client)), ∀ before,
      e = .daemon (.signal id signal) → EnrolledFor uid id before := by
  rintro e mem _ rfl
  obtain ⟨_, _, same⟩ := List.mem_map.mp mem
  cases same

theorem Promised.step {h : Matcher w} (keeps : ∀ s, h.db (opens s).2 = h.db s)
    (promised : Promised h uid tr d) {label : Label Client}
    (taken : Whole.step w opens uid d label = some (d', events)) :
    Promised h uid (tr ++ events) d' := by
  refine ⟨promised.sound.step keeps taken, promised.completes.step taken, ?_⟩
  obtain ⟨_, _, _, went⟩ | ⟨n, _, _, _, ran⟩ | ⟨_, _, _, took⟩ := step_cases taken
  · obtain ⟨r, moved, same⟩ := Option.map_eq_some_iff.mp went
    obtain ⟨rfl, rfl⟩ := Prod.mk.inj same
    refine promised.told.append fun pre e post split => ?_
    rintro id rfl
    obtain ⟨e, mem, same⟩ := List.mem_map.mp
      (split ▸ List.mem_append_right pre List.mem_cons_self :
        .daemon (.signal id (.enrollStatus "enroll-completed" true)) ∈ r.2.map Event.daemon)
    obtain rfl := Event.daemon.inj same
    obtain ⟨op, at_, ended⟩ := Daemon.last_from moved mem rfl rfl
    obtain ⟨began, launched, _⟩ := promised.sound.ops id op at_
    have launch := launched (by rw [ended]; nofun) (by rw [ended]; nofun)
    obtain ⟨client, sent, behind⟩ := behind_of promised.sound.entitled launch
    rw [sent] at began
    exact EnrolledFor.append ⟨op.call, op.job, client, op.user, began, behind,
      promised.completes id op at_ ended⟩
  · obtain ⟨_, _, _, _, _, _, _, _, _, rfl⟩ := runJob_ran ran
    exact promised.told.free fun e mem pre id => sensor_silent e mem pre
  · obtain ⟨_, _, _, _, _, _, _, _, _, rfl⟩ := takeTurn_ran took
    exact promised.told.free fun e mem pre id => sensor_silent e mem pre

/-- Whenever the daemon says that an enrolment completed, its client was allowed it, the finger was
put on the shelf of the user the operation was begun for, and at any later point it is still there
or has since been enrolled again in vain or was to be deleted with the user's others. -/
theorem completed_kept {env : S} (h : Matcher w) (keeps : ∀ s, h.db (opens s).2 = h.db s)
    (start : h.db env = Records.Database.empty)
    {moves : List (Move (System Client S) (Label Client) (Event Client))} {last : System Client S}
    (run : (machine w opens uid env).Run moves last) {id : Nat}
    {before after : List (Event Client)} (said : trace moves =
      before ++ .daemon (.signal id (.enrollStatus "enroll-completed" true)) :: after) :
    ∃ n item client user passwd sid early late,
      before = early ++ .sensor n (.put sid (String.ofList item) true) :: late ∧
      .daemon (.began n id (some client) user) ∈ before ∧
      Behind uid n (.enroll item) client user before ∧ sidForUser passwd user = .ok sid ∧
      (String.ofList item ∈ (h.db last.shared.env).shelf sid ∨
        ∃ m told, .sensor m told ∈ late ++ after ∧
          (told = .put sid (String.ofList item) false ∨ ∃ count, told = .cleared sid count)) := by
  have promised : Promised h uid (trace moves) last := by
    refine run.invariant ⟨Sound.init h start, ?_, always_nil _⟩ fun p taken => p.step keeps taken
    intro i op at_
    cases at_
  obtain ⟨n, job, client, user, began, behind, item, passwd, sid, rfl, resolved, put⟩ :=
    promised.told before _ after said id rfl
  obtain ⟨early, late, rfl⟩ := List.append_of_mem put
  refine ⟨n, item, client, user, passwd, sid, early, late, rfl, began, behind, resolved, ?_⟩
  by_cases blame : ∃ m told, .sensor m told ∈ late ++ after ∧
      (told = .put sid (String.ofList item) false ∨ ∃ count, told = .cleared sid count)
  · exact .inr blame
  · refine .inl ?_
    -- nothing that the shelves were told since then undoes it
    have since : ∀ told ∈ sensorEvents (late ++ after),
        told ≠ .put sid (String.ofList item) false ∧ ∀ count, told ≠ .cleared sid count := by
      intro told mem
      obtain ⟨pre, post, split⟩ := List.append_of_mem mem
      obtain ⟨_, m, _, split, _⟩ := sensorEvents_split split
      have there : .sensor m told ∈ late ++ after :=
        split ▸ List.mem_append_right _ List.mem_cons_self
      exact ⟨fun same => blame ⟨m, told, there, .inl same⟩,
        fun count same => blame ⟨m, told, there, .inr ⟨count, same⟩⟩⟩
    have kept : Shelves.Lasting (sensorEvents (trace moves)) sid (String.ofList item) := by
      refine ⟨sensorEvents early, sensorEvents (late ++ after), ?_, fun mem => (since _ mem).1 rfl,
        fun count mem => (since _ mem).2 count rfl⟩
      rw [said]
      simp only [sensorEvents, List.filterMap_append, List.filterMap_cons, Event.sensor?,
        List.append_assoc, List.cons_append]
    exact kept.found promised.sound.leads

end Enrolments

section Enrolled

theorem enrolAndVerify_completes : ((smallDaemon.replay smallDaemon.init enrolAndVerify).map
    fun done => decide (.daemon (.signal 2 (.enrollStatus "enroll-completed" true)) ∈
      trace done.1)) = some true := by
  decide +kernel

theorem completed_kept_andre : ∃ moves last, smallDaemon.Run moves last ∧
    ∃ n item client user, .daemon (.began n 2 (some client) user) ∈ trace moves ∧
      Behind Daemon.uids n (.enroll item) client user (trace moves) := by
  obtain ⟨⟨moves, last⟩, replayed, told⟩ := Option.map_eq_some_iff.mp enrolAndVerify_completes
  have run : smallDaemon.Run ([] ++ moves) last := Run.init.replay replayed
  obtain ⟨before, after, said⟩ := List.append_of_mem (of_decide_eq_true told)
  obtain ⟨n, item, client, user, _, _, _, _, _, began, behind, _⟩ :=
    completed_kept Records.Fated.watcher (fun _ => rfl) rfl run said
  refine ⟨moves, last, run, n, item, client, user, ?_, ?_⟩
  · exact said ▸ List.mem_append_left _ began
  · exact said ▸ behind.append

end Enrolled

end ValidityFprintd.Whole
