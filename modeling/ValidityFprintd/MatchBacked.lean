import ValidityFprintd.OpSteps
import ValidityFprintd.WholeDaemon

/-! What is behind a match: a finger that was put there by someone who was allowed to, for the user
the verification is about. -/

namespace ValidityFprintd.Whole
open Effect Device Machine
open Records (Matcher)
open Slot (Shared)

/-! Whatever is made of the shelves, and of a match, goes back to who was allowed it. -/

section Backing

variable {Client : Type}

def Event.daemon? : Event Client → Option (Daemon.Event Client)
  | .daemon e => some e
  | .sensor .. => none

def Event.sensor? : Event Client → Option ShelfEvent
  | .daemon _ => none
  | .sensor _ e => some e

def daemonEvents (tr : List (Event Client)) : List (Daemon.Event Client) :=
  tr.filterMap Event.daemon?

def sensorEvents (tr : List (Event Client)) : List ShelfEvent := tr.filterMap Event.sensor?

variable {tr more : List (Event Client)}

@[simp] theorem daemonEvents_append :
    daemonEvents (tr ++ more) = daemonEvents tr ++ daemonEvents more := List.filterMap_append

@[simp] theorem sensorEvents_append :
    sensorEvents (tr ++ more) = sensorEvents tr ++ sensorEvents more := List.filterMap_append

@[simp] theorem daemonEvents_daemon (events : List (Daemon.Event Client)) :
    daemonEvents (events.map .daemon) = events := by
  simp only [daemonEvents, List.filterMap_map, Function.comp_def, Event.daemon?,
    List.filterMap_some]

@[simp] theorem sensorEvents_daemon (events : List (Daemon.Event Client)) :
    sensorEvents (events.map .daemon) = [] := by
  simp only [sensorEvents, List.filterMap_map, Function.comp_def, Event.sensor?,
    List.filterMap_none]

@[simp] theorem daemonEvents_sensor (n : Nat) (told : List ShelfEvent) :
    daemonEvents (told.map (.sensor n) : List (Event Client)) = [] := by
  simp only [daemonEvents, List.filterMap_map, Function.comp_def, Event.daemon?,
    List.filterMap_none]

@[simp] theorem sensorEvents_sensor (n : Nat) (told : List ShelfEvent) :
    sensorEvents (told.map (.sensor n) : List (Event Client)) = told := by
  simp only [sensorEvents, List.filterMap_map, Function.comp_def, Event.sensor?,
    List.filterMap_some]

theorem mem_daemonEvents {e : Daemon.Event Client} :
    e ∈ daemonEvents tr ↔ .daemon e ∈ tr := by
  constructor
  · intro mem
    obtain ⟨e', there, same⟩ := List.mem_filterMap.mp mem
    cases e' with
    | daemon e' => exact Option.some.inj same ▸ there
    | sensor => cases same
  · exact fun there => List.mem_filterMap.mpr ⟨_, there, rfl⟩

variable (uid : Client → UInt32)

/-- This call launched the job, for a user that its client may act for, and was allowed to if the
job changes fingers. -/
structure Behind (n : Nat) (job : Daemon.Job) (client : Client) (user : Text)
    (before : List (Event Client)) : Prop where
  launched : .daemon (.launched n job (some client) user) ∈ before
  entitled : Daemon.Entitled uid n client user (daemonEvents before)
  permitted : job.changesFingers = true → Daemon.Permitted uid n client (daemonEvents before)

/-- What a job did is what it is for, to the shelf of the user that it is about. -/
def Rightful (n : Nat) (told : ShelfEvent) (before : List (Event Client)) : Prop :=
  ∃ job client user passwd, Behind uid n job client user before ∧
    sidForUser passwd user = .ok told.user ∧ Does job told

/-- The finger was seen by the job of this call, and is one of the user's. -/
def Recognized (n : Nat) (user : Text) (before : List (Event Client)) : Prop :=
  ∃ passwd sid finger, sidForUser passwd user = .ok sid ∧
    .sensor n (.seen sid (some finger)) ∈ before

/-- A finger of the user the operation was begun for has been recognized in it. -/
def Verified (id : Nat) (before : List (Event Client)) : Prop :=
  ∃ n sel client user, .daemon (.began n id (some client) user) ∈ before ∧
    Behind uid n (.verify sel) client user before ∧ Recognized n user before

/-- What has to have happened before an event. -/
structure Backed (before : List (Event Client)) (e : Event Client) : Prop where
  matched : ∀ id, e = .daemon (.signal id (.verifyStatus "verify-match" true)) →
    Verified uid id before
  rightful : ∀ n told, e = .sensor n told → Rightful uid n told before
  asked : ∀ n sid finger, e = .sensor n (.seen sid (some finger)) →
    Shelves.Asked (sensorEvents before) sid finger

variable {uid}

theorem Behind.append {n : Nat} {job : Daemon.Job} {client : Client} {user : Text}
    (h : Behind uid n job client user tr) : Behind uid n job client user (tr ++ more) where
  launched := List.mem_append_left more h.launched
  entitled := by
    rw [daemonEvents_append]
    exact h.entitled.append
  permitted := by
    rw [daemonEvents_append]
    exact fun changes => (h.permitted changes).append

theorem Rightful.append {n : Nat} {told : ShelfEvent} (h : Rightful uid n told tr) :
    Rightful uid n told (tr ++ more) := by
  obtain ⟨job, client, user, passwd, behind, rest⟩ := h
  exact ⟨job, client, user, passwd, behind.append, rest⟩

theorem Recognized.append {n : Nat} {user : Text} (h : Recognized n user tr) :
    Recognized n user (tr ++ more) := by
  obtain ⟨passwd, sid, finger, resolved, seen⟩ := h
  exact ⟨passwd, sid, finger, resolved, List.mem_append_left more seen⟩

theorem Verified.append {id : Nat} (h : Verified uid id tr) : Verified uid id (tr ++ more) := by
  obtain ⟨n, sel, client, user, began, behind, seen⟩ := h
  exact ⟨n, sel, client, user, List.mem_append_left more began, behind.append, seen.append⟩

theorem behind_of [DecidableEq Client] {d : Daemon.System Client}
    (h : Daemon.Entitlements uid (daemonEvents tr) d) {n : Nat} {job : Daemon.Job}
    {client : Option Client} {user : Text} (launched : .daemon (.launched n job client user) ∈ tr) :
    ∃ c, client = some c ∧ Behind uid n job c user tr := by
  obtain ⟨pre, post, split⟩ := List.append_of_mem (mem_daemonEvents.mpr launched)
  obtain ⟨c, rfl, entitled, permitted⟩ := h.launches pre _ post split n job client user rfl
  refine ⟨c, rfl, launched, ?_, fun changes => ?_⟩
  · rw [split]
    exact entitled.append
  · rw [split]
    exact (permitted changes).append

end Backing

section Invariant

variable {Client S : Type} [DecidableEq Client] {w : Usb.World S} {uid : Client → UInt32}
  {opens : S → Outcome String Handle × S} {tr : List (Event Client)} {d d' : System Client S}
  {events : List (Event Client)}

/-- An operation was begun and, once it runs, launched by its call; and it comes to a match only by
a finger that was recognized. -/
structure OpSound (tr : List (Event Client)) (id : Nat) (op : Daemon.Op Client) : Prop where
  began : .daemon (.began op.call id op.client op.user) ∈ tr
  launched : op.task ≠ .selecting → op.task ≠ .launching →
    .daemon (.launched op.call op.job op.client op.user) ∈ tr
  matched : op.task = .ended "verify-match" →
    (∃ sel, op.job = .verify sel) ∧ Recognized op.call op.user tr

structure Sound (h : Matcher w) (uid : Client → UInt32) (tr : List (Event Client))
    (d : System Client S) : Prop where
  entitled : Daemon.Entitlements uid (daemonEvents tr) d.daemon
  shaped : (h.db d.shared.env).Shaped
  named : (h.db d.shared.env).Named
  leads : Leads Shelves.Next Shelves.Empty (sensorEvents tr) (h.db d.shared.env).shelf
  ops : ∀ id op, d.daemon.ops id = some op → OpSound tr id op
  spawned : ∀ n job user, d.spawned n = some (job, user) →
    ∃ client, .daemon (.launched n job client user) ∈ tr
  backed : Always (Backed uid) tr

omit [DecidableEq Client] in
theorem OpSound.stays {id : Nat} {op op' : Daemon.Op Client}
    {more : List (Daemon.Event Client)} (h : OpSound tr id op) (stays : Daemon.Stays op op' more) :
    OpSound (tr ++ more.map .daemon) id op' where
  began := by
    rw [stays.call, stays.client, stays.user]
    exact List.mem_append_left _ h.began
  launched := by
    intro a b
    rw [stays.call, stays.job, stays.client, stays.user]
    obtain ⟨a, b⟩ | now := stays.launched a b
    · exact List.mem_append_left _ (h.launched a b)
    · exact List.mem_append_right _ (List.mem_map_of_mem now)
  matched := by
    intro ended
    rw [stays.call, stays.job, stays.user]
    obtain ⟨verifies, seen⟩ := h.matched (stays.ended _ ended)
    exact ⟨verifies, seen.append⟩

omit [DecidableEq Client] in
theorem OpSound.append {id : Nat} {op : Daemon.Op Client} (h : OpSound tr id op) :
    OpSound (tr ++ events) id op :=
  ⟨List.mem_append_left _ h.began, fun a b => List.mem_append_left _ (h.launched a b),
    fun ended => (h.matched ended).imp_right Recognized.append⟩

omit [DecidableEq Client] in
theorem spawned_or_launched {more : List (Daemon.Event Client)}
    {spawned : Nat → Option (Daemon.Job × Text)} {n : Nat} {job : Daemon.Job} {user : Text}
    (h : (more.foldl note spawned) n = some (job, user)) :
    spawned n = some (job, user) ∨ ∃ client, .launched n job client user ∈ more := by
  induction more generalizing spawned with
  | nil => exact .inl h
  | cons e more ih =>
    obtain before | ⟨client, later⟩ := ih h
    · unfold note at before
      split at before
      case h_3 => exact .inl before
      all_goals
        obtain ⟨rfl, same⟩ | old := Daemon.update_cases before
        · obtain ⟨rfl, rfl⟩ := Prod.mk.inj same
          exact .inr ⟨_, List.mem_cons_self⟩
        · exact .inl old
    · exact .inr ⟨client, List.mem_cons_of_mem e later⟩

theorem Sound.goOn {h : Matcher w} (sound : Sound h uid tr d) {label : Daemon.Label Client}
    (idle : Idle label) (taken : Whole.goOn uid d label = some (d', events)) :
    Sound h uid (tr ++ events) d' := by
  obtain ⟨⟨daemon, more⟩, moved, same⟩ := Option.map_eq_some_iff.mp taken
  obtain ⟨rfl, rfl⟩ := Prod.mk.inj same
  have entitled := sound.entitled.step moved
  refine ⟨?_, sound.shaped, sound.named, ?_, ?_, ?_, ?_⟩
  · rwa [daemonEvents_append, daemonEvents_daemon]
  · rw [sensorEvents_append, sensorEvents_daemon, List.append_nil]
    exact sound.leads
  · intro id op' there
    obtain ⟨op, at_, stays⟩ | ⟨fresh, began⟩ := Daemon.op_from moved idle there
    · exact (sound.ops id op at_).stays stays
    · refine ⟨List.mem_append_right tr (List.mem_map_of_mem began), fun a b => ?_, fun ended => ?_⟩
      · exact absurd fresh (not_or.mpr ⟨a, b⟩)
      · rw [ended] at fresh
        cases fresh with
        | inl no => cases no
        | inr no => cases no
  · intro n job user spawned
    obtain before | ⟨client, now⟩ := spawned_or_launched spawned
    · obtain ⟨client, launched⟩ := sound.spawned n job user before
      exact ⟨client, List.mem_append_left _ launched⟩
    · exact ⟨client, List.mem_append_right tr (List.mem_map_of_mem now)⟩
  · refine sound.backed.append fun pre e post split => ?_
    obtain ⟨e, mem, rfl⟩ := List.mem_map.mp
      (split ▸ List.mem_append_right pre List.mem_cons_self : e ∈ more.map Event.daemon)
    refine ⟨?_, nofun, nofun⟩
    rintro id ⟨⟩
    obtain ⟨op, at_, ended⟩ := Daemon.last_from moved mem rfl rfl
    obtain ⟨began, launched, matched⟩ := sound.ops id op at_
    obtain ⟨⟨sel, job⟩, seen⟩ := matched ended
    have launch := launched (by rw [ended]; nofun) (by rw [ended]; nofun)
    obtain ⟨client, sent, behind⟩ := behind_of sound.entitled launch
    rw [sent] at began
    rw [job] at behind
    exact Verified.append ⟨op.call, sel, client, op.user, began, behind, seen⟩

/-- A job works the shelves as it tells, and tells nothing but what it is for. -/
structure Worked (h : Matcher w) (job : Daemon.Job) (user : Text) (s : S) (r : Ended S) :
    Prop where
  shaped : (h.db r.state.env).Shaped
  named : (h.db r.state.env).Named
  leads : Leads Shelves.Next (h.db s).shelf r.log (h.db r.state.env).shelf
  told : ∀ e ∈ r.log, ∃ passwd, sidForUser passwd user = .ok e.user ∧ Does job e

theorem runMethod_worked (h : Matcher w) (keeps : ∀ s, h.db (opens s).2 = h.db s) {d : Shared S}
    {job : Daemon.Job} {user : Text} {passwd : Except String Text} {mine : Option Nat} {fuel : Nat}
    {r : Ended S} (shaped : (h.db d.env).Shaped) (named : (h.db d.env).Named)
    (ended : runMethod w opens d (fun handle => callOf user passwd mine fuel handle job) =
      some r) : Worked h job user d.env r := by
  have there : ∀ {env}, env = d.env ∨ env = (opens d.env).2 → h.db env = h.db d.env := by
    rintro env (rfl | rfl)
    · rfl
    · exact keeps _
  obtain ⟨handle, env, opened, _, left, told⟩ | ⟨_, opened, silent⟩ := runMethod_cases ended
  · have same := there opened
    have works := Records.call_works h (same ▸ shaped) (same ▸ named)
      (callOf user passwd mine fuel handle job)
    rw [← left, ← told] at works
    refine ⟨works.shaped, works.named, same ▸ works.leads, fun e mem => ⟨passwd, ?_⟩⟩
    rw [told] at mem
    exact told_by mem
  · have same := there opened
    refine ⟨same ▸ shaped, same ▸ named, ?_, fun e mem => ?_⟩
    · rw [same, silent]
      rfl
    · rw [silent] at mem
      cases mem

theorem seen_asked {υ φ : Type} {events front back : List (Shelves.Event υ φ)} {user : υ}
    {item : φ} {s : Shelves υ φ} (h : Leads Shelves.Next Shelves.Empty events s)
    (split : events = front ++ .seen user (some item) :: back) :
    Shelves.Asked front user item := by
  rw [split] at h
  obtain ⟨t, before, u, seen, _⟩ := leads_append.mp h
  exact Shelves.asked before (seen.own.2 item rfl)

omit [DecidableEq Client] in
/-- What a job of a call that was allowed it does is rightful, and so are its findings. -/
theorem Sound.told {h : Matcher w} (sound : Sound h uid tr d) {n : Nat} {job : Daemon.Job}
    {client : Client} {user : Text} (behind : Behind uid n job client user tr) {r : Ended S}
    (worked : Worked h job user d.shared.env r) :
    Leads Shelves.Next Shelves.Empty (sensorEvents (tr ++ r.log.map (.sensor n)))
        (h.db r.state.env).shelf ∧
      Always (Backed uid) (tr ++ r.log.map (.sensor n)) := by
  have leads : Leads Shelves.Next Shelves.Empty (sensorEvents tr ++ r.log)
      (h.db r.state.env).shelf := leads_append.mpr ⟨_, sound.leads, worked.leads⟩
  refine ⟨by rwa [sensorEvents_append, sensorEvents_sensor], ?_⟩
  refine sound.backed.append fun pre e post split => ?_
  have mem : e ∈ r.log.map (Event.sensor n : ShelfEvent → Event Client) :=
    split ▸ List.mem_append_right pre List.mem_cons_self
  obtain ⟨told, there, rfl⟩ := List.mem_map.mp mem
  refine ⟨nofun, ?_, ?_⟩
  · rintro _ _ ⟨⟩
    obtain ⟨passwd, resolved, does⟩ := worked.told told there
    exact ⟨job, client, user, passwd, behind.append, resolved, does⟩
  · rintro _ sid finger ⟨⟩
    have whole := congrArg sensorEvents split
    rw [sensorEvents_sensor, sensorEvents_append] at whole
    have place : sensorEvents tr ++ r.log =
        sensorEvents (tr ++ pre) ++ .seen sid (some finger) :: sensorEvents post := by
      rw [whole, sensorEvents_append, List.append_assoc]
      rfl
    exact seen_asked leads place

theorem Sound.runJob {h : Matcher w} (keeps : ∀ s, h.db (opens s).2 = h.db s)
    (sound : Sound h uid tr d) {n : Nat} {passwd : Except String Text} {fuel : Nat}
    {joinError : String}
    (taken : Whole.runJob w opens d n passwd fuel joinError = some (d', events)) :
    Sound h uid (tr ++ events) d' := by
  obtain ⟨job, user, r, spawned, ended, daemon, shared, left, _, rfl⟩ := runJob_ran taken
  have worked := runMethod_worked h keeps sound.shaped sound.named ended
  obtain ⟨_, launched⟩ := sound.spawned n job user spawned
  obtain ⟨client, _, behind⟩ := behind_of sound.entitled launched
  obtain ⟨leads, backed⟩ := sound.told behind worked
  refine ⟨?_, shared ▸ worked.shaped, shared ▸ worked.named, shared ▸ leads, ?_, ?_, backed⟩
  · rw [daemonEvents_append, daemonEvents_sensor, List.append_nil, daemon]
    exact sound.entitled
  · rw [daemon]
    exact fun id op at_ => (sound.ops id op at_).append
  · rw [left]
    intro m job' user' there
    by_cases this : m = n
    · rw [this, Function.update_self] at there
      cases there
    · rw [Function.update_of_ne this] at there
      obtain ⟨client, launched⟩ := sound.spawned m job' user' there
      exact ⟨client, List.mem_append_left _ launched⟩

theorem turn_matched {job : Daemon.Job} {out : Outcome String Answer} {finger : String}
    (turn : turnOf job out = some (.verified (.ok (.matched finger)))) :
    out = .ok (.verified (.matched finger)) := by
  unfold turnOf at turn
  split at turn <;> cases turn
  rfl

theorem Sound.takeTurn {h : Matcher w} (keeps : ∀ s, h.db (opens s).2 = h.db s)
    (sound : Sound h uid tr d) {id : Nat} {passwd : Except String Text} {fuel : Nat}
    (taken : Whole.takeTurn w opens d id passwd fuel = some (d', events)) :
    Sound h uid (tr ++ events) d' := by
  obtain ⟨op, r, turn, op', at_, ended, took, work, rfl, rfl⟩ := takeTurn_ran taken
  have worked := runMethod_worked h keeps sound.shaped sound.named ended
  have left := Daemon.turnLeaves_of_work work
  have launched := (sound.ops id op at_).launched (by rw [left.running]; nofun)
    (by rw [left.running]; nofun)
  obtain ⟨client, _, behind⟩ := behind_of sound.entitled launched
  obtain ⟨leads, backed⟩ := sound.told behind worked
  have step : Daemon.step uid d.daemon (.work id turn) = some (Daemon.put d.daemon id op' []) := by
    simp only [Daemon.step, at_, Option.bind_some, work, Option.map_some]
  refine ⟨?_, worked.shaped, worked.named, leads, ?_, ?_, backed⟩
  · rw [daemonEvents_append, daemonEvents_sensor]
    exact sound.entitled.step step
  · intro i o there
    obtain ⟨rfl, rfl⟩ | old := Daemon.update_cases there
    · have before : OpSound (tr ++ r.log.map (.sensor op.call)) i op := (sound.ops i op at_).append
      refine ⟨?_, fun _ _ => ?_, fun matched => ?_⟩
      · rw [left.call, left.client, left.user]
        exact before.began
      · rw [left.call, left.job, left.client, left.user]
        exact before.launched (by rw [left.running]; nofun) (by rw [left.running]; nofun)
      · obtain ⟨sel, finger, job, rfl⟩ := left.ended matched
        have found := turn_matched took
        obtain ⟨handle, env, _, out, _, told⟩ | ⟨none_, _⟩ := runMethod_cases ended
        · rw [found, job] at out
          obtain ⟨sid, resolved, seen⟩ := matched_told out.symm
          rw [left.call, left.user, left.job, job]
          refine ⟨⟨sel, rfl⟩, passwd, sid, finger, resolved, List.mem_append_right tr ?_⟩
          refine List.mem_map_of_mem ?_
          rw [told, job]
          exact seen
        · exact absurd found (none_ _)
    · exact (sound.ops i o old).append
  · intro m job user there
    obtain ⟨client, launched⟩ := sound.spawned m job user there
    exact ⟨client, List.mem_append_left _ launched⟩

theorem Sound.step {h : Matcher w} (keeps : ∀ s, h.db (opens s).2 = h.db s)
    (sound : Sound h uid tr d) {label : Label Client}
    (taken : Whole.step w opens uid d label = some (d', events)) :
    Sound h uid (tr ++ events) d' := by
  obtain ⟨_, idle, _, went⟩ | ⟨_, _, _, _, ran⟩ | ⟨_, _, _, took⟩ := step_cases taken
  · exact sound.goOn idle went
  · exact sound.runJob keeps ran
  · exact sound.takeTurn keeps took

theorem Sound.init {env : S} (h : Matcher w) (start : h.db env = Records.Database.empty) :
    Sound h uid [] (machine w opens uid env).init := by
  refine ⟨.init, ?_, ?_, ?_, nofun, nofun, always_nil _⟩
  · exact start ▸ Records.Database.empty_shaped
  · exact start ▸ Records.empty_named
  · show (h.db env).shelf = Shelves.Empty
    rw [start, Records.empty_shelf]

theorem backed_always {env : S} (h : Matcher w) (keeps : ∀ s, h.db (opens s).2 = h.db s)
    (start : h.db env = Records.Database.empty)
    {moves : List (Move (System Client S) (Label Client) (Event Client))} {last : System Client S}
    (run : (machine w opens uid env).Run moves last) : Always (Backed uid) (trace moves) :=
  (run.invariant (Sound.init h start) fun sound taken => sound.step keeps taken).backed

omit [DecidableEq Client] in
theorem sensorEvents_split {front back : List ShelfEvent} {e : ShelfEvent}
    (split : sensorEvents tr = front ++ e :: back) :
    ∃ pre n post, tr = pre ++ .sensor n e :: post ∧ sensorEvents post = back := by
  obtain ⟨pre, rest, rfl, _, split⟩ := List.filterMap_eq_append_iff.mp split
  obtain ⟨between, e', post, rfl, _, same, after⟩ := List.filterMap_eq_cons_iff.mp split
  cases e' with
  | daemon => cases same
  | sensor n told =>
    obtain rfl := Option.some.inj same
    exact ⟨pre ++ between, n, post, (List.append_assoc _ _ _).symm, after⟩

/-- A finger was put on the user's shelf by a job that was allowed it, and was seen there by the
verification that was begun for the user. No deletion for this user was done in between. -/
def Vouched (uid : Client → UInt32) (id : Nat) (before : List (Event Client)) : Prop :=
  ∃ sid finger enrolled put done between call after,
    before = (enrolled ++ .sensor put (.put sid finger done) :: between) ++
      .sensor call (.seen sid (some finger)) :: after ∧
    (∃ item client user passwd, Behind uid put (.enroll item) client user enrolled ∧
      finger = String.ofList item ∧ sidForUser passwd user = .ok sid) ∧
    (∀ n count, .sensor n (.cleared sid (some count)) ∉ between) ∧
    ∃ sel client user passwd, .daemon (.began call id (some client) user) ∈ before ∧
      Behind uid call (.verify sel) client user before ∧ sidForUser passwd user = .ok sid

/-- What holds of everything that happens. -/
structure Secure (uid : Client → UInt32) (before : List (Event Client)) (e : Event Client) :
    Prop where
  matched : ∀ id, e = .daemon (.signal id (.verifyStatus "verify-match" true)) →
    Vouched uid id before
  rightful : ∀ n told, e = .sensor n told → Rightful uid n told before

omit [DecidableEq Client] in
theorem vouched {id : Nat} {e : Event Client} {post : List (Event Client)}
    (all : Always (Backed uid) (tr ++ e :: post)) (verified : Verified uid id tr) :
    Vouched uid id tr := by
  obtain ⟨call, sel, client, user, began, behind, passwd, sid, finger, resolved, seen⟩ := verified
  obtain ⟨pre, after, rfl⟩ := List.append_of_mem seen
  have asked := (all pre _ (after ++ e :: post) (List.append_assoc _ _ _)).asked _ sid finger rfl
  obtain ⟨front, done, back, split, since⟩ := asked
  obtain ⟨enrolled, put, between, rfl, rfl⟩ := sensorEvents_split split
  have backed : Backed uid enrolled (.sensor put (.put sid finger done)) := by
    refine all enrolled _ (between ++ .sensor call (.seen sid (some finger)) ::
      (after ++ e :: post)) ?_
    simp only [List.append_assoc, List.cons_append]
  obtain ⟨job, client', user', passwd', behind', resolved', does⟩ := backed.rightful put _ rfl
  refine ⟨sid, finger, enrolled, put, done, between, call, after, rfl, ?_, ?_, ?_⟩
  · cases job with
    | enroll item => exact ⟨item, client', user', passwd', behind', does, resolved'⟩
    | _ => exact does.elim
  · exact fun n count mem => since count (List.mem_filterMap.mpr ⟨_, mem, rfl⟩)
  · exact ⟨sel, client, user, passwd, began, behind, resolved⟩

/-- In every run of the daemon with a sensor that keeps its database and recognizes only what is
enrolled: a match that is told stands on a finger that its user, or root, had enrolled. -/
theorem match_enrolled {env : S} (h : Matcher w) (keeps : ∀ s, h.db (opens s).2 = h.db s)
    (start : h.db env = Records.Database.empty)
    {moves : List (Move (System Client S) (Label Client) (Event Client))} {last : System Client S}
    (run : (machine w opens uid env).Run moves last) : Always (Secure uid) (trace moves) := by
  have all := backed_always h keeps start run
  intro pre e post split
  have backed := all pre e post split
  rw [split] at all
  exact ⟨fun id told => vouched all (backed.matched id told), backed.rightful⟩

end Invariant

/-! A user that is not root enrols a finger, and is recognized by it. -/

section Enrolled

open Records.Fated (seeing smallHandle)

def opensSmall (d : Records.Fated) : Outcome String Handle × Records.Fated :=
  (.ok smallHandle, d)

abbrev smallDaemon : Machine (System Bool Records.Fated) (Label Bool) (Event Bool) :=
  machine seeing opensSmall Daemon.uids ⟨.empty, [], 0⟩

def enrolAndVerify : List (Label Bool) :=
  [.daemon (.arrive (some false) (.claim [])), .daemon (.call 0 Daemon.willing),
    .daemon (.arrive (some false) (.enrollStart "any".toList)), .daemon (.call 1 Daemon.willing),
    .daemon (.call 1 Daemon.willing), .daemon (.call 1 Daemon.willing), .daemon (.launch 2),
    .turn 2 Daemon.willing.passwd 4, .daemon (.finish 2),
    .daemon (.arrive (some false) (.verifyStart [])), .daemon (.call 2 Daemon.willing),
    .daemon (.select 3), .daemon (.launch 3), .turn 3 Daemon.willing.passwd 4,
    .daemon (.finish 3)]

theorem enrolAndVerify_matches : ((smallDaemon.replay smallDaemon.init enrolAndVerify).map
    fun done => decide (.daemon (.signal 3 (.verifyStatus "verify-match" true)) ∈
      trace done.1)) = some true := by
  decide +kernel

theorem match_enrolled_andre : ∃ moves last, smallDaemon.Run moves last ∧
    .daemon (.signal 3 (.verifyStatus "verify-match" true)) ∈ trace moves ∧
    Always (Secure Daemon.uids) (trace moves) := by
  obtain ⟨⟨moves, last⟩, replayed, told⟩ := Option.map_eq_some_iff.mp enrolAndVerify_matches
  have run : smallDaemon.Run ([] ++ moves) last := Run.init.replay replayed
  exact ⟨moves, last, run, of_decide_eq_true told,
    match_enrolled Records.Fated.watcher (fun _ => rfl) rfl run⟩

end Enrolled

end ValidityFprintd.Whole
