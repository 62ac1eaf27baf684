import ValidityFprintd.MatchBacked

/-! Whose enrolments change, and by whom: between any two points of a run, a finger comes to a
user's shelf or goes from it only by a job that was allowed it. -/

namespace ValidityFprintd.Whole
open Effect Device Machine
open Records (Matcher)

section Steps

variable {Client S : Type} [DecidableEq Client] {w : Usb.World S} {uid : Client → UInt32}
  {opens : S → Outcome String Handle × S} {tr : List (Event Client)} {d d' : System Client S}
  {events : List (Event Client)} {h : Matcher w}

omit [DecidableEq Client] in
theorem Sound.job_leads (keeps : ∀ s, h.db (opens s).2 = h.db s) (sound : Sound h uid tr d)
    {job : Daemon.Job} {user : Text} {passwd : Except String Text} {mine : Option Nat} {fuel : Nat}
    {r : Ended S} (n : Nat)
    (ended : runMethod w opens d.shared (fun handle => callOf user passwd mine fuel handle job) =
      some r) :
    Leads Shelves.Next (h.db d.shared.env).shelf
      (sensorEvents (r.log.map (.sensor n) : List (Event Client))) (h.db r.state.env).shelf := by
  rw [sensorEvents_sensor]
  exact (runMethod_worked h keeps sound.shaped sound.named ended).leads

theorem Sound.step_leads (keeps : ∀ s, h.db (opens s).2 = h.db s) (sound : Sound h uid tr d)
    {label : Label Client} (taken : Whole.step w opens uid d label = some (d', events)) :
    Leads Shelves.Next (h.db d.shared.env).shelf (sensorEvents events)
      (h.db d'.shared.env).shelf := by
  obtain ⟨_, _, _, went⟩ | ⟨n, _, _, _, ran⟩ | ⟨_, _, _, took⟩ := step_cases taken
  · obtain ⟨r, _, same⟩ := Option.map_eq_some_iff.mp went
    obtain ⟨rfl, rfl⟩ := Prod.mk.inj same
    rw [sensorEvents_daemon]
    rfl
  · obtain ⟨job, user, r, _, ended, _, shared, _, _, rfl⟩ := runJob_ran ran
    rw [shared]
    exact sound.job_leads keeps n ended
  · obtain ⟨op, r, _, _, _, ended, _, _, rfl, rfl⟩ := takeTurn_ran took
    exact sound.job_leads keeps op.call ended

omit [DecidableEq Client] in
theorem Does.changes {job : Daemon.Job} {e : ShelfEvent} {sid : SidIdentity} {finger : String}
    (does : Does job e) (touches : e.touches sid finger) : job.changesFingers = true := by
  obtain ⟨done, rfl⟩ | ⟨count, rfl⟩ := touches
  · cases job with
    | enroll item => rfl
    | _ => exact does.elim
  · cases job with
    | delete => rfl
    | _ => exact does.elim

/-- By a job of this user's, which its client was allowed, the finger was put on the shelf or the
shelf was cleared. -/
def Allowed (uid : Client → UInt32) (sid : SidIdentity) (finger : String)
    (before : List (Event Client)) : Event Client → Prop
  | .daemon _ => False
  | .sensor n told => told.touches sid finger ∧ ∃ job client user passwd,
      Behind uid n job client user before ∧ sidForUser passwd user = .ok sid ∧ Does job told ∧
        Daemon.Permitted uid n client (daemonEvents before)

/-- Between any two points of a run, whether a finger is on a user's shelf stays as it is, or a job
that was allowed it is to blame. -/
theorem shelf_changes_allowed {env : S} (h : Matcher w) (keeps : ∀ s, h.db (opens s).2 = h.db s)
    (start : h.db env = Records.Database.empty)
    {front back : List (Move (System Client S) (Label Client) (Event Client))}
    {last : System Client S} (before : (machine w opens uid env).Run front d)
    (run : (machine w opens uid env).Run (front ++ back) last) (sid : SidIdentity)
    (finger : String) :
    (finger ∈ (h.db last.shared.env).shelf sid ↔ finger ∈ (h.db d.shared.env).shelf sid) ∨
      ∃ pre e post, trace back = pre ++ e :: post ∧
        Allowed uid sid finger (trace front ++ pre) e := by
  have leads : Leads Shelves.Next (h.db d.shared.env).shelf (sensorEvents (trace back))
      (h.db last.shared.env).shelf :=
    Run.leads_between (fun d => (h.db d.shared.env).shelf) Event.sensor? (Sound.init h start)
      (fun sound taken => ⟨sound.step keeps taken, sound.step_leads keeps taken⟩) before run
  obtain same | ⟨told, mem, touches⟩ := Shelves.untouched_or leads
  · exact .inl same
  · refine .inr ?_
    obtain ⟨first, rest, split⟩ := List.append_of_mem mem
    obtain ⟨pre, n, post, split, _⟩ := sensorEvents_split split
    have all := backed_always h keeps start run
    have backed : Backed uid (trace front ++ pre) (.sensor n told) := by
      refine all _ _ post ?_
      rw [trace_append, split, List.append_assoc]
    obtain ⟨job, client, user, passwd, behind, resolved, does⟩ := backed.rightful n told rfl
    have own : told.user = sid := by
      obtain ⟨done, rfl⟩ | ⟨count, rfl⟩ := touches
      · rfl
      · rfl
    rw [own] at resolved
    exact ⟨pre, _, post, split, touches, job, client, user, passwd, behind, resolved, does,
      behind.permitted (does.changes touches)⟩

end Steps

section Enrolled

/-- The first finger that is enrolled is on the shelf of the user it is for. -/
def shelved (d : Records.Fated) : Bool :=
  d.db.fingers.any fun f => d.db.users.any fun u => f.user = u.dbid ∧
    Sid.parseIdentity u.identity = .ok (syntheticSid 1000) ∧
      fingerName f.ref.subtype = "right-index-finger"

theorem mem_of_shelved {d : Records.Fated} (there : shelved d = true) :
    "right-index-finger" ∈ d.db.shelf (syntheticSid 1000) := by
  obtain ⟨f, hf, users⟩ := List.any_eq_true.mp there
  obtain ⟨u, hu, same⟩ := List.any_eq_true.mp users
  obtain ⟨owner, known, named⟩ := of_decide_eq_true same
  exact ⟨f, ⟨hf, u, ⟨hu, known⟩, owner⟩, named⟩

theorem enrolAndVerify_shelved : ((smallDaemon.replay smallDaemon.init enrolAndVerify).map
    fun done => shelved done.2.shared.env) = some true := by
  decide +kernel

theorem shelf_changes_allowed_andre : ∃ moves last, smallDaemon.Run moves last ∧
    ∃ pre e post, trace moves = pre ++ e :: post ∧
      Allowed Daemon.uids (syntheticSid 1000) "right-index-finger" pre e := by
  obtain ⟨⟨moves, last⟩, replayed, there⟩ := Option.map_eq_some_iff.mp enrolAndVerify_shelved
  have run : smallDaemon.Run ([] ++ moves) last := Run.init.replay replayed
  refine ⟨moves, last, run, ?_⟩
  obtain same | allowed := shelf_changes_allowed Records.Fated.watcher (fun _ => rfl) rfl Run.init
    run (syntheticSid 1000) "right-index-finger"
  · obtain ⟨f, ⟨none_, _⟩, _⟩ := same.mp (mem_of_shelved there)
    cases none_
  · exact allowed

end Enrolled

end ValidityFprintd.Whole
