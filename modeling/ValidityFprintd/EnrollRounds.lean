import ValidityFprintd.Returns
import ValidityFprintd.Scans
import ValidityFprintd.Traffic

/-! How many scans an enrolment asks for. Its loop counts the scans the sensor accepts;
a scan that fails is asked for again, and nothing counts how often. -/

namespace ValidityFprintd.EnrollRounds
open Effect World Capture Enroll Traffic Returns

variable {S : Type} {w : Usb.World S}

/-- The clock as a part of the world's state, in a run that is never stopped: a poll that
times out takes time, and nothing sets the clock back. -/
structure Clock (w : Usb.World S) (mine : Option Nat) where
  time : S → Nat
  reads : ∀ s, (w .now s).1 = time s
  forward : ∀ q s, time s ≤ time (w q s).2
  timeout : ∀ s, (w .pollInterrupt s).1 = .ok none → time s < time (w .pollInterrupt s).2
  going : ∀ op, mine = some op → ∀ s, (w .current s).1 = op

def Starts : Usb.Query → Bool
  | .cmd (c :: _) => c = 0x02
  | _ => false

def captures (log : List (Usb.Entry S)) : Nat := log.countP fun e => Starts e.query

/-- The enrolment returns, and has asked for no more than `maxStages` scans. -/
def GivesUp (w : Usb.World S) (r : Request) (s : S) : Prop :=
  ∃ fuel, Returned (enroll w fuel r s).out.kind ∧ captures (enroll w fuel r s).log ≤ maxStages

/-- Within `n` scans, the failed ones among them, the sensor hands out a template id, or
there is no stage left. -/
inductive Completes (w : Usb.World S) (r : Request) : Nat → Progress → S → Prop
  | full {n : Nat} {p : Progress} {s : S} : maxStages ≤ p.stage → Completes w r n p s
  | last {n : Nat} {p p' : Progress} {s t : S} :
      Reaches (fun fuel => enrollStep w fuel r p) s (.inr p') t → Completes w r (n + 1) p s
  | more {n : Nat} {p p' : Progress} {s t : S} :
      Reaches (fun fuel => enrollStep w fuel r p) s (.inl p') t → Completes w r n p' t →
      Completes w r (n + 1) p s

/-! Fuel: what has returned returns the same with more of it. -/

theorem enrollStep_grows (r : Request) (p : Progress) : Grows fun n => enrollStep w n r p := by
  unfold enrollStep
  split
  · exact .bind (.const _) fun _ => .bind Scans.round_grows fun _ => .const _
  · exact .const _

theorem conclude_grows (r : Request) (p : Progress) : Grows fun n => conclude w n r p := by
  refine .bind (.const _) fun _ => .bind (.const _) fun _ => ?_
  refine .bind (.const _) fun _ => .bind (.const _) fun _ => .bind (.const _) fun userDbid => ?_
  refine .bind (.const _) fun recid => .bind (.const _) fun start => ?_
  exact .bind Scans.waitInt_grows.ignore fun _ => .const _

/-! Behind its rounds an enrolment waits once, and the clock ends that wait. -/

section Clocked

variable {mine : Option Nat} (c : Clock w mine)

include c

theorem waitInt_finishes (deadline : Nat) : Finishes fun fuel => waitInt w fuel deadline := by
  refine .loop (fun s => deadline - c.time s) (fun _ => waitIntStep_returned w deadline)
    (fun _ _ s t l turn => ?_) ()
  -- the turn goes on behind a poll that timed out, short of the deadline
  obtain ⟨b, u, k, m, polled, rest, rfl⟩ := Act.bind_eq_ok.mp turn
  have poll := (Yields.bind_iff.mp (Yields.iff_run.mpr ⟨k, polled⟩))
  cases b with
  | some b => cases rest
  | none =>
    obtain ⟨answer, v, asked, lifted⟩ := poll
    obtain ⟨rfl, rfl⟩ := Yields.lift_iff.mp lifted
    have ans := ask_yields.mp asked
    obtain ⟨now, u', k', m', clock, rest', rfl⟩ := Act.bind_eq_ok.mp rest
    obtain ⟨_, u'', k'', m'', early, ends, rfl⟩ := Act.bind_eq_ok.mp rest'
    obtain ⟨early, rfl, rfl⟩ := Act.bailIf_eq_ok.mp early
    obtain ⟨_, rfl, rfl⟩ := Act.ret_eq_ok.mp ends
    have read := ask_yields.mp (Yields.iff_run.mpr ⟨k', clock⟩)
    have passed : c.time s < c.time v := by
      have after := c.timeout s (by rw [ans])
      rwa [ans] at after
    have seen : c.time v = now := by rw [← c.reads v, read]
    have later : c.time v ≤ c.time u' := by
      have after := c.forward .now v
      rwa [read] at after
    omega

theorem conclude_finishes (r : Request) (p : Progress) :
    Finishes fun fuel => conclude w fuel r p := by
  refine .bind (ignore_returned (exchange_returned w _ _)) fun _ => ?_
  refine .bind (.bailIf .value .error _ _) fun _ => ?_
  refine .bind (ignore_returned (exchange_returned w _ _)) fun _ => ?_
  refine .bind (deleteFingers_returned w _ _) fun _ => ?_
  refine .bind (findOrCreateUser_returned w r) fun userDbid => ?_
  refine .bind (newFinger_returned w _ _ _) fun recid => ?_
  refine .bind (fun _ => .value) fun start => ?_
  refine .andThen ?_ fun _ => .ret .value recid
  exact .andThen (.attempt (waitInt_finishes c _)) fun _ => .ret .value ()

end Clocked

/-! A turn asks for one scan, or for none where the capture program cannot be built. -/

/-- Every run of the call starts `n` captures. -/
def Counts {α : Type} (n : Nat) (x : Usb.Drv S α) : Prop := ∀ s, captures (x s).log = n

theorem captures_append (l m : List (Usb.Entry S)) :
    captures (l ++ m) = captures l + captures m := List.countP_append

theorem Counts.of_asks {α : Type} {x : Usb.Drv S α} (h : Asks (fun q => Starts q = false) x) :
    Counts 0 x := by
  intro s
  refine List.countP_eq_zero.mpr fun e he => ?_
  have quiet := h s e he
  simp [quiet]

theorem Counts.bind {α β : Type} {n : Nat} {x : Usb.Drv S α} {f : α → Usb.Drv S β}
    (hx : Counts n x) (hf : ∀ a, Counts 0 (f a)) : Counts n (x >>= f) := by
  intro s
  obtain ⟨a, t, l, run, ends⟩ | ⟨_, _, _, log, _⟩ := Act.bind_cases (x := x) (f := f) s
  · have first := hx s
    rw [run] at first
    rw [ends, captures_append, first, hf a t, Nat.add_zero]
  · rw [log, hx s]

theorem Counts.attempt {α : Type} {n : Nat} {x : Usb.Drv S α} (hx : Counts n x) :
    Counts n (Act.attempt x) := by
  intro s
  rw [Act.attempt_log, hx s]

theorem starts_everyday (w : Usb.World S) :
    Everyday w fun _ l _ => ∀ e ∈ l, Starts e.query = false := by
  refine everyday_asks w (p := fun q => Starts q = false) rfl rfl (fun _ _ => rfl)
    fun c rest h02 _ _ => ?_
  simp [Starts, h02]

theorem ask_starts {q : Usb.Query} (h : Starts q = false) :
    Asking w (fun _ l _ => ∀ e ∈ l, Starts e.query = false) q :=
  ask_asks (p := fun q => Starts q = false) w h

theorem quiet_command {c : UInt8} (h : c ≠ 0x02) (rest : Bytes) :
    Asking w (fun _ l _ => ∀ e ∈ l, Starts e.query = false) (.cmd (c :: rest)) :=
  ask_starts (by simp [Starts, h])

def scansPerRound (r : Request) : Nat :=
  if (r.calib.buildCmd02 .enroll r.cfg).kind = .value then 1 else 0

theorem scansPerRound_le (r : Request) : scansPerRound r ≤ 1 := by
  unfold scansPerRound
  split <;> omega

theorem scan_counts (mine : Option Nat) (fuel : Nat) (rest : Bytes) (fingerTimeout : Nat) :
    Counts 1 (scan w mine fuel (0x02 :: rest) fingerTimeout) := by
  have quiet := starts_everyday w
  have started : Counts 1 (Usb.exchange w (0x02 :: rest) "starting capture") := by
    intro s
    obtain ⟨e, t, ⟨answer, he⟩, ends⟩ := Usb.exchange_run w (0x02 :: rest) "starting capture" s
    have one : captures [e] = 1 := by
      rcases e with ⟨before, query, reply⟩
      cases query with
      | cmd out =>
        obtain rfl : out = 0x02 :: rest := by
          have same := Option.some.inj he
          exact congrArg Prod.fst same
        rfl
      | pollInterrupt => cases he
      | readData => cases he
      | now => cases he
      | current => cases he
      | onStage stage err => cases he
    obtain ⟨_, run⟩ | ⟨_, err, run⟩ := ends
    · rw [run, one]
    · rw [run, one]
  refine started.bind fun _ => .of_asks ?_
  refine .bind quiet.now fun start => .bind (waitInt_respects quiet.idle fuel _) fun b => ?_
  refine .bind (.bailIf _ _) fun _ => .bind quiet.now fun armed => ?_
  refine .bind (awaitFinger_respects quiet.idle (ask_starts rfl) mine fuel _) fun _ => ?_
  exact .bind quiet.now fun touched => scanned_respects quiet.status quiet.idle fuel touched

theorem round_counts (fuel : Nat) (r : Request) (key : UInt32) (template : Bytes) :
    Counts (scansPerRound r) (round w fuel r key template) := by
  have quiet := starts_everyday w
  have captured : Counts (scansPerRound r)
      (capture w r.mine fuel r.calib r.cfg .enroll r.fingerTimeout) := by
    intro s
    unfold capture scansPerRound
    rw [Act.ofOutcome_bind]
    cases built : r.calib.buildCmd02 .enroll r.cfg with
    | ok cmd =>
      obtain ⟨rest, rfl⟩ := Calibration.buildCmd02_head built
      have scanned := (scan_counts (w := w) r.mine fuel rest r.fingerTimeout).attempt
      refine (scanned.bind fun result => .of_asks ?_) s
      exact .bind (.ignore (cmd_respects (quiet_command (by decide) []))) fun _ => .lift result
    | err e => rfl
    | panic => rfl
    | stuck => rfl
  refine captured.attempt.bind fun captured => ?_
  cases captured with
  | error e => exact fun _ => rfl
  | ok _ => exact .of_asks (updates_respects quiet fuel r key template)

theorem enrollStep_counts {fuel : Nat} {r : Request} {p : Progress} (room : p.stage < maxStages)
    {s t : S} {next : Progress ⊕ Progress} {l : List (Usb.Entry S)}
    (h : enrollStep w fuel r p s = ⟨.ok next, t, l⟩) : captures l = scansPerRound r := by
  have quiet := starts_everyday w
  unfold enrollStep at h
  rw [if_pos room] at h
  obtain ⟨_, s1, k1, m1, glow, h1, rfl⟩ := Act.bind_eq_ok.mp h
  obtain ⟨result, s2, k2, m2, turn, h2, rfl⟩ := Act.bind_eq_ok.mp h1
  have before : captures k1 = 0 := by
    have none := Counts.of_asks (.ignore (glowStartScan_respects quiet)) s
    rwa [glow] at none
  have scanned : captures k2 = scansPerRound r := by
    have one := round_counts (w := w) fuel r p.key p.template s1
    rwa [turn] at one
  have after : captures m2 = 0 := by
    have rest : Counts 0 (Act.ignore (enrollmentUpdateEnd w) >>= fun _ => settle w r p result) :=
      .of_asks (.bind (.ignore (enrollmentUpdateEnd_respects quiet)) fun _ =>
        settle_respects quiet (ask_starts rfl) r p result)
    have none := rest s2
    rwa [h2] at none
  rw [captures_append, captures_append, before, scanned, after]
  omega

theorem turn_le {fuel : Nat} {r : Request} {p : Progress} {s t : S} {next : Progress ⊕ Progress}
    {l : List (Usb.Entry S)} (h : enrollStep w fuel r p s = ⟨.ok next, t, l⟩) : captures l ≤ 1 := by
  by_cases room : p.stage < maxStages
  · rw [enrollStep_counts room h]
    exact scansPerRound_le r
  · rw [enrollStep, if_neg room] at h
    obtain ⟨_, _, rfl⟩ := Act.ret_eq_ok.mp h
    exact Nat.zero_le _

/-! What the rounds end in. -/

theorem settle_failed {r : Request} {p : Progress} {key : UInt32} {e : String} {s t : S}
    {next : Progress ⊕ Progress} {l : List (Usb.Entry S)}
    (h : settle w r p (key, .error e) s = ⟨.ok next, t, l⟩) :
    next = .inl { p with key := key } := by
  obtain ⟨isStopped, u, k, m, _, rest, rfl⟩ := Act.bind_eq_ok.mp h
  cases isStopped with
  | true =>
    obtain ⟨_, _, _, _, _, failed, _⟩ := Act.bind_eq_ok.mp rest
    cases failed
  | false =>
    obtain ⟨_, _, _, _, _, went, _⟩ := Act.bind_eq_ok.mp rest
    exact (Act.ret_eq_ok.mp went).1.symm

def NeverAccepts (w : Usb.World S) (r : Request) : Prop :=
  ∀ fuel key template key' records s t l,
    round w fuel r key template s ≠ ⟨.ok (key', .ok records), t, l⟩

/-- Where no round is accepted the rounds do not come to an end. -/
theorem rounds_endless {fuel : Nat} {r : Request} (never : NeverAccepts w r) {s t : S}
    {p : Progress} {l : List (Usb.Entry S)} : rounds w fuel r s ≠ ⟨.ok p, t, l⟩ := by
  intro h
  have failed : ∀ p next s t l, p.stage = 0 → enrollStep w fuel r p s = ⟨.ok next, t, l⟩ →
      ∃ key, next = .inl { p with key := key } := by
    intro p next s t l start turn
    unfold enrollStep at turn
    rw [if_pos (by rw [start]; decide)] at turn
    obtain ⟨_, s1, k1, m1, _, h1, rfl⟩ := Act.bind_eq_ok.mp turn
    obtain ⟨⟨key, result⟩, s2, k2, m2, ran, h2, rfl⟩ := Act.bind_eq_ok.mp h1
    obtain ⟨_, s3, k3, m3, _, h3, rfl⟩ := Act.bind_eq_ok.mp h2
    cases result with
    | error e => exact ⟨key, settle_failed h3⟩
    | ok records => exact absurd ran (never _ _ _ _ _ _ _ _)
  obtain ⟨p', s', front, last, start, broke, _⟩ := Act.loop_eq_ok (I := fun p => p.stage = 0)
    (fun p p' s t l start turn => by
      obtain ⟨key, went⟩ := failed p _ s t l start turn
      obtain rfl := Sum.inl.inj went
      exact start) rfl h
  obtain ⟨key, went⟩ := failed p' _ s' t last start broke
  cases went

theorem enrollStep_no_error {r : Request} (c : Clock w r.mine) (fuel : Nat) (p : Progress) :
    Within (· ≠ .error) (enrollStep w fuel r p) := by
  have ignored : ∀ {α : Type} (x : Usb.Drv S α), Within (· ≠ .error) (Act.ignore x) :=
    fun x => .ignore (by decide) fun s => em _
  have tried : ∀ {α : Type} (x : Usb.Drv S α), Within (· ≠ .error) (Act.attempt x) :=
    fun x => .attempt (by decide) fun s => em _
  have ran : Within (· ≠ .error) (round w fuel r p.key p.template) := by
    refine .bind (tried _) fun captured => ?_
    cases captured with
    | error e => exact .ret (by decide) _
    | ok _ =>
      refine .bind (tried _) fun started => ?_
      cases started with
      | error e => exact .ret (by decide) _
      | ok key => exact .bind (tried _) fun appended => .ret (by decide) _
  have going : ∀ s, ∃ t l, stopped w r.mine s = ⟨.ok false, t, l⟩ := by
    intro s
    cases mine : r.mine with
    | none => exact ⟨s, [], rfl⟩
    | some op =>
      have answer := c.going op mine s
      exact ⟨(w .current s).2, [⟨s, .current, op⟩], by rw [stopped_run, answer]; simp⟩
  refine .ite (.bind (ignored _) fun _ => .bind ran fun result => ?_) (.ret (by decide) _)
  refine .bind (ignored _) fun _ => ?_
  rcases result with ⟨key, e | records⟩
  · refine .bind_of (fun s => ?_) fun isStopped s t l look => ?_
    · obtain ⟨t, l, run⟩ := going s
      rw [run]
      exact Kind.noConfusion
    · obtain ⟨t', l', run⟩ := going s
      rw [look] at run
      cases run
      have told : Within (· ≠ .error) (w.ask (.onStage p.stage (some e)) : Usb.Drv S Unit) :=
        ask_within (by decide) w _
      exact told.bind (fun _ => .ret (by decide) _) t
  · exact .bind (ask_within (by decide) w _) fun _ => .ite (.ret (by decide) _) (.ret (by decide) _)

theorem rounds_no_error {r : Request} (c : Clock w r.mine) (fuel : Nat) :
    Within (· ≠ .error) (rounds w fuel r) :=
  .loop (by decide) (by decide) (enrollStep_no_error c fuel) fuel _

theorem rounds_of_completes {r : Request} {n : Nat} {p : Progress} {s : S}
    (h : Completes w r n p s) : ∃ enough p' t l, captures l ≤ n ∧ ∀ fuel loops, enough ≤ fuel →
      enough ≤ loops → Act.loop (enrollStep w fuel r) loops p s = ⟨.ok p', t, l⟩ := by
  induction h with
  | @full n p s full =>
    refine ⟨1, p, s, [], Nat.zero_le _, fun fuel loops _ hl => ?_⟩
    obtain ⟨loops, rfl⟩ : ∃ k, loops = k + 1 := ⟨loops - 1, by omega⟩
    have done : enrollStep w fuel r p = Act.ret (.inr p) := by
      rw [enrollStep, if_neg (by omega)]
    rw [Act.loop, done]
    rfl
  | @last n p p' s t turn =>
    obtain ⟨enough, turned⟩ : ∃ fuel, Yields (enrollStep w fuel r p) s (.inr p') t := turn
    obtain ⟨l, turned⟩ := Yields.iff_run.mp turned
    refine ⟨enough + 1, p', t, l, ?_, fun fuel loops hf hl => ?_⟩
    · have one := turn_le turned
      omega
    · obtain ⟨loops, rfl⟩ : ∃ k, loops = k + 1 := ⟨loops - 1, by omega⟩
      have below : Below (enrollStep w enough r p) (enrollStep w fuel r p) :=
        enrollStep_grows r p enough fuel (by omega)
      have same := below.eq_of_returns (s := s) (by rw [turned]; simp)
      exact Act.bind_eq_ok.mpr ⟨.inr p', t, l, [], same.trans turned, rfl, by simp⟩
  | @more n p p' s t turn _ ih =>
    obtain ⟨enough, turned⟩ : ∃ fuel, Yields (enrollStep w fuel r p) s (.inl p') t := turn
    obtain ⟨l, turned⟩ := Yields.iff_run.mp turned
    obtain ⟨enough', p'', u, m, few, rest⟩ := ih
    refine ⟨max enough enough' + 1, p'', u, l ++ m, ?_, fun fuel loops hf hl => ?_⟩
    · have one := turn_le turned
      rw [captures_append]
      omega
    · obtain ⟨loops, rfl⟩ : ∃ k, loops = k + 1 := ⟨loops - 1, by omega⟩
      have below : Below (enrollStep w enough r p) (enrollStep w fuel r p) :=
        enrollStep_grows r p enough fuel (by omega)
      have same := below.eq_of_returns (s := s) (by rw [turned]; simp)
      exact Act.bind_eq_ok.mpr
        ⟨.inl p', t, l, m, same.trans turned, rest fuel loops (by omega) (by omega), rfl⟩

theorem createEnrollment_counts : Counts 0 (createEnrollment w) :=
  .of_asks (createEnrollment_respects (starts_everyday w))

theorem conclude_counts (fuel : Nat) (r : Request) (p : Progress) :
    Counts 0 (conclude w fuel r p) := by
  have quiet := starts_everyday w
  refine .of_asks (.bind (.ignore (glowEndScan_respects quiet)) fun _ =>
    .bind (.bailIf _ _) fun _ => ?_)
  exact store_respects quiet (quiet_command (by decide)) (quiet_command (by decide)) fuel r p

theorem enroll_run (fuel : Nat) (r : Request) (s : S) : enroll w fuel r s =
    Act.follow (createEnrollment w s) fun _ => rounds w fuel r >>= conclude w fuel r := rfl

/-- With fuel for its rounds and for what follows them. -/
theorem givesUp_of_completes {r : Request} (c : Clock w r.mine) {s t : S}
    {k : List (Usb.Entry S)} (created : createEnrollment w s = ⟨.ok (), t, k⟩)
    (h : Completes w r maxStages ⟨0, [], [], 0⟩ t) : GivesUp w r s := by
  have started : captures k = 0 := by
    have quiet := createEnrollment_counts (w := w) s
    rwa [created] at quiet
  obtain ⟨enough, p, u, l, few, ends⟩ := rounds_of_completes h
  obtain ⟨fuel, returned⟩ := conclude_finishes c r p u
  have concluded : conclude w (max enough fuel) r p u = conclude w fuel r p u := by
    refine (conclude_grows r p fuel _ (Nat.le_max_right enough fuel)).eq_of_returns fun stuck => ?_
    rw [stuck] at returned
    simp [Returned, Outcome.kind] at returned
  have rounded : rounds w (max enough fuel) r t = ⟨.ok p, u, l⟩ :=
    ends _ _ (Nat.le_max_left _ _) (Nat.le_max_left _ _)
  refine ⟨max enough fuel, ?_⟩
  rw [enroll_run, created, Act.follow_ok, Act.bind_run, rounded, Act.follow_ok, concluded]
  refine ⟨returned, ?_⟩
  rw [captures_append, captures_append, started, conclude_counts fuel r p u]
  omega

theorem givesUp_of_refused {r : Request} {s t : S} {e : String} {k : List (Usb.Entry S)}
    (refused : createEnrollment w s = ⟨.err e, t, k⟩) : GivesUp w r s := by
  have started : captures k = 0 := by
    have quiet := createEnrollment_counts (w := w) s
    rwa [refused] at quiet
  refine ⟨0, ?_⟩
  rw [enroll_run, refused, Act.follow_err]
  exact ⟨.error, Nat.le_trans (Nat.le_of_eq started) (Nat.zero_le _)⟩

/-- Scans that do not fail complete an enrolment within the stages that are left. -/
theorem completes_of_neverFails {r : Request} {stage : Nat} {key : UInt32} {template : Bytes}
    {s : S} (h : Scans.NeverFails w r stage key template s) (tid : Bytes) :
    Completes w r (maxStages - stage) ⟨key, template, tid, stage⟩ s := by
  induction h generalizing tid with
  | full full => exact .full full
  | @last stage key key' template records s t accepted done =>
    by_cases room : stage < maxStages
    · obtain ⟨left, hl⟩ : ∃ left, maxStages - stage = left + 1 := ⟨maxStages - stage - 1, by omega⟩
      have turn := Scans.enrollStep_accepted (p := ⟨key, template, tid, stage⟩) room accepted
      rw [if_neg (by simpa using done)] at turn
      rw [hl]
      exact .last turn
    · exact .full (Nat.not_lt.mp room)
  | @more stage key key' template records s t accepted undone _ ih =>
    by_cases room : stage < maxStages
    · have hl : maxStages - stage = (maxStages - (stage + 1)) + 1 := by omega
      have turn := Scans.enrollStep_accepted (p := ⟨key, template, tid, stage⟩) room accepted
      rw [if_pos (by simpa using undone)] at turn
      rw [hl]
      exact .more turn (ih records.tid)
    · exact .full (Nat.not_lt.mp room)

theorem endless_of_neverAccepts {r : Request} (c : Clock w r.mine) {s t : S} {rsp : Bytes}
    (created : Scans.Accepts w (0x69 :: Bytes.le32 1) s rsp t) (never : NeverAccepts w r) :
    ¬ GivesUp w r s := by
  rintro ⟨fuel, returned, _⟩
  have begun : Yields (createEnrollment w) s () t := Scans.exchange_yields.mpr ⟨rsp, created⟩
  obtain ⟨k, begun⟩ := Yields.iff_run.mp begun
  have noError := rounds_no_error c fuel t
  rw [enroll_run, begun, Act.follow_ok, Act.bind_run] at returned
  rcases ends : rounds w fuel r t with ⟨out, u, m⟩
  rw [ends] at returned noError
  cases out with
  | ok p => exact rounds_endless never ends
  | err e => exact noError rfl
  | panic => simp [Act.follow_panic, Returned, Outcome.kind] at returned
  | stuck => simp [Act.follow_stuck, Returned, Outcome.kind] at returned

/-- An enrolment whose sensor fails no scan gives up after `maxStages` of them at the latest; one
whose sensor carries none through never does. -/
theorem enroll_gives_up (r : Request) (c : Clock w r.mine) (s : S) :
    ((∀ rsp t, Scans.Accepts w (0x69 :: Bytes.le32 1) s rsp t →
        Scans.NeverFails w r 0 0 [] t) → GivesUp w r s) ∧
      ((∃ rsp t, Scans.Accepts w (0x69 :: Bytes.le32 1) s rsp t) →
        (∀ key template u key' records v,
          ¬ Scans.CarriesThrough w r key template u key' records v) → ¬ GivesUp w r s) := by
  constructor
  · intro h
    obtain ⟨e, t, _, ⟨_, created⟩ | ⟨_, err, refused⟩⟩ :=
      Usb.exchange_run w (0x69 :: Bytes.le32 1) "creating enrolment" s
    · obtain ⟨rsp, accepted⟩ := Scans.exchange_yields.mp (Yields.iff_run.mpr ⟨[e], created⟩)
      exact givesUp_of_completes c created (completes_of_neverFails (h rsp t accepted) [])
    · exact givesUp_of_refused refused
  · rintro ⟨rsp, t, created⟩ none
    refine endless_of_neverAccepts c created fun fuel key template key' records s t l run => ?_
    exact none key template s key' records t
      (Scans.round_reaches.mp ⟨fuel, Yields.iff_run.mpr ⟨l, run⟩⟩)

/-- A sensor that carries every scan through: one makes the template, the next the template id. -/
def willing : Usb.World Nat
  | .cmd (0x02 :: _), _ => (.ok [0, 0], 0)
  | .cmd (0x51 :: _), s => (.ok ([0, 0] ++ Bytes.le32 12 ++ List.replicate 12 0), s)
  | .cmd (0x68 :: _), s => (.ok ([0, 0] ++ Bytes.le32 1), s)
  | .cmd [0x6b], s => (.ok ([0, 0] ++ Bytes.le16 57 ++ ([0, 0, 1, 0] ++ List.replicate 53 5)), s)
  | .cmd (0x6b :: _), s =>
    (.ok ([0, 0] ++ Bytes.le16 57 ++ ([3, 0, 1, 0] ++ List.replicate 53 9)), s)
  | .cmd _, s => (.ok [0, 0], s)
  | .pollInterrupt, 0 => (.ok (some [0]), 1)
  | .pollInterrupt, 1 => (.ok (some [2]), 2)
  | .pollInterrupt, _ => (.ok (some [3, 0, 4]), 3)
  | .readData, s => (.ok [], s)
  | .now, s => (0, s)
  | .current, s => (1, s)
  | .onStage _ _, s => ((), s)

def willingClock : Clock willing smallRequest.mine where
  time := fun _ => 0
  reads := fun _ => rfl
  forward := fun _ _ => Nat.le_refl 0
  timeout := by
    intro s silent
    match s, silent with
    | 0, silent => cases silent
    | 1, silent => cases silent
    | _ + 2, silent => cases silent
  going := by
    intro op mine s
    exact Option.some.inj mine

/-- Two scans complete its enrolment. -/
theorem enroll_gives_up_willing : GivesUp willing smallRequest 0 := by
  have first : Yields (round willing 4 smallRequest 0 []) 0
      (1, .ok ⟨[], [0, 0, 1, 0] ++ List.replicate 53 5, []⟩) 3 := ⟨by decide +kernel, rfl⟩
  have second : Yields (round willing 4 smallRequest 1 ([0, 0, 1, 0] ++ List.replicate 53 5)) 3
      (1, .ok ⟨[], [], [9]⟩) 3 := ⟨by decide +kernel, rfl⟩
  refine (enroll_gives_up smallRequest willingClock 0).1 fun rsp t created => ?_
  obtain rfl : 0 = t := congrArg Prod.snd created.1
  refine .more ⟨3, Scans.round_reaches.mp ⟨4, first⟩, rfl⟩ rfl ?_
  exact .last ⟨3, Scans.round_reaches.mp ⟨4, second⟩, rfl⟩ (by decide)

/-- A sensor that begins an enrolment and refuses every capture. -/
def refusing : Usb.World Nat
  | .cmd (0x02 :: _), s => (.ok [0x01, 0x04], s + 1)
  | .cmd _, s => (.ok [0, 0], s + 1)
  | .pollInterrupt, s => (.ok none, s + 100)
  | .readData, s => (.ok [], s + 1)
  | .now, s => (s, s)
  | .current, s => (1, s)
  | .onStage _ _, s => ((), s)

def refusingClock : Clock refusing smallRequest.mine where
  time := id
  reads := fun _ => rfl
  forward := by
    intro q s
    unfold refusing
    split <;> simp
  timeout := fun s _ => Nat.lt_add_of_pos_right (by decide)
  going := by
    intro op mine s
    exact Option.some.inj mine

theorem refusing_neverAccepts (r : Request) : NeverAccepts refusing r := by
  intro fuel key template key' records s t l h
  obtain ⟨captured, u, k, m, tried, rest, _⟩ := Act.bind_eq_ok.mp h
  cases captured with
  | error e => cases rest
  | ok result =>
    obtain ⟨a, _, run⟩ | ⟨e, he, _⟩ := Act.attempt_eq_ok.mp tried
    · obtain ⟨cmd, _, _, _, built, rest', _⟩ := Act.bind_eq_ok.mp run
      obtain ⟨tail, rfl⟩ := Calibration.buildCmd02_head (congrArg Result.out built)
      obtain ⟨scanned, v, _, _, attempted, ends, _⟩ := Act.bind_eq_ok.mp rest'
      obtain ⟨_, _, _, _, _, lifted, _⟩ := Act.bind_eq_ok.mp ends
      obtain ⟨rfl, _, _⟩ := Act.lift_eq_ok.mp lifted
      obtain ⟨b, _, started⟩ | ⟨e, he, _⟩ := Act.attempt_eq_ok.mp attempted
      · obtain ⟨_, _, _, _, start, _, _⟩ := Act.bind_eq_ok.mp started
        cases start
      · cases he
    · cases he

/-- The enrolment asks for one scan after the other and never returns. -/
theorem enroll_never_gives_up : ¬ GivesUp refusing smallRequest 0 :=
  endless_of_neverAccepts refusingClock ⟨rfl, rfl⟩ (refusing_neverAccepts smallRequest)

end ValidityFprintd.EnrollRounds
