import ValidityFprintd.Anchors
import ValidityFprintd.CaptureTexts
import ValidityFprintd.EnrollStop
import ValidityFprintd.NoPanic

/-! A capture that is stopped, or that ends in any other way: it polls once more at most, it says
that it was stopped only where it was, and the last command it sends is the one that stops the
sensor. -/

namespace ValidityFprintd.CaptureStop
open Effect World Capture EnrollStop

variable {S : Type} {w : Usb.World S}

section Wait

def IsPoll (e : Usb.Entry S) : Bool := e.query = .pollInterrupt

def polls (log : List (Usb.Entry S)) : Nat := log.countP IsPoll

/-- From where `CURRENT` has moved past `op` on, there is one poll at most. -/
def StopHeard (c : Counter w) (op : Nat) (log : List (Usb.Entry S)) : Prop :=
  ∀ pre x post, log = pre ++ x :: post → op < c.value x.before → polls (x :: post) ≤ 1

theorem polls_append (l m : List (Usb.Entry S)) : polls (l ++ m) = polls l + polls m :=
  List.countP_append

theorem polls_bind {α β : Type} {x : Usb.Drv S α} {f : α → Usb.Drv S β} {n m : Nat}
    (hx : ∀ s, polls (x s).log ≤ n) (hf : ∀ a s, polls (f a s).log ≤ m) (s : S) :
    polls ((x >>= f) s).log ≤ n + m := by
  have first := hx s
  obtain ⟨a, t, l, run, ends⟩ | ⟨_, _, _, log, _⟩ := Act.bind_cases (x := x) (f := f) s
  · have second := hf a t
    rw [run] at first
    rw [ends, polls_append]
    exact Nat.add_le_add first second
  · rw [log]
    omega

theorem polls_blind {α : Type} {x : Usb.Drv S α} (blind : Asks (· ≠ .pollInterrupt) x) (s : S) :
    polls (x s).log = 0 :=
  List.countP_eq_zero.mpr fun e mem => mt of_decide_eq_true (blind s e mem)

theorem pollFinger_polls (deadline : Nat) (s : S) : polls (pollFinger w deadline s).log ≤ 1 := by
  have now : Asks (· ≠ .pollInterrupt) (Usb.now w) :=
    ask_asks (p := (· ≠ .pollInterrupt)) w (by decide)
  have poll : ∀ s, polls (Usb.pollInterrupt w s).log ≤ 1 := by
    refine polls_bind (n := 1) (m := 0) (fun _ => Nat.le_refl 1) fun b s => ?_
    exact Nat.le_of_eq (polls_blind (.lift b) s)
  refine polls_bind (n := 1) (m := 0) poll (fun b s => Nat.le_of_eq (polls_blind ?_ s)) s
  cases b with
  | none => exact .bind now fun t => .bind (.bailIf _ _) fun _ => .ret _
  | some b =>
    dsimp only
    split
    · exact .ret _
    · exact .ret _

theorem awaitFingerStep_run (op deadline : Nat) (s : S) :
    awaitFingerStep w (some op) deadline s =
      if (w .current s).1 = op then
        ⟨(pollFinger w deadline (w .current s).2).out,
          (pollFinger w deadline (w .current s).2).state,
          ⟨s, .current, (w .current s).1⟩ :: (pollFinger w deadline (w .current s).2).log⟩
      else ⟨.err "stopped", (w .current s).2, [⟨s, .current, (w .current s).1⟩]⟩ := by
  have step : awaitFingerStep w (some op) deadline s = Act.follow (stopped w (some op) s)
      fun isStopped => Act.bailIf (isStopped = true) "stopped" >>= fun _ =>
        pollFinger w deadline := rfl
  rw [step, stopped_run, Act.follow_ok, Act.bailIf_bind]
  by_cases going : (w .current s).1 = op
  · simp [going]
  · simp [going]

theorem awaitFingerStep_polls (op deadline : Nat) (s : S) :
    polls (awaitFingerStep w (some op) deadline s).log ≤ 1 := by
  rw [awaitFingerStep_run]
  split
  · exact pollFinger_polls deadline _
  · exact Nat.zero_le _

theorem awaitFingerStep_steps (op deadline : Nat) :
    Respects w.Steps (awaitFingerStep w (some op) deadline) :=
  .bind (Traffic.stopped_respects (ask_steps w _) _) fun _ => .bind (.bailIf _ _) fun _ =>
    Traffic.pollFinger_respects (Traffic.everyday_steps w).idle deadline

/-- Once `CURRENT` has moved on, the next look ends the wait. -/
theorem awaitFinger_stale (c : Counter w) {op fuel deadline : Nat} {s : S}
    (past : op < c.value s) : polls (awaitFinger w (some op) fuel deadline s).log = 0 := by
  cases fuel with
  | zero => rfl
  | succ fuel =>
    have other : (w .current s).1 ≠ op := by
      intro same
      have read : c.value s = op := (c.reads s).symm.trans same
      omega
    have turn := awaitFingerStep_run (w := w) op deadline s
    rw [if_neg other] at turn
    rw [awaitFinger, Act.loop, Act.bind_run, turn]
    rfl

theorem awaitFinger_heard (c : Counter w) (op fuel deadline : Nat) (s : S) :
    StopHeard c op (awaitFinger w (some op) fuel deadline s).log := by
  induction fuel generalizing s with
  | zero =>
    intro pre x post split
    cases pre <;> cases split
  | succ fuel ih =>
    intro pre x post split past
    have once := awaitFingerStep_polls (w := w) op deadline s
    have steps := awaitFingerStep_steps (w := w) op deadline s
    obtain ⟨_, t, l, run, ends⟩ | log :=
      Act.loop_cases (fun _ => awaitFingerStep w (some op) deadline) fuel () s
    · rw [run] at once steps
      rw [awaitFinger, ends] at split
      obtain ⟨mid, rfl, rest⟩ | ⟨mid, _, rest⟩ := List.append_eq_append_iff.mp split.symm
      · cases mid with
        | nil => exact ih t [] x post rest.symm past
        | cons e mid =>
          obtain rfl : x = e := (List.cons.inj rest).1
          -- the stop falls into this turn, and the next look is behind it
          obtain ⟨_, _, here⟩ := steps.split
          have later : c.value x.before ≤ c.value t := by
            cases here with
            | cons q here => exact c.mono (.cons q here)
          have none : polls (awaitFinger w (some op) fuel deadline t).log = 0 :=
            awaitFinger_stale c (Nat.lt_of_lt_of_le past later)
          rw [polls_append] at once
          rw [rest, polls_append]
          exact Nat.add_le_add (by omega) (Nat.le_of_eq none)
      · exact ih t mid x post rest past
    · rw [← log, ← awaitFinger, split, polls_append] at once
      omega

end Wait

section Phases

variable (w)

/-- A capture until it waits for the finger, and when it begins to. -/
def arm (fuel : Nat) (cmd : Bytes) : Usb.Drv S Nat := do
  Usb.exchange w cmd "starting capture"
  let start ← Usb.now w
  let b ← waitInt w fuel (start + 5000)
  Act.bailIf (b.head? ≠ some 0)
    ("unexpected interrupt while starting capture: " ++ Bytes.hex b)
  Usb.now w

/-- A capture from the finger on. -/
def report (fuel : Nat) : Usb.Drv S CaptureResult := do
  let touched ← Usb.now w
  awaitScan w fuel (touched + 15000)
  captureStatus w

theorem scan_phases (mine : Option Nat) (fuel : Nat) (cmd : Bytes) (fingerTimeout : Nat) :
    scan w mine fuel cmd fingerTimeout = arm w fuel cmd >>= fun armed =>
      awaitFinger w mine fuel (armed + fingerTimeout) >>= fun _ => report w fuel := by
  simp only [arm, Act.bind_assoc]
  rfl

theorem scan_log {w} {fuel armed : Nat} {cmd : Bytes} {s t : S} {l : List (Usb.Entry S)}
    (begun : arm w fuel cmd s = ⟨.ok armed, t, l⟩) (mine : Option Nat) (fingerTimeout : Nat) :
    ∃ rest, (scan w mine fuel cmd fingerTimeout s).log =
      l ++ (awaitFinger w mine fuel (armed + fingerTimeout) t).log ++ rest := by
  rw [scan_phases, Act.bind_run, begun, Act.follow_ok]
  obtain ⟨_, u, m, run, ends⟩ | ⟨_, _, _, same, _⟩ := Act.bind_cases
    (x := awaitFinger w mine fuel (armed + fingerTimeout)) (f := fun _ => report w fuel) t
  · refine ⟨(report w fuel u).log, ?_⟩
    rw [ends, run, ← List.append_assoc]
  · exact ⟨[], by rw [same, List.append_nil]⟩

end Phases

section Blame

/-- A look that found another operation going on. -/
def Superseded (c : Counter w) (mine : Option Nat) (e : Usb.Entry S) : Prop :=
  ∃ op, mine = some op ∧ e.query = .current ∧ c.value e.before ≠ op

/-- A transfer that failed with the text of a stopped capture. -/
def Mimics (e : Usb.Entry S) : Prop :=
  match e with
  | ⟨_, .cmd _, answer⟩ => answer = .error "stopped"
  | ⟨_, .pollInterrupt, answer⟩ => answer = .error "stopped"
  | _ => False

/-- What makes a capture say that it was stopped. -/
def Blamed (c : Counter w) (mine : Option Nat) (e : Usb.Entry S) : Prop :=
  Superseded c mine e ∨ Mimics e

/-- The call says that it was stopped only where it was. -/
abbrev Honest {α : Type} (c : Counter w) (mine : Option Nat) (x : Usb.Drv S α) : Prop :=
  Explains (Blamed c mine) (· ≠ "stopped") x

variable (c : Counter w) (mine : Option Nat)

theorem honest_bailIf {p : Prop} [Decidable p] {text : String} (h : Apart text) :
    Honest c mine (Act.bailIf p text : Usb.Drv S Unit) := .bailIf h.ne

theorem answer_honest {α : Type} {x : Usb.Drv S (Except String α)}
    (asks : ∀ s, ∃ answer t e, x s = ⟨.ok answer, t, [e]⟩ ∧
      (answer = .error "stopped" → Mimics e)) :
    Honest c mine (x >>= Act.lift) := by
  intro s text failed
  obtain ⟨answer, t, e, run, mimics⟩ := asks s
  rw [Act.bind_run, run, Act.follow_ok] at failed ⊢
  cases answer with
  | ok a => cases failed
  | error err =>
    cases failed
    by_cases apart : text ≠ "stopped"
    · exact .inl apart
    · have same : text = "stopped" := not_not.mp apart
      exact .inr ⟨e, List.mem_singleton_self e, .inr (mimics (congrArg _ same))⟩

theorem cmd_honest (out : Bytes) : Honest c mine (Usb.cmd w out) :=
  answer_honest c mine fun _ => ⟨_, _, _, rfl, id⟩

theorem pollInterrupt_honest : Honest c mine (Usb.pollInterrupt w) :=
  answer_honest c mine fun _ => ⟨_, _, _, rfl, id⟩

theorem now_honest : Honest c mine (Usb.now w) := by
  rintro s text ⟨⟩

theorem request_honest (out : Bytes) {text : String} (h : Apart text) :
    Honest c mine (Usb.request w out text) := by
  have named : ∀ err, Usb.context text err ≠ "stopped" := fun err => ((h.append _).append _).ne
  exact .bind (cmd_honest c mine out) fun rsp => .bind (.mapErr named _) fun _ => .ret rsp

theorem waitInt_honest (fuel deadline : Nat) : Honest c mine (waitInt w fuel deadline) := by
  refine .loop (fun _ => .bind (pollInterrupt_honest c mine) fun b => ?_) fuel ()
  cases b with
  | some b => exact .ret _
  | none =>
    exact .bind (now_honest c mine) fun t => .bind (honest_bailIf c mine (by decide)) fun _ =>
      .ret _

theorem arm_honest (fuel : Nat) (cmd : Bytes) : Honest c mine (arm w fuel cmd) := by
  refine .bind (.bind (request_honest c mine cmd (by decide)) fun _ => .ret ()) fun _ => ?_
  refine .bind (now_honest c mine) fun start => .bind (waitInt_honest c mine fuel _) fun b => ?_
  exact .bind (honest_bailIf c mine (.append (by decide) _)) fun _ => now_honest c mine

theorem pollFinger_honest (deadline : Nat) : Honest c mine (pollFinger w deadline) := by
  refine .bind (pollInterrupt_honest c mine) fun b => ?_
  cases b with
  | some b => exact .ite (.ret _) (.ret _)
  | none =>
    exact .bind (now_honest c mine) fun t => .bind (honest_bailIf c mine (by decide)) fun _ =>
      .ret _

theorem awaitFingerStep_honest (deadline : Nat) :
    Honest c mine (awaitFingerStep w mine deadline) := by
  cases mine with
  | none =>
    have never : awaitFingerStep w none deadline = pollFinger w deadline := rfl
    rw [never]
    exact pollFinger_honest c none deadline
  | some op =>
    intro s text failed
    rw [awaitFingerStep_run] at failed ⊢
    by_cases going : (w .current s).1 = op
    · rw [if_pos going] at failed ⊢
      refine (pollFinger_honest c (some op) deadline _ text failed).imp_right ?_
      rintro ⟨e, mem, blamed⟩
      exact ⟨e, List.mem_cons_of_mem _ mem, blamed⟩
    · rw [if_neg going]
      have other : c.value s ≠ op := by rwa [← c.reads s]
      exact .inr ⟨_, List.mem_singleton_self _, .inl ⟨op, rfl, rfl, other⟩⟩

theorem awaitFinger_honest (fuel deadline : Nat) :
    Honest c mine (awaitFinger w mine fuel deadline) :=
  .loop (fun _ => awaitFingerStep_honest c mine deadline) fuel ()

theorem report_honest (fuel : Nat) : Honest c mine (report w fuel) := by
  refine .bind (now_honest c mine) fun touched => .bind (.loop (fun _ => ?_) fuel ()) fun _ => ?_
  · refine .bind (waitInt_honest c mine fuel _) fun b => ?_
    refine .bind (honest_bailIf c mine (.append (by decide) _)) fun _ => ?_
    cases b[2]? with
    | some v => exact .ite (.ret _) (.ret _)
    | none => exact .ret _
  · exact .bind (request_honest c mine _ (by decide)) fun res => .ofOutcome fun text failed =>
      (parseCaptureStatus_apart _ text failed).ne

theorem scan_honest (fuel : Nat) (cmd : Bytes) (fingerTimeout : Nat) :
    Honest c mine (scan w mine fuel cmd fingerTimeout) := by
  rw [scan_phases]
  exact .bind (arm_honest c mine fuel cmd) fun _ => .bind (awaitFinger_honest c mine fuel _)
    fun _ => report_honest c mine fuel

end Blame

section Release

def sent (log : List (Usb.Entry S)) : List Bytes := log.filterMap fun e =>
  match e.query with
  | .cmd out => some out
  | _ => none

/-- The sensor is let go of once, and last. -/
def Released (log : List (Usb.Entry S)) : Prop :=
  ∃ front, sent log = front ++ [[0x04]] ∧ [0x04] ∉ front

theorem pollFinger_returned (deadline : Nat) : Within Returned (pollFinger w deadline) := by
  refine .bind (.bind (fun _ => .value) fun b => .lift .value .error b) fun b => ?_
  cases b with
  | some b => exact .ite (.ret .value _) (.ret .value _)
  | none =>
    exact .bind (fun _ => .value) fun t => .bind (.bailIf .value .error _ _) fun _ =>
      .ret .value _

theorem awaitFingerStep_returned (mine : Option Nat) (deadline : Nat) :
    Within Returned (awaitFingerStep w mine deadline) := by
  refine .bind ?_ fun _ => .bind (.bailIf .value .error _ _) fun _ => pollFinger_returned deadline
  cases mine with
  | none => exact .ret .value _
  | some op => exact .bind (fun _ => .value) fun _ => .ret .value _

theorem waitInt_calm (fuel deadline : Nat) : Within (· ≠ .panic) (waitInt w fuel deadline) :=
  (NoPanic.waitInt_waits w deadline).calm fuel

theorem arm_calm (fuel : Nat) (cmd : Bytes) : Within (· ≠ .panic) (arm w fuel cmd) := by
  refine .bind (NoPanic.calm_of_returned (Returns.exchange_returned w _ _)) fun _ => ?_
  refine .bind (ask_within (by decide) w _) fun start => .bind (waitInt_calm fuel _) fun b => ?_
  exact .bind (.bailIf (by decide) (by decide) _ _) fun _ => ask_within (by decide) w _

theorem awaitFinger_calm (mine : Option Nat) (fuel deadline : Nat) :
    Within (· ≠ .panic) (awaitFinger w mine fuel deadline) :=
  .loop (by decide) (by decide)
    (fun _ => NoPanic.calm_of_returned (awaitFingerStep_returned mine deadline)) fuel ()

theorem report_calm (fuel : Nat) : Within (· ≠ .panic) (report w fuel) := by
  refine .bind (ask_within (by decide) w _) fun touched => .bind ?_ fun _ =>
    NoPanic.calm_of_returned (captureStatus_returned w)
  refine .loop (by decide) (by decide) (fun _ => .bind (waitInt_calm fuel _) fun b => ?_) fuel ()
  refine .bind (.bailIf (by decide) (by decide) _ _) fun _ => ?_
  cases b[2]? with
  | some v => exact .ite (.ret (by decide) _) (.ret (by decide) _)
  | none => exact .ret (by decide) _

theorem scan_calm (mine : Option Nat) (fuel : Nat) (cmd : Bytes) (fingerTimeout : Nat) :
    Within (· ≠ .panic) (scan w mine fuel cmd fingerTimeout) := by
  rw [scan_phases]
  exact .bind (arm_calm fuel cmd) fun _ => .bind (awaitFinger_calm mine fuel _) fun _ =>
    report_calm fuel

theorem scan_stops_nothing (mine : Option Nat) (fuel : Nat) {cmd : Bytes} (fingerTimeout : Nat)
    (start : cmd ≠ [0x04]) : Asks (· ≠ .cmd [0x04]) (scan w mine fuel cmd fingerTimeout) := by
  have asks : ∀ q, q ≠ .cmd [0x04] →
      Traffic.Asking w (fun _ l _ => ∀ e ∈ l, e.query ≠ .cmd [0x04]) q := fun q other =>
    ask_asks (p := fun q => q ≠ Usb.Query.cmd [0x04]) w other
  exact Traffic.scan_respects (asks _ (by decide)) ⟨asks _ (by decide), asks _ (by decide)⟩
    (asks _ (by decide)) (asks _ (by simpa using start)) mine fuel fingerTimeout

theorem stop_run (w : Usb.World S) (s : S) : ∃ e t, e.query = .cmd [0x04] ∧
    Act.ignore (Usb.cmd w [0x04]) s = ⟨.ok (), t, [e]⟩ := by
  refine ⟨⟨s, .cmd [0x04], (w (.cmd [0x04]) s).1⟩, (w (.cmd [0x04]) s).2, rfl, ?_⟩
  have step : Act.ignore (Usb.cmd w [0x04]) s =
      Act.follow (Act.attempt (Usb.cmd w [0x04]) s) fun _ => Act.ret () := rfl
  have run : Usb.cmd w [0x04] s = Act.follow (w.ask (.cmd [0x04]) s) Act.lift := rfl
  rw [step, Act.attempt, run, ask_run, Act.follow_ok]
  cases (w (.cmd [0x04]) s).1 with
  | ok rsp => rfl
  | error err => rfl

/-- A capture ends as its scan did, and has stopped the sensor where that came to an end. -/
theorem capture_run {calib : Calibration} {mode : CaptureMode} {cfg : SensorConfig} {cmd : Bytes}
    (built : calib.buildCmd02 mode cfg = .ok cmd) (mine : Option Nat) (fuel fingerTimeout : Nat)
    (s : S) : ∃ back,
      (capture w mine fuel calib cfg mode fingerTimeout s).out =
        (scan w mine fuel cmd fingerTimeout s).out ∧
      (capture w mine fuel calib cfg mode fingerTimeout s).log =
        (scan w mine fuel cmd fingerTimeout s).log ++ back ∧
      ((scan w mine fuel cmd fingerTimeout s).out = .stuck ∨
        Returned (scan w mine fuel cmd fingerTimeout s).out.kind ∧
          ∃ e, e.query = .cmd [0x04] ∧ back = [e]) := by
  have step : capture w mine fuel calib cfg mode fingerTimeout s =
      (Act.ofOutcome (calib.buildCmd02 mode cfg) >>= fun cmd =>
        Act.attempt (scan w mine fuel cmd fingerTimeout) >>= fun result =>
          Act.ignore (Usb.cmd w [0x04]) >>= fun _ => Act.lift result) s := rfl
  have calm := scan_calm (w := w) mine fuel cmd fingerTimeout s
  rw [step, built, Act.ofOutcome_ok_bind, Act.bind_run, Act.attempt]
  generalize scan w mine fuel cmd fingerTimeout s = r at calm
  rcases r with ⟨out, t, l⟩
  obtain ⟨e, u, query, stop⟩ := stop_run w t
  cases out with
  | ok a =>
    refine ⟨[e], ?_⟩
    rw [Act.follow_ok, Act.bind_run, stop, Act.follow_ok]
    exact ⟨rfl, rfl, .inr ⟨.value, e, query, rfl⟩⟩
  | err text =>
    refine ⟨[e], ?_⟩
    rw [Act.follow_ok, Act.bind_run, stop, Act.follow_ok]
    exact ⟨rfl, rfl, .inr ⟨.error, e, query, rfl⟩⟩
  | panic => exact absurd rfl calm
  | stuck => exact ⟨[], rfl, (List.append_nil l).symm, .inl rfl⟩

theorem capture_err {calib : Calibration} {mode : CaptureMode} {cfg : SensorConfig} {text : String}
    {mine : Option Nat} {fuel fingerTimeout : Nat} {s : S}
    (failed : (capture w mine fuel calib cfg mode fingerTimeout s).out = .err text) :
    calib.buildCmd02 mode cfg = .err text ∨ ∃ cmd, calib.buildCmd02 mode cfg = .ok cmd := by
  cases built : calib.buildCmd02 mode cfg with
  | ok cmd => exact .inr ⟨cmd, rfl⟩
  | err e =>
    rw [capture, built] at failed
    cases failed
    exact .inl rfl
  | panic =>
    rw [capture, built] at failed
    cases failed
  | stuck =>
    rw [capture, built] at failed
    cases failed

theorem sent_append (l m : List (Usb.Entry S)) : sent (l ++ m) = sent l ++ sent m :=
  List.filterMap_append

theorem released_append {l : List (Usb.Entry S)} {e : Usb.Entry S}
    (kept : ∀ x ∈ l, x.query ≠ .cmd [0x04]) (last : e.query = .cmd [0x04]) :
    Released (l ++ [e]) := by
  refine ⟨sent l, ?_, ?_⟩
  · rw [sent_append]
    simp [sent, last]
  · intro mem
    obtain ⟨x, found, out⟩ := List.mem_filterMap.mp mem
    have other := kept x found
    split at out
    · rename_i query
      rw [query, Option.some.inj out] at other
      exact other rfl
    · cases out

end Release

section Claim

/-- What is promised of a run of `capture` that a world answers. -/
structure LetsGo (c : Counter w) (mine : Option Nat) (fuel : Nat) (calib : Calibration)
    (cfg : SensorConfig) (mode : CaptureMode) (fingerTimeout : Nat) (s : S) : Prop where
  /-- The wait for the finger polls once more at most when its operation is over. -/
  heard : ∀ cmd armed t l, calib.buildCmd02 mode cfg = .ok cmd →
    arm w fuel cmd s = ⟨.ok armed, t, l⟩ → ∃ back,
      (capture w mine fuel calib cfg mode fingerTimeout s).log =
        l ++ (awaitFinger w mine fuel (armed + fingerTimeout) t).log ++ back ∧
      ∀ op, mine = some op →
        StopHeard c op (awaitFinger w mine fuel (armed + fingerTimeout) t).log
  honest : (capture w mine fuel calib cfg mode fingerTimeout s).out = .err "stopped" →
    ∃ e ∈ (capture w mine fuel calib cfg mode fingerTimeout s).log, Blamed c mine e
  /-- A thread that does nobody's operation, or whose operation goes on to the end, is not
  stopped. -/
  current : (∀ op, mine = some op → op ≤ c.value s ∧
      c.value (capture w mine fuel calib cfg mode fingerTimeout s).state = op) →
    (∀ e ∈ (capture w mine fuel calib cfg mode fingerTimeout s).log, ¬ Mimics e) →
    (capture w mine fuel calib cfg mode fingerTimeout s).out ≠ .err "stopped"
  released : ∀ cmd, calib.buildCmd02 mode cfg = .ok cmd →
    (capture w mine fuel calib cfg mode fingerTimeout s).out = .stuck ∨
      Returned (capture w mine fuel calib cfg mode fingerTimeout s).out.kind ∧
        Released (capture w mine fuel calib cfg mode fingerTimeout s).log

theorem capture_honest (c : Counter w) {mine : Option Nat} {fuel : Nat} {calib : Calibration}
    {cfg : SensorConfig} {mode : CaptureMode} {fingerTimeout : Nat} {s : S}
    (failed : (capture w mine fuel calib cfg mode fingerTimeout s).out = .err "stopped") :
    ∃ e ∈ (capture w mine fuel calib cfg mode fingerTimeout s).log, Blamed c mine e := by
  obtain unbuilt | ⟨cmd, built⟩ := capture_err failed
  · exact absurd rfl (buildCmd02_apart calib mode cfg _ unbuilt).ne
  · obtain ⟨back, out, log, _⟩ := capture_run (w := w) built mine fuel fingerTimeout s
    rw [out] at failed
    have scanned := (scan_honest c mine fuel cmd fingerTimeout s _ failed).resolve_left
    obtain ⟨e, mem, blamed⟩ := scanned (absurd rfl)
    exact ⟨e, log ▸ List.mem_append_left back mem, blamed⟩

/-- A stopped capture lets go of the sensor, as does every other one. -/
theorem capture_lets_go (c : Counter w) (mine : Option Nat) (fuel : Nat) (calib : Calibration)
    (cfg : SensorConfig) (mode : CaptureMode) (fingerTimeout : Nat) (s : S) :
    LetsGo c mine fuel calib cfg mode fingerTimeout s where
  heard cmd armed t l built begun := by
    obtain ⟨back, _, log, _⟩ := capture_run (w := w) built mine fuel fingerTimeout s
    obtain ⟨rest, scanned⟩ := scan_log begun mine fingerTimeout
    refine ⟨rest ++ back, by rw [log, scanned, List.append_assoc], ?_⟩
    rintro op rfl
    exact awaitFinger_heard c op fuel _ t
  honest := capture_honest c
  current still genuine failed := by
    obtain ⟨e, mem, ⟨op, rfl, _, other⟩ | mimics⟩ := capture_honest c failed
    · obtain ⟨begun, ends⟩ := still op rfl
      have steps : w.Steps s _ _ := Traffic.capture_respects (Traffic.everyday_steps w)
        (ask_steps w _) (fun _ => ask_steps w _) (some op) fuel calib cfg mode fingerTimeout s
      have between := c.between steps mem
      omega
    · exact genuine e mem mimics
  released cmd built := by
    obtain ⟨rest, rfl⟩ := Calibration.buildCmd02_head built
    obtain ⟨back, out, log, ends⟩ := capture_run (w := w) built mine fuel fingerTimeout s
    rw [out, log]
    refine ends.imp_right ?_
    rintro ⟨returned, e, last, rfl⟩
    refine ⟨returned, released_append (fun x mem => ?_) last⟩
    exact scan_stops_nothing mine fuel fingerTimeout (by simp) s x mem

def startConfig : SensorConfig :=
  { Calibration.tinyConfig with
    captureProg := Timeslot.mergeChunks [⟨Timeslot.chunkTimeslotTable, Calibration.tinyTable⟩] }

/-- A sensor whose operation `5` has replaced the one of the thread that captures. -/
def overtaken : Usb.World Unit
  | .cmd _, s => (.ok [0, 0], s)
  | .pollInterrupt, s => (.ok (some [0]), s)
  | .readData, s => (.ok [], s)
  | .now, s => (0, s)
  | .current, s => (5, s)
  | .onStage _ _, s => ((), s)

def overtakenCounter : Counter overtaken where
  value _ := 5
  reads _ := rfl
  forward _ _ := Nat.le_refl 5

/-- It is armed, looks at the stop flag, and stops. -/
theorem capture_lets_go_overtaken : ∃ cmd,
    Calibration.buildCmd02 ⟨[]⟩ .identify startConfig = .ok cmd ∧
      (capture overtaken (some 4) 1 ⟨[]⟩ startConfig .identify 0 ()).out =
        .err "stopped" ∧
      Released (capture overtaken (some 4) 1 ⟨[]⟩ startConfig .identify 0 ()).log := by
  obtain ⟨cmd, built⟩ : ∃ cmd, Calibration.buildCmd02 ⟨[]⟩ .identify startConfig =
      .ok cmd := ⟨_, rfl⟩
  have out : (capture overtaken (some 4) 1 ⟨[]⟩ startConfig .identify 0 ()).out =
      .err "stopped" := rfl
  refine ⟨cmd, built, out, ?_⟩
  have ends := (capture_lets_go overtakenCounter (some 4) 1 ⟨[]⟩ startConfig .identify 0
    ()).released cmd built
  rw [out] at ends
  exact (ends.resolve_left (by simp)).2

end Claim


end ValidityFprintd.CaptureStop
