import ValidityFprintd.Traffic

/-! An enrolment that is stopped. The stop flag is looked at before each poll for a finger
and after a round that failed, and nowhere between the last finger and the first change to
the database: a stop that lands there comes too late. -/

namespace ValidityFprintd.EnrollStop
open Effect World Capture Enroll Traffic Db

variable {S : Type} {w : Usb.World S}

/-- `CURRENT` as a part of the world's state: a look reads it, and it only moves on. -/
structure Counter (w : Usb.World S) where
  value : S → Nat
  reads : ∀ s, (w .current s).1 = value s
  forward : ∀ q s, value s ≤ value (w q s).2

theorem Counter.mono (c : Counter w) {s u : S} {l : List (Usb.Entry S)} (h : w.Steps s l u) :
    c.value s ≤ c.value u := by
  induction h with
  | nil s => exact Nat.le_refl _
  | cons q _ ih => exact Nat.le_trans (c.forward q _) ih

theorem Counter.order (c : Counter w) {s u : S} {l m n : List (Usb.Entry S)}
    {x e : Usb.Entry S} (h : w.Steps s (l ++ x :: (m ++ e :: n)) u) :
    c.value x.before ≤ c.value e.before := by
  obtain ⟨t, _, steps⟩ := h.split
  have before : w.Steps t (x :: m) e.before := steps.before
  cases before with
  | cons q rest => exact Nat.le_trans (c.forward q _) (c.mono rest)

theorem Counter.between (c : Counter w) {s u : S} {l : List (Usb.Entry S)} {e : Usb.Entry S}
    (steps : w.Steps s l u) (mem : e ∈ l) :
    c.value s ≤ c.value e.before ∧ c.value e.before ≤ c.value u := by
  obtain ⟨front, back, rfl⟩ := List.append_of_mem mem
  refine ⟨c.mono steps.before, ?_⟩
  obtain ⟨t, _, rest⟩ := steps.split
  cases rest with
  | cons q rest => exact c.mono (.cons q rest)

def Looks : Usb.Query → Bool
  | .current => true
  | _ => false

/-- Once `CURRENT` has moved past `op` before any change was sent, none is ever sent. -/
def StopRespected (c : Counter w) (op : Nat) (log : List (Usb.Entry S)) : Prop :=
  ∀ pre x post, log = pre ++ x :: post → (∀ y ∈ pre, Changes y.query = false) →
    op < c.value x.before → ∀ y ∈ log, Changes y.query = false

def lastLook (seen : Option (Usb.Entry S)) : List (Usb.Entry S) → Option (Usb.Entry S)
  | [] => seen
  | e :: l => lastLook (if Looks e.query then some e else seen) l

/-- The first change of a log, with the last look at the stop flag before it. -/
def firstChange (seen : Option (Usb.Entry S)) :
    List (Usb.Entry S) → Option (Option (Usb.Entry S) × Usb.Entry S)
  | [] => none
  | e :: l =>
    if Changes e.query then some (seen, e)
    else firstChange (if Looks e.query then some e else seen) l

/-- `CURRENT` stays where the last look before the first change saw it. -/
def NoLateStop (c : Counter w) (log : List (Usb.Entry S)) : Prop :=
  ∀ look e, firstChange none log = some (some look, e) → c.value look.before = c.value e.before

theorem firstChange_append (seen : Option (Usb.Entry S)) {l m : List (Usb.Entry S)}
    (hl : ∀ y ∈ l, Changes y.query = false) :
    firstChange seen (l ++ m) = firstChange (lastLook seen l) m := by
  induction l generalizing seen with
  | nil => rfl
  | cons e l ih =>
    have first := hl e (by simp)
    have rest := ih (if Looks e.query then some e else seen) fun y hy => hl y (by simp [hy])
    simp only [List.cons_append, firstChange, first, Bool.false_eq_true, if_false, rest, lastLook]

theorem lastLook_append (seen : Option (Usb.Entry S)) (l m : List (Usb.Entry S)) :
    lastLook seen (l ++ m) = lastLook (lastLook seen l) m := by
  induction l generalizing seen with
  | nil => rfl
  | cons e l ih => exact ih _

theorem lastLook_blind (seen : Option (Usb.Entry S)) {l : List (Usb.Entry S)}
    (hl : ∀ y ∈ l, Looks y.query = false) : lastLook seen l = seen := by
  induction l generalizing seen with
  | nil => rfl
  | cons e l ih =>
    have first := hl e (by simp)
    rw [lastLook, first, if_neg (by decide), ih _ fun y hy => hl y (by simp [hy])]

theorem firstChange_split {seen o : Option (Usb.Entry S)} {e : Usb.Entry S}
    {l : List (Usb.Entry S)} (h : firstChange seen l = some (o, e)) :
    ∃ pre post, l = pre ++ e :: post ∧ (∀ y ∈ pre, Changes y.query = false) ∧
      Changes e.query = true ∧ o = lastLook seen pre := by
  induction l generalizing seen with
  | nil => cases h
  | cons a l ih =>
    rw [firstChange] at h
    by_cases change : Changes a.query = true
    · rw [if_pos change] at h
      cases h
      exact ⟨[], l, rfl, by simp, change, rfl⟩
    · rw [if_neg change] at h
      obtain ⟨pre, post, rfl, quiet, he, ho⟩ := ih h
      refine ⟨a :: pre, post, rfl, ?_, he, ho⟩
      intro y hy
      cases List.mem_cons.mp hy with
      | inl hy =>
        rw [hy]
        simpa using change
      | inr hy => exact quiet y hy

theorem exists_firstChange (seen : Option (Usb.Entry S)) {l : List (Usb.Entry S)}
    {y : Usb.Entry S} (hy : y ∈ l) (change : Changes y.query = true) :
    ∃ o e, firstChange seen l = some (o, e) := by
  induction l generalizing seen with
  | nil => cases hy
  | cons a l ih =>
    rw [firstChange]
    by_cases first : Changes a.query = true
    · exact ⟨seen, a, by rw [if_pos first]⟩
    · rw [if_neg first]
      cases List.mem_cons.mp hy with
      | inl hy => exact absurd (hy ▸ change) first
      | inr hy => exact ih _ hy

/-- The claim about stops, read at the first change. -/
theorem stopRespected_iff (c : Counter w) {op : Nat} {s u : S} {log : List (Usb.Entry S)}
    (steps : w.Steps s log u) : StopRespected c op log ↔
      ∀ o e, firstChange none log = some (o, e) → c.value e.before ≤ op := by
  constructor
  · intro h o e first
    obtain ⟨pre, post, rfl, quiet, change, _⟩ := firstChange_split first
    by_contra late
    have never := h pre e post rfl quiet (by omega) e (by simp)
    rw [change] at never
    cases never
  · intro h pre x post hlog quiet late y hy
    by_contra change
    obtain ⟨o, e, first⟩ := exists_firstChange none hy (by simpa using change)
    have early := h o e first
    obtain ⟨pre', post', hlog', quiet', change', _⟩ := firstChange_split first
    -- `x` is asked no later than `e`, the first change
    have order : c.value x.before ≤ c.value e.before := by
      have split : pre ++ x :: post = pre' ++ e :: post' := hlog ▸ hlog'
      obtain ⟨mid, hpre, hrest⟩ | ⟨mid, hpre, hrest⟩ := List.append_eq_append_iff.mp split
      · cases mid with
        | nil =>
          obtain rfl : x = e := by simpa using (List.cons.inj hrest).1
          exact Nat.le_refl _
        | cons z mid =>
          obtain rfl : x = z := (List.cons.inj hrest).1
          rw [hlog', hpre, List.append_assoc] at steps
          exact c.order (l := pre) (m := mid) steps
      · cases mid with
        | nil =>
          obtain rfl : e = x := by simpa using (List.cons.inj hrest).1
          exact Nat.le_refl _
        | cons z mid =>
          obtain rfl : e = z := (List.cons.inj hrest).1
          have never := quiet e (by rw [hpre]; simp)
          rw [change'] at never
          cases never
    omega

/-! Where an enrolment looks: the last thing a completed round saw of the flag is that it
was not stopped. -/

def Looked (op : Nat) (l : List (Usb.Entry S)) : Prop :=
  ∃ front t back, l = front ++ ⟨t, .current, op⟩ :: back ∧ ∀ y ∈ back, Looks y.query = false

theorem Looked.after {op : Nat} {l : List (Usb.Entry S)} (h : Looked op l)
    (m : List (Usb.Entry S)) : Looked op (m ++ l) := by
  obtain ⟨front, t, back, rfl, blind⟩ := h
  exact ⟨m ++ front, t, back, by simp, blind⟩

theorem Looked.before {op : Nat} {l m : List (Usb.Entry S)} (h : Looked op l)
    (hm : ∀ y ∈ m, Looks y.query = false) : Looked op (l ++ m) := by
  obtain ⟨front, t, back, rfl, blind⟩ := h
  refine ⟨front, t, back ++ m, by simp, fun y hy => ?_⟩
  cases List.mem_append.mp hy with
  | inl hy => exact blind y hy
  | inr hy => exact hm y hy

/-- A call that returns has last looked at the flag before going on, and seen `op`. -/
def LooksLast {α : Type} (op : Nat) (x : Usb.Drv S α) : Prop :=
  ∀ s a t l, x s = ⟨.ok a, t, l⟩ → Looked op l

abbrev Blind {α : Type} (x : Usb.Drv S α) : Prop := Asks (fun q => Looks q = false) x

abbrev Unchanging {α : Type} (x : Usb.Drv S α) : Prop := Asks (fun q => Changes q = false) x

theorem LooksLast.bind_left {α β : Type} {op : Nat} {x : Usb.Drv S α} {f : α → Usb.Drv S β}
    (hx : LooksLast op x) (hf : ∀ a, Blind (f a)) : LooksLast op (x >>= f) := by
  intro s b u k h
  obtain ⟨a, t, l, m, run, rest, rfl⟩ := Act.bind_eq_ok.mp h
  refine (hx s a t l run).before fun y hy => hf a t y ?_
  rw [rest]
  exact hy

theorem LooksLast.bind_right {α β : Type} {op : Nat} {x : Usb.Drv S α} {f : α → Usb.Drv S β}
    (hf : ∀ a, LooksLast op (f a)) : LooksLast op (x >>= f) := by
  intro s b u k h
  obtain ⟨a, t, l, m, _, rest, rfl⟩ := Act.bind_eq_ok.mp h
  exact (hf a t b u m rest).after l

theorem blind_everyday (w : Usb.World S) :
    Everyday w fun _ l _ => ∀ y ∈ l, Looks y.query = false :=
  everyday_asks w (p := fun q => Looks q = false) rfl rfl (fun _ _ => rfl) fun _ _ _ _ _ => rfl

theorem ask_blind {q : Usb.Query} (h : Looks q = false) :
    Asking w (fun _ l _ => ∀ y ∈ l, Looks y.query = false) q :=
  ask_asks (p := fun q => Looks q = false) w h

theorem ask_unchanging {q : Usb.Query} (h : Changes q = false) :
    Asking w (fun _ l _ => ∀ y ∈ l, Changes y.query = false) q :=
  ask_asks (p := fun q => Changes q = false) w h

theorem unchanging_everyday (w : Usb.World S) :
    Everyday w fun _ l _ => ∀ y ∈ l, Changes y.query = false := by
  refine everyday_asks w (p := fun q => Changes q = false) rfl rfl (fun _ _ => rfl)
    fun c rest _ h47 h48 => ?_
  simp [Changes, h47, h48]

theorem stopped_false {op : Nat} {s t : S} {l : List (Usb.Entry S)}
    (h : stopped w (some op) s = ⟨.ok false, t, l⟩) : l = [⟨s, .current, op⟩] := by
  rw [stopped_run] at h
  obtain ⟨going, _, log⟩ := Result.mk.inj h
  have same : (w .current s).1 = op := by simpa using Outcome.ok.inj going
  rw [← log, same]

theorem awaitFinger_looks (op fuel deadline : Nat) :
    LooksLast op (awaitFinger w (some op) fuel deadline) := by
  intro s a t l h
  obtain ⟨_, s', front, last, _, turn, rfl⟩ :=
    Act.loop_eq_ok (I := fun _ => True) (fun _ _ _ _ _ _ _ => trivial) trivial h
  refine Looked.after ?_ front
  obtain ⟨isStopped, u, k, m, look, rest, rfl⟩ := Act.bind_eq_ok.mp turn
  rw [Act.bailIf_bind] at rest
  by_cases hs : isStopped = true
  · rw [if_pos hs] at rest
    cases rest
  · rw [if_neg hs] at rest
    obtain rfl : isStopped = false := by simpa using hs
    refine Looked.before (l := k) ⟨[], s', [], ?_, by simp⟩ ?_
    · exact stopped_false look
    · intro y hy
      exact pollFinger_respects (blind_everyday w).idle deadline u y (by rw [rest]; exact hy)

theorem capture_looks {op : Nat} (fuel : Nat) (calib : Calibration) (cfg : SensorConfig)
    (mode : CaptureMode) (fingerTimeout : Nat) :
    LooksLast op (capture w (some op) fuel calib cfg mode fingerTimeout) := by
  have scanned : ∀ cmd, LooksLast op (scan w (some op) fuel cmd fingerTimeout) := by
    intro cmd
    refine .bind_right fun _ => .bind_right fun _ => .bind_right fun _ => .bind_right fun _ => ?_
    refine .bind_right fun _ => .bind_left (awaitFinger_looks op fuel _) fun _ => ?_
    exact .bind (blind_everyday w).now fun touched =>
      scanned_respects (blind_everyday w).status (blind_everyday w).idle fuel touched
  refine .bind_right fun cmd s a t l h => ?_
  obtain ⟨result, u, k, m, tried, rest, rfl⟩ := Act.bind_eq_ok.mp h
  obtain ⟨_, v, k', m', stop, ends, rfl⟩ := Act.bind_eq_ok.mp rest
  obtain ⟨rfl, rfl, rfl⟩ := Act.lift_eq_ok.mp ends
  obtain ⟨b, hb, run⟩ | ⟨e, he, _⟩ := Act.attempt_eq_ok.mp tried
  · refine (scanned cmd s b u k run).before ?_
    have blind : Blind (Act.ignore (Usb.cmd w [0x04])) :=
      .ignore (cmd_respects ((blind_everyday w).cmd _ _ (by decide) (by decide) (by decide)))
    intro y hy
    refine blind u y ?_
    rw [stop]
    simpa using hy
  · cases he

/-- A round that completes the enrolment saw it going on, behind any stop before. -/
theorem round_looks {op : Nat} {fuel : Nat} {r : Request} (mine : r.mine = some op)
    {key key' : UInt32} {template : Bytes} {records : Records} {s t : S}
    {l : List (Usb.Entry S)}
    (h : round w fuel r key template s = ⟨.ok (key', .ok records), t, l⟩) : Looked op l := by
  obtain ⟨captured, u, k, m, tried, rest, rfl⟩ := Act.bind_eq_ok.mp h
  cases captured with
  | error e => cases rest
  | ok result =>
    obtain ⟨b, hb, run⟩ | ⟨e, he, _⟩ := Act.attempt_eq_ok.mp tried
    · rw [mine] at run
      refine (capture_looks fuel r.calib r.cfg .enroll _ s b u k run).before fun y hy => ?_
      refine updates_respects (blind_everyday w) fuel r key template u y ?_
      have log := congrArg Result.log rest
      rw [show (updates w fuel r key template u).log = m from log]
      exact hy
    · cases he

/-- A turn that goes on has no template id, and one that ends the rounds with one has
looked at the flag in its scan. -/
theorem enrollStep_looked {op fuel : Nat} {r : Request} (mine : r.mine = some op)
    {p : Progress} (hp : p.tid = []) {s t : S} {next : Progress ⊕ Progress}
    {l : List (Usb.Entry S)} (h : enrollStep w fuel r p s = ⟨.ok next, t, l⟩) :
    match next with
    | .inl p' => p'.tid = []
    | .inr p' => p'.tid ≠ [] → Looked op l := by
  unfold enrollStep at h
  by_cases room : p.stage < maxStages
  · rw [if_pos room] at h
    obtain ⟨_, s1, k1, m1, _, h1, rfl⟩ := Act.bind_eq_ok.mp h
    obtain ⟨⟨key, result⟩, s2, k2, m2, turn, h2, rfl⟩ := Act.bind_eq_ok.mp h1
    obtain ⟨_, s3, k3, m3, ended, h3, rfl⟩ := Act.bind_eq_ok.mp h2
    cases result with
    | error e =>
      obtain ⟨isStopped, s4, k4, m4, _, h4, rfl⟩ := Act.bind_eq_ok.mp h3
      cases isStopped with
      | true =>
        obtain ⟨_, s5, k5, m5, _, h5, rfl⟩ := Act.bind_eq_ok.mp h4
        cases h5
      | false =>
        obtain ⟨_, s5, k5, m5, _, h5, rfl⟩ := Act.bind_eq_ok.mp h4
        cases h5
        exact hp
    | ok records =>
      obtain ⟨_, s4, k4, m4, told, h4, rfl⟩ := Act.bind_eq_ok.mp h3
      have blind3 : ∀ y ∈ k3, Looks y.query = false := by
        intro y hy
        have ends : Blind (Act.ignore (enrollmentUpdateEnd w)) :=
          .ignore (enrollmentUpdateEnd_respects (blind_everyday w))
        exact ends s2 y (by rw [ended]; exact hy)
      have blind4 : ∀ y ∈ k4, Looks y.query = false := by
        intro y hy
        exact (blind_everyday w).onStage (p.stage + 1) none s3 y (by rw [told]; exact hy)
      rw [Act.ite_run] at h4
      by_cases more : records.tid.isEmpty = true
      · rw [if_pos more] at h4
        cases h4
        simpa using more
      · rw [if_neg more] at h4
        cases h4
        intro _
        have looked := round_looks mine turn
        refine Looked.after (looked.before fun y hy => ?_) k1
        simp only [List.append_nil, List.mem_append] at hy
        cases hy with
        | inl hy => exact blind3 y hy
        | inr hy => exact blind4 y hy
  · rw [if_neg room] at h
    cases h
    exact fun complete => absurd hp complete

theorem rounds_looked {op fuel : Nat} {r : Request} (mine : r.mine = some op) {s t : S}
    {p : Progress} {l : List (Usb.Entry S)} (h : rounds w fuel r s = ⟨.ok p, t, l⟩)
    (complete : p.tid ≠ []) : Looked op l := by
  have keeps : ∀ b b' s t l, b.tid = [] → enrollStep w fuel r b s = ⟨.ok (.inl b'), t, l⟩ →
      b'.tid = [] := fun b b' s t l hb turn => enrollStep_looked mine hb turn
  obtain ⟨b, s', front, last, hb, turn, rfl⟩ :=
    Act.loop_eq_ok (I := fun b => b.tid = []) keeps rfl h
  have looked : p.tid ≠ [] → Looked op last := enrollStep_looked mine hb turn
  exact (looked complete).after front

/-- The log of an enrolment: scans that change nothing, then, only if they completed, a
store that does not look at the flag. -/
theorem enroll_log (w : Usb.World S) {op : Nat} (fuel : Nat) {r : Request}
    (mine : r.mine = some op) (s : S) :
    ∃ front back, (enroll w fuel r s).log = front ++ back ∧
      (∀ y ∈ front, Changes y.query = false) ∧ (∀ y ∈ back, Looks y.query = false) ∧
      (back ≠ [] → Looked op front) := by
  have quiet : Unchanging (createEnrollment w >>= fun _ => rounds w fuel r) :=
    .bind (createEnrollment_respects (unchanging_everyday w)) fun _ =>
      rounds_respects (unchanging_everyday w) (ask_unchanging rfl)
        (fun _ => ask_unchanging rfl) fuel r
  have split : enroll w fuel r = (createEnrollment w >>= fun _ => rounds w fuel r) >>=
      conclude w fuel r := by
    rw [Act.bind_assoc]
    rfl
  rw [split]
  obtain ⟨p, t, l, run, ends⟩ | ⟨_, _, _, log, _⟩ := Act.bind_cases
    (x := createEnrollment w >>= fun _ => rounds w fuel r) (f := conclude w fuel r) s
  · have quiet' : ∀ y ∈ l, Changes y.query = false := by
      have entries := quiet s
      rw [run] at entries
      exact entries
    rw [ends]
    by_cases complete : p.tid = []
    · refine ⟨l ++ (conclude w fuel r p t).log, [], by simp, ?_, by simp, by simp⟩
      have glow : Unchanging (conclude w fuel r p) := by
        intro s y hy
        have ends : Unchanging (Act.ignore (glowEndScan w)) :=
          .ignore (glowEndScan_respects (unchanging_everyday w))
        have short : conclude w fuel r p = Act.ignore (glowEndScan w) >>= fun _ =>
            Act.fail s!"enrolment did not complete after {maxStages} scans" := by
          simp only [conclude, complete, List.isEmpty_nil, Act.bailIf, if_true]
          rfl
        rw [short] at hy
        exact Emits.bind ends (fun _ => .fail _) s y hy
      intro y hy
      cases List.mem_append.mp hy with
      | inl hy => exact quiet' y hy
      | inr hy => exact glow t y hy
    · have blind : Blind (conclude w fuel r p) := by
        refine .bind (.ignore (glowEndScan_respects (blind_everyday w))) fun _ => ?_
        refine .bind (.bailIf _ _) fun _ => ?_
        exact store_respects (blind_everyday w) (fun _ => ask_blind rfl) (fun _ => ask_blind rfl)
          fuel r p
      refine ⟨l, _, rfl, quiet', blind t, fun _ => ?_⟩
      obtain ⟨_, u, k, m, _, turns, rfl⟩ := Act.bind_eq_ok.mp run
      exact (rounds_looked mine turns complete).after k
  · exact ⟨_, [], by rw [log, List.append_nil], quiet s, by simp, by simp⟩

theorem enroll_steps (w : Usb.World S) (fuel : Nat) (r : Request) :
    Respects w.Steps (enroll w fuel r) :=
  enroll_respects (everyday_steps w) (ask_steps w _) (fun _ => ask_steps w _)
    (fun _ => ask_steps w _) (fun _ => ask_steps w _) fuel r

/-- A stopped enrolment changes nothing exactly when no stop lands between its last look at
the flag and its first change. -/
theorem enroll_stops (c : Counter w) (op fuel : Nat) (r : Request) (s : S) :
    StopRespected c op (enroll w fuel { r with mine := some op } s).log ↔
      NoLateStop c (enroll w fuel { r with mine := some op } s).log := by
  have steps := enroll_steps w fuel { r with mine := some op } s
  rw [stopRespected_iff c steps]
  have mine : ({ r with mine := some op } : Request).mine = some op := rfl
  obtain ⟨front, back, log, quiet, blind, looked⟩ := enroll_log w fuel mine s
  rw [log] at steps ⊢
  -- at the first change the last look is the one of the scan that completed
  have last : ∀ o e, firstChange none (front ++ back) = some (o, e) →
      ∃ t, o = some ⟨t, .current, op⟩ ∧ c.value t = op ∧ c.value t ≤ c.value e.before := by
    intro o e first
    rw [firstChange_append none quiet] at first
    obtain ⟨pre, post, hback, _, _, rfl⟩ := firstChange_split first
    have started : back ≠ [] := by
      rw [hback]
      simp
    obtain ⟨before, t, after, hfront, blind'⟩ := looked started
    have quietly : ∀ y ∈ pre, Looks y.query = false :=
      fun y hy => blind y (by rw [hback]; simp [hy])
    rw [hfront, hback, List.append_assoc, List.cons_append, ← List.append_assoc after] at steps
    have saw : op = (w .current t).1 := steps.answer
    refine ⟨t, ?_, by rw [saw, c.reads], c.order steps⟩
    rw [lastLook_blind _ quietly, hfront, lastLook_append, lastLook, lastLook_blind _ blind']
    rfl
  constructor
  · intro h look e first
    obtain ⟨t, ho, ht, order⟩ := last _ e first
    have early := h _ e first
    cases ho
    show c.value t = _
    omega
  · intro h o e first
    obtain ⟨t, rfl, ht, order⟩ := last o e first
    have same : c.value t = _ := h _ e first
    omega

/-- A sensor that is content with the first scan, on a database without storage, and a
client that stops the enrolment as soon as it hears so: `CURRENT` and the polls so far. -/
def lateStop : Usb.World (Nat × Nat)
  | .cmd (0x51 :: _), s => (.ok ([0, 0] ++ Bytes.le32 12 ++ List.replicate 12 0), s)
  | .cmd (0x68 :: _), s => (.ok (List.replicate 6 0), s)
  | .cmd (0x6b :: _), s =>
    (.ok ([0, 0] ++ Bytes.le16 57 ++ [3, 0, 1, 0] ++ List.replicate 52 0 ++ [7]), s)
  | .cmd (0x4b :: _), s => (.ok [0xb3, 0x04], s)
  | .cmd (0x45 :: _), s => (.ok ([0, 0] ++ List.replicate 24 0), s)
  | .cmd _, s => (.ok [0, 0], s)
  | .pollInterrupt, (current, 0) => (.ok (some [0]), (current, 1))
  | .pollInterrupt, (current, 1) => (.ok (some [2]), (current, 2))
  | .pollInterrupt, s => (.ok (some [3, 0, 4]), s)
  | .readData, s => (.ok [], s)
  | .now, s => (0, s)
  | .current, s => (s.1, s)
  | .onStage _ _, (current, polls) => ((), (current + 1, polls))

def lateStopCounter : Counter lateStop where
  value := Prod.fst
  reads := fun _ => rfl
  forward := by
    intro q s
    unfold lateStop
    split <;> simp

/-- The stop comes before any change, and the record is created all the same. -/
theorem enroll_stopped_late :
    ¬ StopRespected lateStopCounter 1 (enroll lateStop 4 smallRequest (1, 0)).log := by
  intro h
  have first : (firstChange none (enroll lateStop 4 smallRequest (1, 0)).log).map
      (fun change => change.2.before.1) = some 2 := by
    decide +kernel
  obtain ⟨⟨look, e⟩, change, before⟩ := Option.map_eq_some_iff.mp first
  have early := (stopRespected_iff lateStopCounter
    (enroll_steps lateStop 4 smallRequest (1, 0))).mp h look e change
  have value : lateStopCounter.value e.before = 2 := before
  omega

end ValidityFprintd.EnrollStop
