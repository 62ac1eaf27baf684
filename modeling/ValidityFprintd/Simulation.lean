import ValidityFprintd.World

/-! The same call made against two worlds. Where every query one of them is asked would be
answered alike by the other, the two runs end alike; a world that is only a faithful copy on
some exchanges is one on the runs that keep to these. -/

namespace Effect

variable {Q : Type} {A : Q → Type} {ε S T X Y α β : Type}

/-- A query and its answer, without the world's state. -/
abbrev Exchange (A : Q → Type) := (q : Q) × A q

def Entry.exchange (e : Entry A S) : Exchange A := ⟨e.query, e.answer⟩

/-- What was asked and answered in a run. -/
def dialogue (l : List (Entry A S)) : List (Exchange A) := l.map Entry.exchange

/-- Every exchange of the run is one that `p` admits. -/
def Admits (p : Exchange A → Prop) (l : List (Entry A S)) : Prop := ∀ e ∈ dialogue l, p e

instance {p : Exchange A → Prop} [DecidablePred p] (l : List (Entry A S)) :
    Decidable (Admits p l) :=
  inferInstanceAs (Decidable (∀ e ∈ dialogue l, p e))

@[simp] theorem dialogue_nil : dialogue ([] : List (Entry A S)) = [] := rfl

@[simp] theorem dialogue_append (l m : List (Entry A S)) :
    dialogue (l ++ m) = dialogue l ++ dialogue m := List.map_append

section Admits

variable {p : Exchange A → Prop} {l m : List (Entry A S)}

@[simp] theorem admits_nil : Admits p ([] : List (Entry A S)) := by simp [Admits]

theorem admits_append : Admits p (l ++ m) ↔ Admits p l ∧ Admits p m := by
  simp only [Admits, dialogue_append, List.mem_append, or_imp, forall_and]

theorem admits_bind {x : Act ε (Entry A S) X α} {f : α → Act ε (Entry A S) X β} {s t : X} {a : α}
    (run : Yields x s a t) :
    Admits p ((x >>= f) s).log ↔ Admits p (x s).log ∧ Admits p (f a t).log := by
  obtain ⟨l, run⟩ := Yields.iff_run.mp run
  rw [Act.bind_run, run, Act.follow_ok, admits_append]

end Admits

/-- From related states the worlds give one answer and stay related, on every exchange of the
second one that `p` admits. -/
def World.Simulates (p : Exchange A → Prop) (R : S → T → Prop) (w : World A S) (v : World A T) :
    Prop :=
  ∀ q s t, R s t → p ⟨q, (v q t).1⟩ → (w q s).1 = (v q t).1 ∧ R (w q s).2 (v q t).2

/-- From related states the calls end alike, having heard the same, and leave related states,
wherever the second one's run is admitted. The states may hold more than the worlds do. -/
def Alike (p : Exchange A → Prop) (R : X → Y → Prop) (x : Act ε (Entry A S) X α)
    (y : Act ε (Entry A T) Y α) : Prop :=
  ∀ s t, R s t → Admits p (y t).log →
    (x s).out = (y t).out ∧ R (x s).state (y t).state ∧ dialogue (x s).log = dialogue (y t).log

namespace Alike

variable {p : Exchange A → Prop} {R : X → Y → Prop}

/-- Where the second run returns, so does the first. -/
theorem yields {x : Act ε (Entry A S) X α} {y : Act ε (Entry A T) Y α} (alike : Alike p R x y)
    {s : X} {t t' : Y} {a : α} (related : R s t) (admitted : Admits p (y t).log)
    (run : Yields y t a t') : ∃ s', Yields x s a s' ∧ R s' t' := by
  obtain ⟨out, after, _⟩ := alike s t related admitted
  exact ⟨(x s).state, ⟨out.trans run.1, rfl⟩, run.2 ▸ after⟩

theorem silent {o : Outcome ε α} {x : Act ε (Entry A S) X α} {y : Act ε (Entry A T) Y α}
    (hx : ∀ s, x s = ⟨o, s, []⟩) (hy : ∀ t, y t = ⟨o, t, []⟩) : Alike p R x y := by
  intro s t related _
  rw [hx, hy]
  exact ⟨rfl, related, rfl⟩

theorem ret (a : α) :
    Alike p R (Act.ret a : Act ε (Entry A S) X α) (Act.ret a : Act ε (Entry A T) Y α) :=
  silent (fun _ => rfl) fun _ => rfl

theorem fail (e : ε) :
    Alike p R (Act.fail e : Act ε (Entry A S) X α) (Act.fail e : Act ε (Entry A T) Y α) :=
  silent (fun _ => rfl) fun _ => rfl

theorem crash : Alike p R (Act.crash : Act ε (Entry A S) X α) (Act.crash : Act ε (Entry A T) Y α) :=
  silent (fun _ => rfl) fun _ => rfl

theorem starve :
    Alike p R (Act.starve : Act ε (Entry A S) X α) (Act.starve : Act ε (Entry A T) Y α) :=
  silent (fun _ => rfl) fun _ => rfl

theorem ofOutcome (o : Outcome ε α) :
    Alike p R (Act.ofOutcome o : Act ε (Entry A S) X α) (Act.ofOutcome o : Act ε (Entry A T) Y α) :=
  silent (fun _ => rfl) fun _ => rfl

theorem lift (r : Except ε α) :
    Alike p R (Act.lift r : Act ε (Entry A S) X α) (Act.lift r : Act ε (Entry A T) Y α) := by
  cases r with
  | ok a => exact ret a
  | error e => exact fail e

theorem bailIf (c : Prop) [Decidable c] (e : ε) :
    Alike p R (Act.bailIf c e : Act ε (Entry A S) X Unit)
      (Act.bailIf c e : Act ε (Entry A T) Y Unit) := by
  unfold Act.bailIf
  split
  · exact fail e
  · exact ret ()

theorem ask {R' : S → T → Prop} {w : World A S} {v : World A T} (h : w.Simulates p R' v) (q : Q) :
    Alike p R' (w.ask q : Act ε (Entry A S) S (A q)) (v.ask q) := by
  intro s t related admitted
  have answered : p ⟨q, (v q t).1⟩ := admitted _ List.mem_cons_self
  obtain ⟨same, after⟩ := h q s t related answered
  simp only [World.ask, dialogue, List.map_cons, List.map_nil, Entry.exchange, same]
  exact ⟨trivial, after, trivial⟩

theorem bind {x : Act ε (Entry A S) X α} {y : Act ε (Entry A T) Y α}
    {f : α → Act ε (Entry A S) X β} {g : α → Act ε (Entry A T) Y β} (hx : Alike p R x y)
    (hf : ∀ a, Alike p R (f a) (g a)) : Alike p R (x >>= f) (y >>= g) := by
  intro s t related admitted
  have first := hx s t related
  rw [Act.bind_run] at admitted ⊢
  rw [Act.bind_run]
  rcases hs : x s with ⟨out, s', l⟩
  rcases ht : y t with ⟨out', t', m⟩
  rw [hs, ht] at first
  rw [ht] at admitted
  cases out' with
  | ok a =>
    rw [Act.follow_ok, admits_append] at admitted
    obtain ⟨rfl, between, heard⟩ := first admitted.1
    obtain ⟨same, after, heard'⟩ := hf a s' t' between admitted.2
    rw [Act.follow_ok, Act.follow_ok, dialogue_append, dialogue_append, heard, heard']
    exact ⟨same, after, rfl⟩
  | err e =>
    obtain ⟨rfl, after⟩ := first admitted
    exact ⟨rfl, after⟩
  | panic =>
    obtain ⟨rfl, after⟩ := first admitted
    exact ⟨rfl, after⟩
  | stuck =>
    obtain ⟨rfl, after⟩ := first admitted
    exact ⟨rfl, after⟩

/-- What `Act.attempt` makes of how a call ended. -/
def caught : Outcome ε α → Outcome ε (Except ε α)
  | .ok a => .ok (.ok a)
  | .err e => .ok (.error e)
  | .panic => .panic
  | .stuck => .stuck

/-- What `Act.mapErr` makes of how a call ended. -/
def reworded (g : ε → ε) : Outcome ε α → Outcome ε α
  | .ok a => .ok a
  | .err e => .err (g e)
  | .panic => .panic
  | .stuck => .stuck

theorem recast {x : Act ε (Entry A S) X α} {y : Act ε (Entry A T) Y α}
    {x' : Act ε (Entry A S) X β} {y' : Act ε (Entry A T) Y β} (g : Outcome ε α → Outcome ε β)
    (hx' : ∀ s, x' s = ⟨g (x s).out, (x s).state, (x s).log⟩)
    (hy' : ∀ t, y' t = ⟨g (y t).out, (y t).state, (y t).log⟩) (hx : Alike p R x y) :
    Alike p R x' y' := by
  intro s t related admitted
  rw [hy'] at admitted
  obtain ⟨same, after, heard⟩ := hx s t related admitted
  rw [hx', hy', same]
  exact ⟨rfl, after, heard⟩

theorem attempt {x : Act ε (Entry A S) X α} {y : Act ε (Entry A T) Y α} (hx : Alike p R x y) :
    Alike p R (Act.attempt x) (Act.attempt y) := by
  refine recast caught (fun s => ?_) (fun t => ?_) hx
  · unfold Act.attempt
    cases (x s).out <;> rfl
  · unfold Act.attempt
    cases (y t).out <;> rfl

theorem ignore {x : Act ε (Entry A S) X α} {y : Act ε (Entry A T) Y α} (hx : Alike p R x y) :
    Alike p R (Act.ignore x) (Act.ignore y) := bind (attempt hx) fun _ => ret ()

theorem mapErr (g : ε → ε) {x : Act ε (Entry A S) X α} {y : Act ε (Entry A T) Y α}
    (hx : Alike p R x y) : Alike p R (Act.mapErr g x) (Act.mapErr g y) := by
  refine recast (reworded g) (fun s => ?_) (fun t => ?_) hx
  · unfold Act.mapErr
    cases (x s).out <;> rfl
  · unfold Act.mapErr
    cases (y t).out <;> rfl

theorem ite {c : Prop} [Decidable c] {x x' : Act ε (Entry A S) X α}
    {y y' : Act ε (Entry A T) Y α} (hx : Alike p R x y) (hx' : Alike p R x' y') :
    Alike p R (if c then x else x') (if c then y else y') := by
  split
  · exact hx
  · exact hx'

theorem loop {body : β → Act ε (Entry A S) X (β ⊕ α)} {body' : β → Act ε (Entry A T) Y (β ⊕ α)}
    (hb : ∀ b, Alike p R (body b) (body' b)) (fuel : Nat) (b : β) :
    Alike p R (Act.loop body fuel b) (Act.loop body' fuel b) := by
  induction fuel generalizing b with
  | zero => exact starve
  | succ fuel ih =>
    refine bind (hb b) fun r => ?_
    cases r with
    | inl b' => exact ih b'
    | inr a => exact ret a

theorem observe {f : X → Act ε (Entry A S) X α} {g : Y → Act ε (Entry A T) Y α}
    (h : ∀ s t, R s t → Alike p R (f s) (g t)) : Alike p R (Act.get >>= f) (Act.get >>= g) :=
  fun s t related admitted => h s t related s t related admitted

theorem modify {f : X → X} {g : Y → Y} (h : ∀ s t, R s t → R (f s) (g t)) :
    Alike p R (Act.modify f : Act ε (Entry A S) X Unit) (Act.modify g : Act ε (Entry A T) Y Unit) :=
  fun s t related _ => ⟨rfl, h s t related, rfl⟩

theorem zoom {X' Y' : Type} {R' : X' → Y' → Prop} {view : X' → X} {put : X → X' → X'}
    {view' : Y' → Y} {put' : Y → Y' → Y'} {x : Act ε (Entry A S) X α} {y : Act ε (Entry A T) Y α}
    (part : ∀ s t, R' s t → R (view s) (view' t))
    (whole : ∀ s t s' t', R' s t → R s' t' → R' (put s' s) (put' t' t)) (hx : Alike p R x y) :
    Alike p R' (Act.zoom view put x) (Act.zoom view' put' y) := by
  intro s t related admitted
  obtain ⟨same, after, heard⟩ := hx (view s) (view' t) (part s t related) admitted
  exact ⟨same, whole s t _ _ related after, heard⟩

end Alike

end Effect
