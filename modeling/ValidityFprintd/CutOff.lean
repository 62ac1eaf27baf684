import ValidityFprintd.World

/-! What a call leaves behind wherever it is cut off. A call of several queries that fails
leaves what it got done until then, so it has two postconditions: one for every state it
passes, and one for the state and the value it returns with. -/

namespace Effect

variable {Q : Type} {A : Q → Type} {ε S V α β : Type} {view : S → V} {v : V}

/-- From a state seen as `v`, the call passes states seen as `K` allows only, and returns a value
in a state seen as `J` allows. -/
def Leaves (view : S → V) (v : V) (x : Act ε (Entry A S) S α) (J : α → V → Prop) (K : V → Prop) :
    Prop :=
  ∀ s, view s = v → (∀ e ∈ (x s).log, K (view e.before)) ∧ K (view (x s).state) ∧
    ∀ a, (x s).out = .ok a → J a (view (x s).state)

/-- Whatever is asked, nothing changes that is seen. -/
def Still (view : S → V) (s : S) (l : List (Entry A S)) (t : S) : Prop :=
  view t = view s ∧ ∀ e ∈ l, view e.before = view s

instance still_composes (view : S → V) : Composes (Still (A := A) view) where
  nil := fun s => ⟨rfl, by simp⟩
  append := by
    intro s t u l m first second
    refine ⟨second.1.trans first.1, fun e he => ?_⟩
    cases List.mem_append.mp he with
    | inl he => exact first.2 e he
    | inr he => exact (second.2 e he).trans first.1

theorem ask_still (w : World A S) {q : Q} (h : ∀ s, view (w q s).2 = view s) :
    Respects (Still view) (w.ask q : Act ε (Entry A S) S (A q)) := by
  intro s
  refine ⟨h s, fun e he => ?_⟩
  rw [List.mem_singleton.mp he]

namespace Leaves

variable {J : α → V → Prop} {K : V → Prop}

theorem pure {x : Act ε (Entry A S) S α} (quiet : ∀ s, (x s).log = [] ∧ (x s).state = s)
    (value : ∀ s a, (x s).out = .ok a → J a v) (crash : K v) : Leaves view v x J K := by
  intro s seen
  obtain ⟨log, state⟩ := quiet s
  rw [log, state, seen]
  exact ⟨by simp, crash, value s⟩

theorem ret {a : α} (value : J a v) (crash : K v) :
    Leaves view v (Act.ret a : Act ε (Entry A S) S α) J K := by
  refine pure (fun _ => ⟨rfl, rfl⟩) (fun s b out => ?_) crash
  cases out
  exact value

theorem fail {e : ε} (crash : K v) : Leaves view v (Act.fail e : Act ε (Entry A S) S α) J K := by
  refine pure (fun _ => ⟨rfl, rfl⟩) (fun s b out => ?_) crash
  cases out

theorem ofOutcome {o : Outcome ε α} (value : ∀ a, o = .ok a → J a v) (crash : K v) :
    Leaves view v (Act.ofOutcome o : Act ε (Entry A S) S α) J K :=
  pure (fun _ => ⟨rfl, rfl⟩) (fun _ => value) crash

theorem lift {r : Except ε α} (value : ∀ a, r = .ok a → J a v) (crash : K v) :
    Leaves view v (Act.lift r : Act ε (Entry A S) S α) J K := by
  cases r with
  | error e => exact fail crash
  | ok a => exact ret (value a rfl) crash

theorem bailIf {c : Prop} [Decidable c] {e : ε} {J : Unit → V → Prop} (value : ¬ c → J () v)
    (crash : K v) : Leaves view v (Act.bailIf c e : Act ε (Entry A S) S Unit) J K := by
  unfold Act.bailIf
  split
  · exact fail crash
  · rename_i sound
    exact ret (value sound) crash

/-- A single query can be cut off before it takes effect or after. -/
theorem ask {w : World A S} {q : Q} {J : A q → V → Prop} (before : K v)
    (after : ∀ s, view s = v → K (view (w q s).2))
    (answer : ∀ s, view s = v → J (w q s).1 (view (w q s).2)) :
    Leaves view v (w.ask q : Act ε (Entry A S) S (A q)) J K := by
  intro s seen
  refine ⟨fun e he => ?_, after s seen, fun a out => ?_⟩
  · rw [List.mem_singleton.mp he, seen]
    exact before
  · cases out
    exact answer s seen

theorem still {x : Act ε (Entry A S) S α} (quiet : Respects (Still view) x) :
    Leaves view v x (fun a u => u = v ∧ ∃ s t, view s = v ∧ Yields x s a t) fun u => u = v := by
  intro s seen
  obtain ⟨after, before⟩ := quiet s
  rw [seen] at after before
  exact ⟨before, after, fun a out => ⟨after, s, _, seen, out, rfl⟩⟩

theorem mono {J' : α → V → Prop} {K' : V → Prop} {x : Act ε (Entry A S) S α}
    (h : Leaves view v x J K) (value : ∀ a u, J a u → J' a u) (crash : ∀ u, K u → K' u) :
    Leaves view v x J' K' := by
  intro s seen
  obtain ⟨passed, ended, returned⟩ := h s seen
  exact ⟨fun e he => crash _ (passed e he), crash _ ended, fun a out => value a _ (returned a out)⟩

/-- What is cut off behind `x` is cut off in what follows it. -/
theorem bind {K' : V → Prop} {J' : β → V → Prop} {x : Act ε (Entry A S) S α}
    {f : α → Act ε (Entry A S) S β} (hx : Leaves view v x J K)
    (hf : ∀ a u, J a u → Leaves view u (f a) J' K') (crash : ∀ u, K u → K' u) :
    Leaves view v (x >>= f) J' K' := by
  intro s seen
  obtain ⟨passed, ended, returned⟩ := hx s seen
  rw [Act.bind_run]
  generalize x s = r at passed ended returned
  rcases r with ⟨out, t, l⟩
  cases out with
  | ok a =>
    obtain ⟨passed', ended', returned'⟩ := hf a (view t) (returned a rfl) t rfl
    rw [Act.follow_ok]
    refine ⟨fun e he => ?_, ended', returned'⟩
    cases List.mem_append.mp he with
    | inl he => exact crash _ (passed e he)
    | inr he => exact passed' e he
  | err e => exact ⟨fun e he => crash _ (passed e he), crash _ ended, fun _ out => nomatch out⟩
  | panic => exact ⟨fun e he => crash _ (passed e he), crash _ ended, fun _ out => nomatch out⟩
  | stuck => exact ⟨fun e he => crash _ (passed e he), crash _ ended, fun _ out => nomatch out⟩

theorem attempt {x : Act ε (Entry A S) S α} (h : Leaves view v x J K) :
    Leaves view v (Act.attempt x) (fun r u => K u ∧ ∀ a, r = .ok a → J a u) K := by
  intro s seen
  obtain ⟨passed, ended, returned⟩ := h s seen
  refine ⟨by simpa using passed, by simpa using ended, fun r out => ⟨by simpa using ended, ?_⟩⟩
  rintro a rfl
  have yields : Yields x s a (Act.attempt x s).state := Yields.attempt_ok_iff.mp ⟨out, rfl⟩
  rw [Act.attempt_state]
  exact returned a yields.1

theorem mapErr {g : ε → ε} {x : Act ε (Entry A S) S α} (h : Leaves view v x J K) :
    Leaves view v (Act.mapErr g x) J K := by
  intro s seen
  obtain ⟨passed, ended, returned⟩ := h s seen
  refine ⟨by simpa using passed, by simpa using ended, fun a out => ?_⟩
  have yields : Yields x s a (Act.mapErr g x s).state := Yields.mapErr_iff.mp ⟨out, rfl⟩
  rw [Act.mapErr_state]
  exact returned a yields.1

end Leaves

end Effect
