import ValidityFprintd.Effect

/-! The outside world of a driver: anything that answers queries from a state of its own.
A call's log holds the queries it made, each with the world's state when it was made and
the answer it got, so a statement about every world is one about every order of replies. -/

namespace Effect

variable {Q : Type} {A : Q → Type} {S : Type}

def World (A : Q → Type) (S : Type) := (q : Q) → S → A q × S

structure Entry (A : Q → Type) (S : Type) where
  before : S
  query : Q
  answer : A query

namespace World

def ask {ε : Type} (w : World A S) (q : Q) : Act ε (Entry A S) S (A q) := fun s =>
  ⟨.ok (w q s).1, (w q s).2, [⟨s, q, (w q s).1⟩]⟩

theorem ask_run {ε : Type} (w : World A S) (q : Q) (s : S) :
    (w.ask q : Act ε (Entry A S) S (A q)) s = ⟨.ok (w q s).1, (w q s).2, [⟨s, q, (w q s).1⟩]⟩ :=
  rfl

theorem ask_yields {ε : Type} {w : World A S} {q : Q} {s t : S} {a : A q} :
    Yields (w.ask q : Act ε (Entry A S) S (A q)) s a t ↔ w q s = (a, t) := by
  simp only [Yields, ask, Outcome.ok.injEq, Prod.ext_iff]

theorem ask_within {ε : Type} {K : Kind → Prop} (hv : K .value) (w : World A S) (q : Q) :
    Within K (w.ask q : Act ε (Entry A S) S (A q)) := fun _ => hv

/-- Every query a call makes has the property `p`. -/
abbrev Asks {ε α : Type} (p : Q → Prop) (x : Act ε (Entry A S) S α) : Prop :=
  Emits (fun e => p e.query) x

theorem ask_asks {ε : Type} {p : Q → Prop} (w : World A S) {q : Q} (h : p q) :
    Asks p (w.ask q : Act ε (Entry A S) S (A q)) := by
  intro s e he
  obtain rfl := List.mem_singleton.mp he
  exact h

/-- A run's entries follow each other: the world is left by each as the next one finds it. -/
inductive Steps (w : World A S) : S → List (Entry A S) → S → Prop
  | nil (s : S) : Steps w s [] s
  | cons {s t : S} {l : List (Entry A S)} (q : Q) :
      Steps w (w q s).2 l t → Steps w s (⟨s, q, (w q s).1⟩ :: l) t

instance steps_composes (w : World A S) : Composes w.Steps where
  nil := Steps.nil
  append := by
    intro s t u l m hl hm
    induction hl with
    | nil s => exact hm
    | cons q _ ih => exact .cons q (ih hm)

theorem ask_steps {ε : Type} (w : World A S) (q : Q) :
    Respects w.Steps (w.ask q : Act ε (Entry A S) S (A q)) := fun _ => .cons q (.nil _)

theorem Steps.split {w : World A S} {s u : S} {l m : List (Entry A S)}
    (h : w.Steps s (l ++ m) u) : ∃ t, w.Steps s l t ∧ w.Steps t m u := by
  induction l generalizing s with
  | nil => exact ⟨s, .nil s, h⟩
  | cons e l ih =>
    cases h with
    | cons q h =>
      obtain ⟨t, hl, hm⟩ := ih h
      exact ⟨t, .cons q hl, hm⟩

theorem Steps.before {w : World A S} {s u : S} {l m : List (Entry A S)} {e : Entry A S}
    (h : w.Steps s (l ++ e :: m) u) : w.Steps s l e.before := by
  obtain ⟨t, hl, hm⟩ := h.split
  cases hm with
  | cons q hm => exact hl

theorem Steps.answer {w : World A S} {s u : S} {l m : List (Entry A S)} {e : Entry A S}
    (h : w.Steps s (l ++ e :: m) u) : e.answer = (w e.query e.before).1 := by
  obtain ⟨t, _, hm⟩ := h.split
  cases hm
  rfl

end World

end Effect
