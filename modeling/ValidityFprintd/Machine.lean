import Mathlib.Logic.Basic
import Mathlib.Data.List.Basic

/-! Machines that take one step after the other, each with the events it causes. The rules
are for arbitrary states, labels and events. -/

/-- What a step of a machine does under a label, if the label can be taken at all. -/
structure Machine (σ α ε : Type) where
  init : σ
  step : σ → α → Option (σ × List ε)

namespace Machine

variable {σ α ε : Type} {m : Machine σ α ε}

/-- One step of a run. -/
structure Move (σ α ε : Type) where
  before : σ
  label : α
  after : σ
  events : List ε

/-- A run, oldest step first, and the state it leads to. -/
inductive Run (m : Machine σ α ε) : List (Move σ α ε) → σ → Prop
  | init : Run m [] m.init
  | step {moves : List (Move σ α ε)} {s t : σ} {a : α} {events : List ε} :
      Run m moves s → m.step s a = some (t, events) → Run m (moves ++ [⟨s, a, t, events⟩]) t

def trace (moves : List (Move σ α ε)) : List ε := moves.flatMap Move.events

theorem trace_append (front back : List (Move σ α ε)) :
    trace (front ++ back) = trace front ++ trace back := List.flatMap_append

theorem trace_cons (move : Move σ α ε) (back : List (Move σ α ε)) :
    trace (move :: back) = move.events ++ trace back := List.flatMap_cons

/-- The run that takes these labels in turn, if each can be taken. -/
def replay (m : Machine σ α ε) : σ → List α → Option (List (Move σ α ε) × σ)
  | s, [] => some ([], s)
  | s, a :: labels =>
    (m.step s a).bind fun (t, events) =>
      (m.replay t labels).map fun (moves, last) => (⟨s, a, t, events⟩ :: moves, last)

theorem Run.replay {front moves : List (Move σ α ε)} {s t : σ} {labels : List α}
    (run : m.Run front s) (h : m.replay s labels = some (moves, t)) : m.Run (front ++ moves) t := by
  induction labels generalizing front s moves with
  | nil =>
    obtain ⟨rfl, rfl⟩ := Prod.mk.inj (Option.some.inj h)
    rwa [List.append_nil]
  | cons a labels ih =>
    obtain ⟨⟨u, events⟩, taken, rest⟩ := Option.bind_eq_some_iff.mp h
    obtain ⟨⟨more, last⟩, replayed, split⟩ := Option.map_eq_some_iff.mp rest
    obtain ⟨rfl, rfl⟩ := Prod.mk.inj split
    have next := ih (run.step taken) replayed
    rwa [List.append_assoc] at next

/-- What holds of the first state and is kept by every step of a kind holds of every run of such
steps. -/
theorem Run.invariant_of {p : σ → α → Prop} {I : List ε → σ → Prop} (init : I [] m.init)
    (step : ∀ {tr s a t events}, I tr s → p s a → m.step s a = some (t, events) →
      I (tr ++ events) t)
    {moves : List (Move σ α ε)} {s : σ} (run : m.Run moves s)
    (all : ∀ move ∈ moves, p move.before move.label) : I (trace moves) s := by
  induction run with
  | init => exact init
  | @step moves s t a events _ taken ih =>
    have last := all ⟨s, a, t, events⟩ (List.mem_append_right _ List.mem_cons_self)
    have next := step (ih fun move mem => all move (List.mem_append_left _ mem)) last taken
    rw [trace_append, trace_cons]
    simpa [trace] using next

/-- What holds of the first state and is kept by every step holds of every run. -/
theorem Run.invariant {I : List ε → σ → Prop} (init : I [] m.init)
    (step : ∀ {tr s a t events}, I tr s → m.step s a = some (t, events) → I (tr ++ events) t)
    {moves : List (Move σ α ε)} {s : σ} (run : m.Run moves s) : I (trace moves) s :=
  run.invariant_of (p := fun _ _ => True) init (fun h _ taken => step h taken) fun _ _ => trivial

theorem Run.history_of {p : Move σ α ε → Prop} {I : List (Move σ α ε) → σ → Prop}
    (init : I [] m.init)
    (step : ∀ {moves s a t events}, I moves s → p ⟨s, a, t, events⟩ →
      m.step s a = some (t, events) → I (moves ++ [⟨s, a, t, events⟩]) t)
    {moves : List (Move σ α ε)} {s : σ} (run : m.Run moves s) (all : ∀ move ∈ moves, p move) :
    I moves s := by
  induction run with
  | init => exact init
  | @step moves s t a events _ taken ih =>
    have last := all ⟨s, a, t, events⟩ (List.mem_append_right _ List.mem_cons_self)
    exact step (ih fun move mem => all move (List.mem_append_left _ mem)) last taken

/-- Each step of a run is a step of the machine, from where the steps before it lead. -/
theorem Run.move {front back : List (Move σ α ε)} {move : Move σ α ε} {s : σ}
    (run : m.Run (front ++ move :: back) s) : m.Run front move.before ∧
      m.step move.before move.label = some (move.after, move.events) := by
  generalize all : front ++ move :: back = moves at run
  induction run generalizing back with
  | init => simp at all
  | @step moves s t a events run taken ih =>
    obtain rfl | ⟨back, last, rfl⟩ := List.eq_nil_or_concat back
    · obtain ⟨rfl, last⟩ := List.append_inj' all rfl
      obtain rfl := (List.cons.inj last).1
      exact ⟨run, taken⟩
    · have split : (front ++ move :: back) ++ [last] = moves ++ [⟨s, a, t, events⟩] := by
        rw [← all]
        simp
      exact ih (List.append_inj' split rfl).1

theorem Run.last {front : List (Move σ α ε)} {move : Move σ α ε} {s : σ}
    (run : m.Run (front ++ [move]) s) : m.Run front move.before ∧
      m.step move.before move.label = some (move.after, move.events) ∧ s = move.after := by
  obtain ⟨before, taken⟩ := run.move
  refine ⟨before, taken, ?_⟩
  generalize all : front ++ [move] = moves at run
  cases run with
  | init => simp at all
  | step run taken => rw [(List.cons.inj (List.append_inj' all rfl).2).1]

theorem Run.first {s : σ} (run : m.Run [] s) : s = m.init := by
  generalize none_ : ([] : List (Move σ α ε)) = moves at run
  cases run with
  | init => rfl
  | step => simp at none_

/-- The steps of a run settle where it leads. -/
theorem Run.det {moves : List (Move σ α ε)} {s t : σ} (run : m.Run moves s)
    (run' : m.Run moves t) : s = t := by
  obtain rfl | ⟨front, move, rfl⟩ := List.eq_nil_or_concat moves
  · rw [run.first, run'.first]
  · rw [List.concat_eq_append] at run run'
    rw [run.last.2.2, run'.last.2.2]

theorem Run.upTo {front back : List (Move σ α ε)} {move : Move σ α ε} {s : σ}
    (run : m.Run (front ++ move :: back) s) : m.Run (front ++ [move]) move.after := by
  obtain ⟨before, taken⟩ := run.move
  exact before.step taken

/-- Every event of a trace stands in relation to those before it. -/
def Always (P : List ε → ε → Prop) (tr : List ε) : Prop :=
  ∀ pre e post, tr = pre ++ e :: post → P pre e

theorem always_nil (P : List ε → ε → Prop) : Always P [] := by
  intro pre e post h
  simp at h

theorem Always.append {P : List ε → ε → Prop} {tr events : List ε} (h : Always P tr)
    (new : ∀ pre e post, events = pre ++ e :: post → P (tr ++ pre) e) :
    Always P (tr ++ events) := by
  intro pre e post split
  obtain ⟨mid, hpre, hrest⟩ | ⟨mid, htr, hrest⟩ := List.append_eq_append_iff.mp split
  · rw [hpre]
    exact new mid e post hrest
  · cases mid with
    | nil =>
      have last := new [] e post hrest.symm
      rw [List.append_nil] at last htr
      rwa [htr] at last
    | cons e' mid =>
      obtain ⟨rfl, rest⟩ := List.cons.inj hrest
      exact h pre e mid htr

theorem Always.free {P : List ε → ε → Prop} {tr events : List ε} (h : Always P tr)
    (any : ∀ e ∈ events, ∀ pre, P pre e) : Always P (tr ++ events) := by
  refine h.append fun pre e post split => any e ?_ _
  rw [split]
  exact List.mem_append_right pre List.mem_cons_self

theorem Always.snoc {P : List ε → ε → Prop} {tr : List ε} {e : ε} (h : Always P tr)
    (last : P tr e) : Always P (tr ++ [e]) := by
  refine h.append fun pre e' post split => ?_
  cases pre with
  | nil =>
    obtain ⟨rfl, _⟩ := List.cons.inj split
    rwa [List.append_nil]
  | cons => simp at split

theorem Always.ends {P : List ε → ε → Prop} {tr events : List ε} {e : ε} (h : Always P tr)
    (any : ∀ e ∈ events, ∀ pre, P pre e) (last : P (tr ++ events) e) :
    Always P (tr ++ (events ++ [e])) := by
  rw [← List.append_assoc]
  exact (h.free any).snoc last

end Machine
