import Mathlib.Data.Set.Card
import ValidityFprintd.Machine

/-! Shelves of items, one for each user, behind calls that may fail. A call that fails may have
taken effect, or some of it. What is on a shelf is told from the calls before, as far as those
tell. -/

namespace Machine

variable {σ τ α ε : Type} {m : Machine σ α ε}

/-- Where events lead under a relation that tells what each may do. -/
def Leads (next : τ → ε → τ → Prop) : τ → List ε → τ → Prop
  | s, [], t => t = s
  | s, e :: events, t => ∃ u, next s e u ∧ Leads next u events t

variable {next : τ → ε → τ → Prop} {s t : τ} {front back events : List ε}

theorem leads_single {e : ε} : Leads next s [e] t ↔ next s e t := by
  simp only [Leads, exists_eq_right']

theorem leads_append :
    Leads next s (front ++ back) t ↔ ∃ u, Leads next s front u ∧ Leads next u back t := by
  induction front generalizing s with
  | nil => simp only [List.nil_append, Leads, exists_eq_left]
  | cons e front ih =>
    simp only [List.cons_append, Leads, ih]
    constructor
    · rintro ⟨u, first, v, rest, last⟩
      exact ⟨v, ⟨u, first, rest⟩, last⟩
    · rintro ⟨v, ⟨u, first, rest⟩, last⟩
      exact ⟨u, first, v, rest, last⟩

/-- What holds of the first state and is kept by every event of a kind is kept by all of them. -/
theorem Leads.keeps {p : ε → Prop} {I : τ → Prop} (h : Leads next s events t)
    (step : ∀ {s e t}, I s → p e → next s e t → I t) (all : ∀ e ∈ events, p e) (init : I s) :
    I t := by
  induction events generalizing s with
  | nil =>
    rw [h]
    exact init
  | cons e events ih =>
    obtain ⟨u, first, rest⟩ := h
    have next := step init (all e List.mem_cons_self) first
    exact ih rest (fun e mem => all e (List.mem_cons_of_mem _ mem)) next

theorem Run.leads (view : σ → τ) {I : σ → Prop} (init : I m.init)
    (step : ∀ {s a t events}, I s → m.step s a = some (t, events) →
      I t ∧ Leads next (view s) events (view t))
    {moves : List (Move σ α ε)} {last : σ} (run : m.Run moves last) :
    I last ∧ Leads next (view m.init) (trace moves) (view last) := by
  refine run.invariant (I := fun tr s => I s ∧ Leads next (view m.init) tr (view s))
    ⟨init, rfl⟩ ?_
  intro tr s a t events before taken
  obtain ⟨kept, leads⟩ := step before.1 taken
  exact ⟨kept, leads_append.mpr ⟨view s, before.2, leads⟩⟩

theorem Run.leads_between (view : σ → τ) {δ : Type} {next : τ → δ → τ → Prop}
    (p : ε → Option δ) {I : List ε → σ → Prop}
    (init : I [] m.init)
    (step : ∀ {tr s a t events}, I tr s → m.step s a = some (t, events) →
      I (tr ++ events) t ∧ Leads next (view s) (events.filterMap p) (view t))
    {front back : List (Move σ α ε)} {s last : σ} (before : m.Run front s)
    (run : m.Run (front ++ back) last) :
    Leads next (view s) ((trace back).filterMap p) (view last) := by
  induction back using List.reverseRecOn generalizing last with
  | nil =>
    rw [List.append_nil] at run
    rw [run.det before]
    rfl
  | append_singleton back move ih =>
    rw [← List.append_assoc] at run
    obtain ⟨first, taken, rfl⟩ := run.last
    have sound : I (trace (front ++ back)) move.before :=
      first.invariant init fun h taken => (step h taken).1
    have now := (step sound taken).2
    rw [trace_append, List.filterMap_append]
    refine leads_append.mpr ⟨_, ih first, ?_⟩
    simpa only [trace, List.flatMap_cons, List.flatMap_nil, List.append_nil] using now

end Machine

/-- What is on the shelf of each user. -/
abbrev Shelves (υ φ : Type) := υ → Set φ

namespace Shelves

open Machine

variable {υ φ : Type}

/-- A call about a user's items, and how it went. -/
inductive Event (υ φ : Type)
  /-- An item was to be put in the place of one like it. -/
  | put (user : υ) (item : φ) (done : Bool)
  /-- All items were to be taken away; how many there were, if that was done. -/
  | cleared (user : υ) (count : Option Nat)
  | listed (user : υ) (items : Option (List φ))
  /-- An item was looked for, and this one seen. -/
  | seen (user : υ) (item : Option φ)
  deriving DecidableEq

def Event.user : Event υ φ → υ
  | put user _ _ => user
  | cleared user _ => user
  | listed user _ => user
  | seen user _ => user

/-- A call that fails has left the other items alone, or taken some of them away if it was to take
all. -/
def Own (s : Set φ) (t : Set φ) : Event υ φ → Prop
  | .put _ item done => (∀ other ≠ item, other ∈ t ↔ other ∈ s) ∧ (done = true → item ∈ t)
  | .cleared _ none => t ⊆ s
  | .cleared _ (some count) => t = ∅ ∧ count = s.ncard
  | .listed _ items => t = s ∧ ∀ l ∈ items, l.Nodup ∧ ∀ item, item ∈ l ↔ item ∈ s
  | .seen _ item => t = s ∧ ∀ found ∈ item, found ∈ s

/-- What a call may do: nothing to any other user's shelf. -/
structure Next (s : Shelves υ φ) (e : Event υ φ) (t : Shelves υ φ) : Prop where
  own : Own (s e.user) (t e.user) e
  others : ∀ other ≠ e.user, t other = s other

def Empty : Shelves υ φ := fun _ => ∅

variable {s t : Shelves υ φ} {e : Event υ φ} {user : υ} {item : φ}

/-- What is found on a shelf was to be put there, or was there before. -/
theorem Next.origin (h : Next s e t) (there : item ∈ t user) :
    (∃ done, e = .put user item done) ∨ item ∈ s user ∧ ∀ n, e ≠ .cleared user (some n) := by
  by_cases mine : user = e.user
  · subst mine
    have own := h.own
    cases e with
    | put user other done =>
      by_cases this : item = other
      · rw [this]
        exact .inl ⟨done, rfl⟩
      · exact .inr ⟨(own.1 item this).mp there, fun n => nofun⟩
    | cleared user count =>
      cases count with
      | none => exact .inr ⟨own there, fun n => nofun⟩
      | some n =>
        rw [own.1] at there
        exact absurd there (Set.notMem_empty item)
    | listed user items =>
      rw [own.1] at there
      exact .inr ⟨there, fun n => nofun⟩
    | seen user found =>
      rw [own.1] at there
      exact .inr ⟨there, fun n => nofun⟩
  · rw [h.others user mine] at there
    refine .inr ⟨there, ?_⟩
    rintro n rfl
    exact mine rfl

/-- An item stays as long as it is not replaced in vain and nobody is to clear the shelf. -/
theorem Next.kept (h : Next s e t) (there : item ∈ s user) (sound : e ≠ .put user item false)
    (uncleared : ∀ count, e ≠ .cleared user count) : item ∈ t user := by
  by_cases mine : user = e.user
  · subst mine
    have own := h.own
    cases e with
    | put user other done =>
      by_cases this : item = other
      · cases done with
        | false =>
          rw [this] at sound
          exact absurd rfl sound
        | true =>
          rw [this]
          exact own.2 rfl
      · exact (own.1 item this).mpr there
    | cleared user count => exact absurd rfl (uncleared count)
    | listed user items =>
      rw [own.1]
      exact there
    | seen user found =>
      rw [own.1]
      exact there
  · rw [h.others user mine]
    exact there

theorem length_of_nodup {l : List φ} {items : Set φ} (nodup : l.Nodup)
    (same : ∀ item, item ∈ l ↔ item ∈ items) : l.length = items.ncard := by
  classical
  have whole : items = l.toFinset := by
    ext item
    rw [← same, Finset.mem_coe, List.mem_toFinset]
  rw [whole, Set.ncard_coe_finset, List.toFinset_card_of_nodup nodup]

variable {events front back : List (Event υ φ)}

/-- The item was to be put on the shelf, and the shelf has not been cleared since. -/
def Asked (events : List (Event υ φ)) (user : υ) (item : φ) : Prop :=
  ∃ front done back, events = front ++ .put user item done :: back ∧
    ∀ n, .cleared user (some n) ∉ back

/-- The item was put on the shelf, and has since not been replaced in vain, nor was the shelf to
be cleared. -/
def Lasting (events : List (Event υ φ)) (user : υ) (item : φ) : Prop :=
  ∃ front back, events = front ++ .put user item true :: back ∧ .put user item false ∉ back ∧
    ∀ count, .cleared user count ∉ back

theorem asked_or_there (h : Leads Next s events t) (there : item ∈ t user) :
    Asked events user item ∨ item ∈ s user ∧ ∀ n, .cleared user (some n) ∉ events := by
  induction events generalizing s with
  | nil =>
    obtain rfl : t = s := h
    exact .inr ⟨there, fun n => List.not_mem_nil⟩
  | cons e events ih =>
    obtain ⟨u, first, rest⟩ := h
    obtain ⟨front, done, back, rfl, since⟩ | ⟨before, since⟩ := ih rest
    · exact .inl ⟨e :: front, done, back, rfl, since⟩
    · obtain ⟨done, rfl⟩ | ⟨there, uncleared⟩ := first.origin before
      · exact .inl ⟨[], done, events, rfl, since⟩
      · refine .inr ⟨there, fun n mem => ?_⟩
        cases List.mem_cons.mp mem with
        | inl now_ => exact uncleared n now_.symm
        | inr later => exact since n later

/-- Nothing is found on a shelf that was empty but what was to be put there. -/
theorem asked (h : Leads Next Empty events t) (there : item ∈ t user) : Asked events user item :=
  (asked_or_there h there).resolve_right fun before => Set.notMem_empty item before.1

theorem Lasting.found (lasting : Lasting events user item) (h : Leads Next s events t) :
    item ∈ t user := by
  obtain ⟨front, back, rfl, sound, uncleared⟩ := lasting
  obtain ⟨u, _, v, put, rest⟩ := leads_append.mp h
  refine rest.keeps (I := fun s => item ∈ s user)
    (p := fun e => e ≠ .put user item false ∧ ∀ count, e ≠ .cleared user count)
    (fun before kind next => next.kept before kind.1 kind.2) (fun e mem => ⟨?_, ?_⟩)
    (put.own.2 rfl)
  · rintro rfl
    exact sound mem
  · rintro count rfl
    exact uncleared count mem

/-- What may change whether an item is on a user's shelf. -/
def Event.touches (user : υ) (item : φ) (e : Event υ φ) : Prop :=
  (∃ done, e = .put user item done) ∨ ∃ count, e = .cleared user count

theorem Next.untouched {e : Event υ φ} (h : Next s e t) (apart : ¬ e.touches user item) :
    item ∈ t user ↔ item ∈ s user := by
  obtain ⟨noPut, noClear⟩ := not_or.mp apart
  constructor
  · intro there
    obtain put | ⟨before, _⟩ := h.origin there
    · exact absurd put noPut
    · exact before
  · intro there
    exact h.kept there (fun put => noPut ⟨_, put⟩) fun count cleared => noClear ⟨count, cleared⟩

/-- Whether an item is on a shelf stays the same, or an event is to blame. -/
theorem untouched_or {events : List (Event υ φ)} (h : Leads Next s events t) :
    (item ∈ t user ↔ item ∈ s user) ∨ ∃ e ∈ events, e.touches user item := by
  by_cases blame : ∃ e ∈ events, e.touches user item
  · exact .inr blame
  · refine .inl ?_
    refine h.keeps (I := fun u => item ∈ u user ↔ item ∈ s user)
      (p := fun e => ¬ e.touches user item) (fun same apart step => ?_) ?_ Iff.rfl
    · exact (step.untouched apart).trans same
    · exact fun e mem touches => blame ⟨e, mem, touches⟩

end Shelves
