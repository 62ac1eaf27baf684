import Mathlib.Logic.Basic
import Mathlib.Data.List.Basic

/-! Calls that read and change a state, leave a log of what they did to the outside
world, and end in a value, an error, a panic or (when their fuel ran out) not at all.
The rules below are for arbitrary states, errors and log entries. -/

namespace Effect

/-- How a call ends. `stuck` is a call that has not returned within the fuel given. -/
inductive Outcome (ε α : Type) where
  | ok (a : α)
  | err (e : ε)
  | panic
  | stuck
  deriving DecidableEq, Repr

namespace Outcome

variable {ε α β : Type}

def follow : Outcome ε α → (α → Outcome ε β) → Outcome ε β
  | .ok a, f => f a
  | .err e, _ => .err e
  | .panic, _ => .panic
  | .stuck, _ => .stuck

instance : Monad (Outcome ε) where
  pure := .ok
  bind := follow

@[simp] theorem ok_bind (a : α) (f : α → Outcome ε β) : (.ok a >>= f) = f a := rfl

@[simp] theorem err_bind (e : ε) (f : α → Outcome ε β) : (.err e >>= f) = .err e := rfl

@[simp] theorem panic_bind (f : α → Outcome ε β) : (.panic >>= f) = (.panic : Outcome ε β) := rfl

@[simp] theorem stuck_bind (f : α → Outcome ε β) : (.stuck >>= f) = (.stuck : Outcome ε β) := rfl

theorem bind_eq_ok {x : Outcome ε α} {f : α → Outcome ε β} {b : β} :
    (x >>= f) = .ok b ↔ ∃ a, x = .ok a ∧ f a = .ok b := by
  cases x with
  | ok a => simp
  | err e => simp [err_bind]
  | panic => simp [panic_bind]
  | stuck => simp [stuck_bind]

def ofOption (e : ε) : Option α → Outcome ε α
  | some a => .ok a
  | none => .err e

def bailIf (c : Prop) [Decidable c] (e : ε) : Outcome ε Unit := if c then .err e else .ok ()

theorem ofOption_eq_ok {e : ε} {o : Option α} {a : α} : ofOption e o = .ok a ↔ o = some a := by
  cases o <;> simp [ofOption]

theorem bailIf_eq_ok {c : Prop} [Decidable c] {e : ε} {u : Unit} : bailIf c e = .ok u ↔ ¬ c := by
  by_cases h : c <;> simp [bailIf, h]

def each (f : α → Outcome ε β) : List α → Outcome ε (List β)
  | [] => .ok []
  | a :: l => do
    let b ← f a
    let bs ← each f l
    .ok (b :: bs)

theorem each_eq_ok {f : α → Outcome ε β} {l : List α} {bs : List β} :
    each f l = .ok bs ↔ List.Forall₂ (fun a b => f a = .ok b) l bs := by
  induction l generalizing bs with
  | nil =>
    constructor
    · intro h
      cases h
      exact .nil
    · intro h
      cases h
      rfl
  | cons a l ih =>
    simp only [each, bind_eq_ok, ok.injEq]
    constructor
    · rintro ⟨b, hb, bs', hbs, rfl⟩
      exact .cons hb (ih.mp hbs)
    · intro h
      cases h with
      | cons hb hbs => exact ⟨_, hb, _, ih.mpr hbs, rfl⟩

theorem each_congr {f g : α → Outcome ε β} {l : List α}
    (same : ∀ a ∈ l, f a = g a) : each f l = each g l := by
  induction l with
  | nil => rfl
  | cons a l ih =>
    rw [each, each, same a List.mem_cons_self,
      ih fun a' mem => same a' (List.mem_cons_of_mem _ mem)]

theorem each_ok {f : α → Outcome ε β} {g : α → β} {l : List α}
    (same : ∀ a ∈ l, f a = .ok (g a)) : each f l = .ok (l.map g) := by
  induction l with
  | nil => rfl
  | cons a l ih =>
    rw [each, same a List.mem_cons_self, ok_bind,
      ih fun a' mem => same a' (List.mem_cons_of_mem _ mem), ok_bind]
    rfl

theorem each_ite {P : α → Prop} [DecidablePred P] {f : α → Outcome ε β} {g : α → β} {l : List α}
    (same : ∀ a ∈ l, f a = if P a then .ok (g a) else .panic) :
    each f l = if ∀ a ∈ l, P a then .ok (l.map g) else .panic := by
  split
  case isTrue all => exact each_ok fun a mem => (same a mem).trans (if_pos (all a mem))
  case isFalse some' =>
    induction l with
    | nil => exact absurd (fun _ none => absurd none List.not_mem_nil) some'
    | cons a l ih =>
      rw [each, same a List.mem_cons_self]
      by_cases here : P a
      · have rest : ¬ ∀ b ∈ l, P b := fun all => some' (List.forall_mem_cons.mpr ⟨here, all⟩)
        rw [if_pos here, ok_bind, ih (fun b mem => same b (List.mem_cons_of_mem _ mem)) rest]
        rfl
      · rw [if_neg here]
        rfl

theorem each_range {g : Nat → Outcome ε α} {l : List α}
    (h : ∀ i (hi : i < l.length), g i = .ok l[i]) : each g (List.range l.length) = .ok l := by
  have shift : ∀ (g : Nat → Outcome ε α) (is : List Nat),
      each g (is.map Nat.succ) = each (fun i => g (i + 1)) is := by
    intro g is
    induction is with
    | nil => rfl
    | cons i is ih => simp only [List.map_cons, each, ih]
  induction l generalizing g with
  | nil => rfl
  | cons a l ih =>
    have head := h 0 (by simp)
    have tail := ih (g := fun i => g (i + 1)) fun i hi => h (i + 1) (by simpa using hi)
    rw [List.length_cons, List.range_succ_eq_map, each, shift, head, tail]
    rfl

/-- Where it is an error, the error has the property. -/
def Fails (P : ε → Prop) (o : Outcome ε α) : Prop := ∀ e, o = .err e → P e

namespace Fails

variable {P : ε → Prop}

theorem ok (a : α) : Fails P (.ok a : Outcome ε α) := by
  rintro _ ⟨⟩

theorem panic : Fails P (.panic : Outcome ε α) := by
  rintro _ ⟨⟩

theorem stuck : Fails P (.stuck : Outcome ε α) := by
  rintro _ ⟨⟩

theorem err {e : ε} (h : P e) : Fails P (.err e : Outcome ε α) := by
  rintro _ ⟨⟩
  exact h

theorem bind {x : Outcome ε α} {f : α → Outcome ε β} (hx : Fails P x) (hf : ∀ a, Fails P (f a)) :
    Fails P (x >>= f) := by
  cases x with
  | ok a => exact hf a
  | err e => exact err (hx e rfl)
  | panic => exact panic
  | stuck => exact stuck

theorem bailIf {c : Prop} [Decidable c] {e : ε} (h : P e) : Fails P (bailIf c e) := by
  unfold Outcome.bailIf
  split
  · exact err h
  · exact ok ()

theorem ofOption {e : ε} (h : P e) (o : Option α) : Fails P (ofOption e o) := by
  cases o with
  | some a => exact ok a
  | none => exact err h

theorem ite {c : Prop} [Decidable c] {x y : Outcome ε α} (hx : Fails P x) (hy : Fails P y) :
    Fails P (if c then x else y) := by
  split
  · exact hx
  · exact hy

end Fails

end Outcome

/-- How a call ended, its value or error left out. -/
inductive Kind where
  | value
  | error
  | panic
  | stuck
  deriving DecidableEq

def Outcome.kind {ε α : Type} : Outcome ε α → Kind
  | .ok _ => .value
  | .err _ => .error
  | .panic => .panic
  | .stuck => .stuck

structure Result (ε E S α : Type) where
  out : Outcome ε α
  state : S
  log : List E

/-- A call: the log holds only the entries this call adds, oldest first. -/
def Act (ε E S α : Type) := S → Result ε E S α

variable {ε E S T α β γ : Type}

/-- The call returns, its log left out. -/
def Yields (x : Act ε E S α) (s : S) (a : α) (t : S) : Prop := (x s).out = .ok a ∧ (x s).state = t

namespace Act

def ret (a : α) : Act ε E S α := fun s => ⟨.ok a, s, []⟩

def fail (e : ε) : Act ε E S α := fun s => ⟨.err e, s, []⟩

def crash : Act ε E S α := fun s => ⟨.panic, s, []⟩

def starve : Act ε E S α := fun s => ⟨.stuck, s, []⟩

def follow (r : Result ε E S α) (f : α → Act ε E S β) : Result ε E S β :=
  match r.out with
  | .ok a => ⟨(f a r.state).out, (f a r.state).state, r.log ++ (f a r.state).log⟩
  | .err e => ⟨.err e, r.state, r.log⟩
  | .panic => ⟨.panic, r.state, r.log⟩
  | .stuck => ⟨.stuck, r.state, r.log⟩

def andThen (x : Act ε E S α) (f : α → Act ε E S β) : Act ε E S β :=
  fun s => follow (x s) f

instance : Monad (Act ε E S) where
  pure := ret
  bind := andThen

theorem bind_run (x : Act ε E S α) (f : α → Act ε E S β) (s : S) :
    (x >>= f) s = follow (x s) f := rfl

theorem follow_ok (a : α) (s : S) (l : List E) (f : α → Act ε E S β) :
    follow ⟨.ok a, s, l⟩ f = ⟨(f a s).out, (f a s).state, l ++ (f a s).log⟩ := rfl

theorem follow_err (e : ε) (s : S) (l : List E) (f : α → Act ε E S β) :
    follow ⟨.err e, s, l⟩ f = ⟨.err e, s, l⟩ := rfl

theorem follow_panic (s : S) (l : List E) (f : α → Act ε E S β) :
    follow ⟨.panic, s, l⟩ f = (⟨.panic, s, l⟩ : Result ε E S β) := rfl

theorem follow_stuck (s : S) (l : List E) (f : α → Act ε E S β) :
    follow ⟨.stuck, s, l⟩ f = (⟨.stuck, s, l⟩ : Result ε E S β) := rfl

def bailIf (c : Prop) [Decidable c] (e : ε) : Act ε E S Unit := if c then fail e else ret ()

def get : Act ε E S S := fun s => ⟨.ok s, s, []⟩

def modify (f : S → S) : Act ε E S Unit := fun s => ⟨.ok (), f s, []⟩

def lift : Except ε α → Act ε E S α
  | .ok a => ret a
  | .error e => fail e

def ofOutcome (o : Outcome ε α) : Act ε E S α := fun s => ⟨o, s, []⟩

/-- Run a call and hand its result on as a value, whether it failed or not. -/
def attempt (x : Act ε E S α) : Act ε E S (Except ε α) := fun s =>
  match (x s).out with
  | .ok a => ⟨.ok (.ok a), (x s).state, (x s).log⟩
  | .err e => ⟨.ok (.error e), (x s).state, (x s).log⟩
  | .panic => ⟨.panic, (x s).state, (x s).log⟩
  | .stuck => ⟨.stuck, (x s).state, (x s).log⟩

def ignore (x : Act ε E S α) : Act ε E S Unit := attempt x >>= fun _ => ret ()

def mapErr (g : ε → ε) (x : Act ε E S α) : Act ε E S α := fun s =>
  match (x s).out with
  | .err e => ⟨.err (g e), (x s).state, (x s).log⟩
  | o => ⟨o, (x s).state, (x s).log⟩

/-- Repeat `body` until it breaks with `inr`, at most as often as there is fuel. -/
def loop (body : β → Act ε E S (β ⊕ α)) : Nat → β → Act ε E S α
  | 0, _ => starve
  | n + 1, b => body b >>= fun
    | .inl b' => loop body n b'
    | .inr a => ret a

/-- Enter a call's log into a wider one. -/
def mapLog {F : Type} (g : E → F) (x : Act ε E S α) : Act ε F S α := fun s =>
  ⟨(x s).out, (x s).state, (x s).log.map g⟩

/-- Run a call on a part of a larger state. -/
def zoom (view : T → S) (put : S → T → T) (x : Act ε E S α) : Act ε E T α := fun t =>
  ⟨(x (view t)).out, put (x (view t)).state t, (x (view t)).log⟩

/-! Running a sequence whose first call touches no log. -/

@[simp] theorem ret_bind (a : α) (f : α → Act ε E S β) (s : S) : (ret a >>= f) s = f a s := rfl

@[simp] theorem pure_bind_run (a : α) (f : α → Act ε E S β) (s : S) :
    (pure a >>= f) s = f a s := rfl

@[simp] theorem fail_bind (e : ε) (f : α → Act ε E S β) (s : S) :
    (fail e >>= f) s = ⟨.err e, s, []⟩ := rfl

@[simp] theorem crash_bind (f : α → Act ε E S β) (s : S) :
    (crash >>= f) s = ⟨.panic, s, []⟩ := rfl

@[simp] theorem get_bind (f : S → Act ε E S β) (s : S) : (get >>= f) s = f s s := rfl

@[simp] theorem modify_bind (g : S → S) (f : Unit → Act ε E S β) (s : S) :
    (modify g >>= f) s = f () (g s) := rfl

@[simp] theorem bailIf_bind (c : Prop) [Decidable c] (e : ε) (f : Unit → Act ε E S β) (s : S) :
    (bailIf c e >>= f) s = if c then ⟨.err e, s, []⟩ else f () s := by
  by_cases h : c <;> simp [bailIf, h]

theorem bailIf_run (c : Prop) [Decidable c] (e : ε) (s : S) :
    (bailIf c e : Act ε E S Unit) s = if c then ⟨.err e, s, []⟩ else ⟨.ok (), s, []⟩ := by
  by_cases h : c <;> simp [bailIf, h, fail, ret]

@[simp] theorem lift_bind (r : Except ε α) (f : α → Act ε E S β) (s : S) :
    (lift r >>= f) s = match r with
      | .ok a => f a s
      | .error e => ⟨.err e, s, []⟩ := by
  cases r <;> rfl

@[simp] theorem ofOutcome_bind (o : Outcome ε α) (f : α → Act ε E S β) (s : S) :
    (ofOutcome o >>= f) s = match o with
      | .ok a => f a s
      | .err e => ⟨.err e, s, []⟩
      | .panic => ⟨.panic, s, []⟩
      | .stuck => ⟨.stuck, s, []⟩ := by
  cases o <;> rfl

theorem ofOutcome_ok_bind (a : α) (f : α → Act ε E S β) :
    (ofOutcome (.ok a : Outcome ε α) >>= f) = f a := by
  funext s
  rw [ofOutcome_bind]

theorem bind_assoc (x : Act ε E S α) (f : α → Act ε E S β) (g : β → Act ε E S γ) :
    (x >>= f) >>= g = x >>= fun a => f a >>= g := by
  funext s
  rw [bind_run, bind_run, bind_run]
  rcases x s with ⟨out, t, l⟩
  cases out with
  | ok a =>
    rw [follow_ok, follow_ok, bind_run]
    rcases f a t with ⟨out', u, m⟩
    cases out' with
    | ok b => simp only [follow_ok, List.append_assoc]
    | err e => simp only [follow_err]
    | panic => simp only [follow_panic]
    | stuck => simp only [follow_stuck]
  | err e => simp only [follow_err]
  | panic => simp only [follow_panic]
  | stuck => simp only [follow_stuck]

theorem ite_run (c : Prop) [Decidable c] (x y : Act ε E S α) (s : S) :
    (if c then x else y) s = if c then x s else y s := by
  split <;> rfl

/-! Inverting a sequence. -/

theorem bind_eq_ok {x : Act ε E S α} {f : α → Act ε E S β} {s u : S} {b : β} {k : List E} :
    (x >>= f) s = ⟨.ok b, u, k⟩ ↔
      ∃ a t l m, x s = ⟨.ok a, t, l⟩ ∧ f a t = ⟨.ok b, u, m⟩ ∧ k = l ++ m := by
  rw [bind_run]
  rcases x s with ⟨out, t, l⟩
  cases out with
  | ok a =>
    rw [follow_ok]
    rcases hf : f a t with ⟨o, v, m⟩
    constructor
    · intro h
      cases h
      exact ⟨a, t, l, m, rfl, hf, rfl⟩
    · rintro ⟨a', t', l', m', h, hf', rfl⟩
      cases h
      rw [hf] at hf'
      cases hf'
      rfl
  | err e => simp [follow_err]
  | panic => simp [follow_panic]
  | stuck => simp [follow_stuck]

/-- A sequence ends where its first call fails, or as its second call ends. -/
theorem bind_cases {x : Act ε E S α} {f : α → Act ε E S β} (s : S) :
    (∃ a t l, x s = ⟨.ok a, t, l⟩ ∧
      (x >>= f) s = ⟨(f a t).out, (f a t).state, l ++ (f a t).log⟩) ∨
    ((∀ a, (x s).out ≠ .ok a) ∧ (∀ b, ((x >>= f) s).out ≠ .ok b) ∧
      ((x >>= f) s).state = (x s).state ∧ ((x >>= f) s).log = (x s).log ∧
      (((x >>= f) s).out = .stuck → (x s).out = .stuck) ∧
      (((x >>= f) s).out = .panic → (x s).out = .panic)) := by
  rw [bind_run]
  rcases x s with ⟨out, t, l⟩
  cases out with
  | ok a => exact .inl ⟨a, t, l, rfl, rfl⟩
  | err e => exact .inr (by simp [follow_err])
  | panic => exact .inr (by simp [follow_panic])
  | stuck => exact .inr (by simp [follow_stuck])

theorem mem_bind_log {x : Act ε E S α} {f : α → Act ε E S β} {s : S} {e : E} :
    e ∈ ((x >>= f) s).log ↔
      e ∈ (x s).log ∨ ∃ a t, Yields x s a t ∧ e ∈ (f a t).log := by
  unfold Yields
  rw [bind_run]
  rcases x s with ⟨out, t, l⟩
  cases out with
  | ok a => simp [follow_ok]
  | err e' => simp [follow_err]
  | panic => simp [follow_panic]
  | stuck => simp [follow_stuck]

/-- A loop goes on where its turn left it, or ends with the turn. -/
theorem loop_cases (body : β → Act ε E S (β ⊕ α)) (fuel : Nat) (b : β) (s : S) :
    (∃ b' t l, body b s = ⟨.ok (.inl b'), t, l⟩ ∧ loop body (fuel + 1) b s =
      ⟨(loop body fuel b' t).out, (loop body fuel b' t).state, l ++ (loop body fuel b' t).log⟩) ∨
    (loop body (fuel + 1) b s).log = (body b s).log := by
  rw [loop, bind_run]
  rcases body b s with ⟨out, t, l⟩
  cases out with
  | ok r =>
    cases r with
    | inl b' => exact .inl ⟨b', t, l, rfl, rfl⟩
    | inr a => exact .inr (List.append_nil l)
  | err e => exact .inr rfl
  | panic => exact .inr rfl
  | stuck => exact .inr rfl

theorem attempt_eq_ok {x : Act ε E S α} {s t : S} {r : Except ε α} {l : List E} :
    attempt x s = ⟨.ok r, t, l⟩ ↔
      (∃ a, r = .ok a ∧ x s = ⟨.ok a, t, l⟩) ∨ ∃ e, r = .error e ∧ x s = ⟨.err e, t, l⟩ := by
  unfold attempt
  rcases x s with ⟨out, u, m⟩
  cases out <;> simp [eq_comm]

theorem mapErr_eq_ok {g : ε → ε} {x : Act ε E S α} {s t : S} {a : α} {l : List E} :
    mapErr g x s = ⟨.ok a, t, l⟩ ↔ x s = ⟨.ok a, t, l⟩ := by
  unfold mapErr
  rcases x s with ⟨out, u, m⟩
  cases out <;> simp

/-- A loop that ends ends in a turn that breaks, in a state its turns keep. -/
theorem loop_eq_ok {body : β → Act ε E S (β ⊕ α)} {I : β → Prop}
    (keeps : ∀ b b' s t l, I b → body b s = ⟨.ok (.inl b'), t, l⟩ → I b') {fuel : Nat} {b : β}
    {s t : S} {a : α} {l : List E} (hb : I b) (h : loop body fuel b s = ⟨.ok a, t, l⟩) :
    ∃ b' s' front last, I b' ∧ body b' s' = ⟨.ok (.inr a), t, last⟩ ∧ l = front ++ last := by
  induction fuel generalizing b s l with
  | zero => cases h
  | succ fuel ih =>
    obtain ⟨r, u, k, m, turn, rest, rfl⟩ := bind_eq_ok.mp h
    cases r with
    | inl b' =>
      obtain ⟨b'', s', front, last, hI, broke, rfl⟩ := ih (keeps b b' s u k hb turn) rest
      exact ⟨b'', s', k ++ front, last, hI, broke, by simp⟩
    | inr a' =>
      obtain ⟨rfl, rfl, rfl⟩ : a' = a ∧ u = t ∧ m = [] := by
        cases rest
        exact ⟨rfl, rfl, rfl⟩
      exact ⟨b, s, [], k, hb, turn, by simp⟩

theorem ret_eq_ok {a b : α} {s t : S} {l : List E} :
    (ret a : Act ε E S α) s = ⟨.ok b, t, l⟩ ↔ a = b ∧ s = t ∧ l = [] := by
  simp [ret, eq_comm]

theorem modify_eq_ok {f : S → S} {u : Unit} {s t : S} {l : List E} :
    (modify f : Act ε E S Unit) s = ⟨.ok u, t, l⟩ ↔ f s = t ∧ l = [] := by
  simp [modify, eq_comm]

theorem lift_eq_ok {r : Except ε α} {a : α} {s t : S} {l : List E} :
    (lift r : Act ε E S α) s = ⟨.ok a, t, l⟩ ↔ r = .ok a ∧ s = t ∧ l = [] := by
  cases r <;> simp [lift, ret, fail, eq_comm]

theorem bailIf_eq_ok {c : Prop} [Decidable c] {e : ε} {u : Unit} {s t : S} {l : List E} :
    (bailIf c e : Act ε E S Unit) s = ⟨.ok u, t, l⟩ ↔ ¬ c ∧ s = t ∧ l = [] := by
  by_cases h : c <;> simp [bailIf, h, fail, ret, eq_comm]

@[simp] theorem mapErr_state (g : ε → ε) (x : Act ε E S α) (s : S) :
    (mapErr g x s).state = (x s).state := by
  unfold mapErr
  split <;> rfl

@[simp] theorem mapErr_log (g : ε → ε) (x : Act ε E S α) (s : S) :
    (mapErr g x s).log = (x s).log := by
  unfold mapErr
  split <;> rfl

@[simp] theorem attempt_state (x : Act ε E S α) (s : S) : (attempt x s).state = (x s).state := by
  unfold attempt
  split <;> rfl

@[simp] theorem attempt_log (x : Act ε E S α) (s : S) : (attempt x s).log = (x s).log := by
  unfold attempt
  split <;> rfl

end Act

namespace Yields

theorem iff_run {x : Act ε E S α} {s t : S} {a : α} :
    Yields x s a t ↔ ∃ l, x s = ⟨.ok a, t, l⟩ := by
  unfold Yields
  rcases x s with ⟨out, u, l⟩
  simp

theorem det {x : Act ε E S α} {s t t' : S} {a a' : α} (h : Yields x s a t)
    (h' : Yields x s a' t') : a = a' ∧ t = t' := by
  have value : Outcome.ok (ε := ε) a = .ok a' := by rw [← h.1, ← h'.1]
  exact ⟨Outcome.ok.inj value, by rw [← h.2, ← h'.2]⟩

theorem of_value {x : Act ε E S α} {s : S} (h : (x s).out.kind = .value) :
    ∃ a t, Yields x s a t := by
  cases out : (x s).out with
  | ok a => exact ⟨a, _, out, rfl⟩
  | err e =>
    rw [out] at h
    cases h
  | panic =>
    rw [out] at h
    cases h
  | stuck =>
    rw [out] at h
    cases h

theorem bind_iff {x : Act ε E S α} {f : α → Act ε E S β} {s u : S} {b : β} :
    Yields (x >>= f) s b u ↔ ∃ a t, Yields x s a t ∧ Yields (f a) t b u := by
  simp only [iff_run, Act.bind_eq_ok]
  constructor
  · rintro ⟨k, a, t, l, m, hx, hf, rfl⟩
    exact ⟨a, t, ⟨l, hx⟩, ⟨m, hf⟩⟩
  · rintro ⟨a, t, ⟨l, hx⟩, ⟨m, hf⟩⟩
    exact ⟨l ++ m, a, t, l, m, hx, hf, rfl⟩

theorem ret_iff {a b : α} {s t : S} :
    Yields (Act.ret a : Act ε E S α) s b t ↔ a = b ∧ s = t := by
  simp [iff_run, Act.ret_eq_ok]

theorem get_iff {a s t : S} : Yields (Act.get : Act ε E S S) s a t ↔ s = a ∧ s = t := by
  simp [Yields, Act.get]

theorem modify_iff {f : S → S} {u : Unit} {s t : S} :
    Yields (Act.modify f : Act ε E S Unit) s u t ↔ f s = t := by
  simp [Yields, Act.modify]

theorem lift_iff {r : Except ε α} {a : α} {s t : S} :
    Yields (Act.lift r : Act ε E S α) s a t ↔ r = .ok a ∧ s = t := by
  simp [iff_run, Act.lift_eq_ok]

theorem ofOutcome_iff {o : Outcome ε α} {a : α} {s t : S} :
    Yields (Act.ofOutcome o : Act ε E S α) s a t ↔ o = .ok a ∧ s = t := Iff.rfl

theorem bailIf_iff {c : Prop} [Decidable c] {e : ε} {u : Unit} {s t : S} :
    Yields (Act.bailIf c e : Act ε E S Unit) s u t ↔ ¬ c ∧ s = t := by
  simp [iff_run, Act.bailIf_eq_ok]

theorem mapErr_iff {g : ε → ε} {x : Act ε E S α} {s t : S} {a : α} :
    Yields (Act.mapErr g x) s a t ↔ Yields x s a t := by
  simp only [iff_run, Act.mapErr_eq_ok]

theorem attempt_ok_iff {x : Act ε E S α} {a : α} {s t : S} :
    Yields (Act.attempt x) s (.ok a) t ↔ Yields x s a t := by
  simp only [iff_run, Act.attempt_eq_ok]
  constructor
  · rintro ⟨l, ⟨b, hb, run⟩ | ⟨e, he, _⟩⟩
    · cases hb
      exact ⟨l, run⟩
    · cases he
  · rintro ⟨l, run⟩
    exact ⟨l, .inl ⟨a, rfl, run⟩⟩

theorem zoom_iff {view : T → S} {put : S → T → T} {x : Act ε E S α} {s t : T} {a : α} :
    Yields (Act.zoom view put x) s a t ↔ ∃ v, Yields x (view s) a v ∧ put v s = t := by
  unfold Yields Act.zoom
  simp

end Yields

/-! What every run of a call keeps: a relation between the state before, the entries
logged and the state after that composes along a sequence. -/

class Composes (R : S → List E → S → Prop) : Prop where
  nil : ∀ s, R s [] s
  append : ∀ {s t u l m}, R s l t → R t m u → R s (l ++ m) u

def Respects (R : S → List E → S → Prop) (x : Act ε E S α) : Prop :=
  ∀ s, R s (x s).log (x s).state

/-- Leaving a part of the state alone composes. -/
instance unchanged_composes {V : Type} (view : S → V) :
    Composes fun (s : S) (_ : List E) t => view t = view s where
  nil := fun _ => rfl
  append := fun h h' => h'.trans h

namespace Respects

variable {R : S → List E → S → Prop}

theorem ret [h : Composes R] (a : α) : Respects R (Act.ret a : Act ε E S α) := fun s => h.nil s

theorem fail [h : Composes R] (e : ε) : Respects R (Act.fail e : Act ε E S α) := fun s => h.nil s

theorem crash [h : Composes R] : Respects R (Act.crash : Act ε E S α) := fun s => h.nil s

theorem starve [h : Composes R] : Respects R (Act.starve : Act ε E S α) := fun s => h.nil s

theorem bailIf [h : Composes R] (c : Prop) [Decidable c] (e : ε) :
    Respects R (Act.bailIf c e : Act ε E S Unit) := by
  intro s
  unfold Act.bailIf
  split <;> exact h.nil s

theorem get [h : Composes R] : Respects R (Act.get : Act ε E S S) := fun s => h.nil s

theorem modify {f : S → S} (hf : ∀ s, R s [] (f s)) : Respects R (Act.modify f : Act ε E S Unit) :=
  hf

theorem yields {x : Act ε E S α} (hx : Respects R x) {s t : S} {a : α} (h : Yields x s a t) :
    ∃ l, R s l t := ⟨(x s).log, h.2 ▸ hx s⟩

theorem lift [h : Composes R] (r : Except ε α) : Respects R (Act.lift r : Act ε E S α) := by
  intro s
  cases r <;> exact h.nil s

theorem ofOutcome [h : Composes R] (o : Outcome ε α) :
    Respects R (Act.ofOutcome o : Act ε E S α) := fun s => h.nil s

theorem bind_of [h : Composes R] {x : Act ε E S α} {f : α → Act ε E S β} (hx : Respects R x)
    (hf : ∀ s a t, Yields x s a t → R t (f a t).log (f a t).state) : Respects R (x >>= f) := by
  intro s
  rcases Act.bind_cases (x := x) (f := f) s with ⟨a, t, l, hs, hb⟩ | ⟨_, _, hs, hl, _⟩
  · have first := hx s
    rw [hs] at first
    rw [hb]
    exact h.append first (hf s a t (Yields.iff_run.mpr ⟨l, hs⟩))
  · rw [hs, hl]
    exact hx s

theorem bind_yielded [h : Composes R] {x : Act ε E S α} {f : α → Act ε E S β}
    (hx : Respects R x) (hf : ∀ {s a t}, Yields x s a t → Respects R (f a)) :
    Respects R (x >>= f) := bind_of hx fun _ _ t run => hf run t

theorem bind [h : Composes R] {x : Act ε E S α} {f : α → Act ε E S β} (hx : Respects R x)
    (hf : ∀ a, Respects R (f a)) : Respects R (x >>= f) :=
  bind_of hx fun _ a t _ => hf a t

theorem attempt {x : Act ε E S α} (hx : Respects R x) : Respects R (Act.attempt x) := by
  intro s
  simpa using hx s

theorem mapErr {x : Act ε E S α} (g : ε → ε) (hx : Respects R x) :
    Respects R (Act.mapErr g x) := by
  intro s
  simpa using hx s

theorem ignore [h : Composes R] {x : Act ε E S α} (hx : Respects R x) :
    Respects R (Act.ignore x) :=
  bind hx.attempt fun _ => ret ()

theorem ite {c : Prop} [Decidable c] {x y : Act ε E S α} (hx : Respects R x)
    (hy : Respects R y) : Respects R (if c then x else y) := by
  split
  · exact hx
  · exact hy

theorem loop [h : Composes R] {body : β → Act ε E S (β ⊕ α)} (hb : ∀ b, Respects R (body b))
    (fuel : Nat) (b : β) : Respects R (Act.loop body fuel b) := by
  induction fuel generalizing b with
  | zero => exact starve
  | succ fuel ih =>
    refine bind (hb b) fun r => ?_
    cases r with
    | inl b' => exact ih b'
    | inr a => exact ret a

end Respects

/-! What a run's log satisfies when the call returns a value (`J`), and when it does not
(`K`). -/

class Chains (J K : List E → Prop) : Prop where
  nil : J []
  append : ∀ {l m}, J l → J m → J (l ++ m)
  cut : ∀ {l m}, J l → K m → K (l ++ m)
  weaken : ∀ {l}, J l → K l

/-- How the log of a run may look, given how the run ended. -/
def Ends (J K : List E → Prop) (r : Result ε E S α) : Prop :=
  match r.out with
  | .ok _ => J r.log
  | _ => K r.log

/-- Every run of the call ends so. -/
def Keeps (J K : List E → Prop) (x : Act ε E S α) : Prop := ∀ s, Ends J K (x s)

namespace Keeps

variable {J K : List E → Prop}

theorem ret [h : Chains J K] (a : α) : Keeps J K (Act.ret a : Act ε E S α) := fun _ => h.nil

theorem fail [h : Chains J K] (e : ε) : Keeps J K (Act.fail e : Act ε E S α) :=
  fun _ => h.weaken h.nil

theorem starve [h : Chains J K] : Keeps J K (Act.starve : Act ε E S α) := fun _ => h.weaken h.nil

theorem bailIf [h : Chains J K] (c : Prop) [Decidable c] (e : ε) :
    Keeps J K (Act.bailIf c e : Act ε E S Unit) := by
  unfold Act.bailIf
  split
  · exact fail e
  · exact ret ()

theorem lift [h : Chains J K] (r : Except ε α) : Keeps J K (Act.lift r : Act ε E S α) := by
  cases r with
  | error e => exact fail e
  | ok a => exact ret a

theorem ofOutcome [h : Chains J K] (o : Outcome ε α) :
    Keeps J K (Act.ofOutcome o : Act ε E S α) := by
  intro s
  cases o with
  | ok a => exact h.nil
  | err e => exact h.weaken h.nil
  | panic => exact h.weaken h.nil
  | stuck => exact h.weaken h.nil

theorem bind [h : Chains J K] {x : Act ε E S α} {f : α → Act ε E S β} (hx : Keeps J K x)
    (hf : ∀ a, Keeps J K (f a)) : Keeps J K (x >>= f) := by
  intro s
  have first := hx s
  rw [Act.bind_run]
  generalize x s = r at first
  rcases r with ⟨out, t, l⟩
  cases out with
  | ok a =>
    have second := hf a t
    rw [Act.follow_ok]
    generalize f a t = r' at second
    rcases r' with ⟨out', u, m⟩
    cases out' with
    | ok b => exact h.append first second
    | err e => exact h.cut first second
    | panic => exact h.cut first second
    | stuck => exact h.cut first second
  | err e => exact first
  | panic => exact first
  | stuck => exact first

theorem ite {c : Prop} [Decidable c] {x y : Act ε E S α} (hx : Keeps J K x)
    (hy : Keeps J K y) : Keeps J K (if c then x else y) := by
  split
  · exact hx
  · exact hy

theorem loop [h : Chains J K] {body : β → Act ε E S (β ⊕ α)} (hb : ∀ b, Keeps J K (body b))
    (fuel : Nat) (b : β) : Keeps J K (Act.loop body fuel b) := by
  induction fuel generalizing b with
  | zero => exact starve
  | succ fuel ih =>
    refine bind (hb b) fun r => ?_
    cases r with
    | inl b' => exact ih b'
    | inr a => exact ret a

end Keeps

/-- Every entry a call logs has the property `p`. -/
def Emits (p : E → Prop) (x : Act ε E S α) : Prop := ∀ s, ∀ e ∈ (x s).log, p e

namespace Emits

variable {p : E → Prop}

instance composes (p : E → Prop) : Composes fun (_ : S) l (_ : S) => ∀ e ∈ l, p e where
  nil := by simp
  append := by
    intro s t u l m hl hm e he
    cases List.mem_append.mp he with
    | inl he => exact hl e he
    | inr he => exact hm e he

theorem ret (a : α) : Emits p (Act.ret a : Act ε E S α) :=
  Respects.ret (R := fun _ l _ => ∀ e ∈ l, p e) a

theorem fail (e : ε) : Emits p (Act.fail e : Act ε E S α) :=
  Respects.fail (R := fun _ l _ => ∀ e ∈ l, p e) e

theorem bailIf (c : Prop) [Decidable c] (e : ε) : Emits p (Act.bailIf c e : Act ε E S Unit) :=
  Respects.bailIf (R := fun _ l _ => ∀ e ∈ l, p e) c e

theorem lift (r : Except ε α) : Emits p (Act.lift r : Act ε E S α) :=
  Respects.lift (R := fun _ l _ => ∀ e ∈ l, p e) r

theorem bind {x : Act ε E S α} {f : α → Act ε E S β} (hx : Emits p x) (hf : ∀ a, Emits p (f a)) :
    Emits p (x >>= f) := Respects.bind (R := fun _ l _ => ∀ e ∈ l, p e) hx hf

theorem attempt {x : Act ε E S α} (hx : Emits p x) : Emits p (Act.attempt x) :=
  Respects.attempt (R := fun _ l _ => ∀ e ∈ l, p e) hx

theorem ignore {x : Act ε E S α} (hx : Emits p x) : Emits p (Act.ignore x) :=
  bind hx.attempt fun _ => ret ()

end Emits

/-- An entry with the property makes the call fail: none is overlooked. -/
def Heeds (p : E → Prop) (x : Act ε E S α) : Prop :=
  ∀ s, ∀ e ∈ (x s).log, p e → ∃ err, (x s).out = .err err

namespace Heeds

variable {p : E → Prop}

theorem silent {x : Act ε E S α} (h : ∀ s, (x s).log = []) : Heeds p x := by
  intro s e mem
  rw [h s] at mem
  cases mem

theorem ret (a : α) : Heeds p (Act.ret a : Act ε E S α) := silent fun _ => rfl

theorem lift (r : Except ε α) : Heeds p (Act.lift r : Act ε E S α) := by
  cases r <;> exact silent fun _ => rfl

theorem ofOutcome (o : Outcome ε α) : Heeds p (Act.ofOutcome o : Act ε E S α) := silent fun _ => rfl

theorem mapErr {g : ε → ε} {x : Act ε E S α} (hx : Heeds p x) : Heeds p (Act.mapErr g x) := by
  intro s e mem bad
  rw [Act.mapErr_log] at mem
  obtain ⟨err, out⟩ := hx s e mem bad
  exact ⟨g err, by simp only [Act.mapErr, out]⟩

theorem bind {x : Act ε E S α} {f : α → Act ε E S β} (hx : Heeds p x) (hf : ∀ a, Heeds p (f a)) :
    Heeds p (x >>= f) := by
  intro s e mem bad
  have first := hx s
  rw [Act.bind_run] at mem ⊢
  generalize x s = r at first mem ⊢
  rcases r with ⟨out, t, l⟩
  cases out with
  | ok a =>
    rw [Act.follow_ok] at mem ⊢
    cases List.mem_append.mp mem with
    | inl early =>
      obtain ⟨err, ok⟩ := first e early bad
      cases ok
    | inr late => exact hf a t e late bad
  | err err => exact ⟨err, rfl⟩
  | panic =>
    obtain ⟨err, fails⟩ := first e mem bad
    cases fails
  | stuck =>
    obtain ⟨err, fails⟩ := first e mem bad
    cases fails

theorem ite {c : Prop} [Decidable c] {x y : Act ε E S α} (hx : Heeds p x) (hy : Heeds p y) :
    Heeds p (if c then x else y) := by
  split
  · exact hx
  · exact hy

end Heeds

/-- An error without the property `P` has an entry with the property `p` behind it. -/
def Explains (p : E → Prop) (P : ε → Prop) (x : Act ε E S α) : Prop :=
  ∀ s e, (x s).out = .err e → P e ∨ ∃ entry ∈ (x s).log, p entry

namespace Explains

variable {p : E → Prop} {P : ε → Prop}

theorem ofOutcome {o : Outcome ε α} (h : o.Fails P) :
    Explains p P (Act.ofOutcome o : Act ε E S α) := fun _ e failed => .inl (h e failed)

theorem ret (a : α) : Explains p P (Act.ret a : Act ε E S α) := ofOutcome (.ok a)

theorem starve : Explains p P (Act.starve : Act ε E S α) := ofOutcome .stuck

theorem bailIf {c : Prop} [Decidable c] {e : ε} (h : P e) :
    Explains p P (Act.bailIf c e : Act ε E S Unit) := by
  unfold Act.bailIf
  split
  · exact ofOutcome (.err h)
  · exact ret ()

theorem mapErr {g : ε → ε} (h : ∀ e, P (g e)) (x : Act ε E S α) :
    Explains p P (Act.mapErr g x) := by
  intro s e failed
  unfold Act.mapErr at failed
  cases out : (x s).out with
  | err e' =>
    rw [out] at failed
    cases failed
    exact .inl (h e')
  | ok a => simp [out] at failed
  | panic => simp [out] at failed
  | stuck => simp [out] at failed

theorem bind {x : Act ε E S α} {f : α → Act ε E S β} (hx : Explains p P x)
    (hf : ∀ a, Explains p P (f a)) : Explains p P (x >>= f) := by
  intro s e failed
  have first := hx s
  rw [Act.bind_run] at failed ⊢
  generalize x s = r at first failed ⊢
  rcases r with ⟨out, t, l⟩
  cases out with
  | ok a =>
    rw [Act.follow_ok] at failed ⊢
    refine (hf a t e failed).imp_right ?_
    rintro ⟨entry, mem, found⟩
    exact ⟨entry, List.mem_append_right _ mem, found⟩
  | err e' =>
    cases failed
    exact first e rfl
  | panic => cases failed
  | stuck => cases failed

theorem ite {c : Prop} [Decidable c] {x y : Act ε E S α} (hx : Explains p P x)
    (hy : Explains p P y) : Explains p P (if c then x else y) := by
  split
  · exact hx
  · exact hy

theorem loop {body : β → Act ε E S (β ⊕ α)} (hb : ∀ b, Explains p P (body b)) (fuel : Nat)
    (b : β) : Explains p P (Act.loop body fuel b) := by
  induction fuel generalizing b with
  | zero => exact starve
  | succ fuel ih =>
    refine bind (hb b) fun r => ?_
    cases r with
    | inl b' => exact ih b'
    | inr a => exact ret a

end Explains

/-! The ways a call can end. -/

def Within (K : Kind → Prop) (x : Act ε E S α) : Prop := ∀ s, K (x s).out.kind

namespace Within

variable {K : Kind → Prop}

theorem ret (hv : K .value) (a : α) : Within K (Act.ret a : Act ε E S α) := fun _ => hv

theorem fail (he : K .error) (e : ε) : Within K (Act.fail e : Act ε E S α) := fun _ => he

theorem bailIf (hv : K .value) (he : K .error) (c : Prop) [Decidable c] (e : ε) :
    Within K (Act.bailIf c e : Act ε E S Unit) := by
  unfold Act.bailIf
  split
  · exact fail he e
  · exact ret hv ()

theorem lift (hv : K .value) (he : K .error) (r : Except ε α) :
    Within K (Act.lift r : Act ε E S α) := by
  cases r with
  | error e => exact fail he e
  | ok a => exact ret hv a

theorem ofOutcome {o : Outcome ε α} (h : K o.kind) : Within K (Act.ofOutcome o : Act ε E S α) :=
  fun _ => h

theorem bind_of {x : Act ε E S α} {f : α → Act ε E S β} (hx : Within K x)
    (hf : ∀ a s t l, x s = ⟨.ok a, t, l⟩ → K (f a t).out.kind) : Within K (x >>= f) := by
  intro s
  have first := hx s
  rw [Act.bind_run]
  rcases run : x s with ⟨out, t, l⟩
  rw [run] at first
  cases out with
  | ok a => exact hf a s t l run
  | err e => exact first
  | panic => exact first
  | stuck => exact first

theorem bind {x : Act ε E S α} {f : α → Act ε E S β} (hx : Within K x) (hf : ∀ a, Within K (f a)) :
    Within K (x >>= f) := bind_of hx fun a _ t _ _ => hf a t

theorem attempt {x : Act ε E S α} (hv : K .value) (hx : ∀ s, (x s).out.kind = .error ∨
    K (x s).out.kind) : Within K (Act.attempt x) := by
  intro s
  have run := hx s
  unfold Act.attempt
  generalize x s = r at run
  rcases r with ⟨out, t, l⟩
  cases out with
  | ok a => exact hv
  | err e => exact hv
  | panic => simpa [Outcome.kind] using run
  | stuck => simpa [Outcome.kind] using run

theorem ignore {x : Act ε E S α} (hv : K .value) (hx : ∀ s, (x s).out.kind = .error ∨
    K (x s).out.kind) : Within K (Act.ignore x) :=
  bind (attempt hv hx) fun _ => ret hv ()

theorem mapErr {x : Act ε E S α} (g : ε → ε) (hx : Within K x) : Within K (Act.mapErr g x) := by
  intro s
  have run := hx s
  unfold Act.mapErr
  generalize x s = r at run
  rcases r with ⟨out, t, l⟩
  cases out <;> exact run

theorem ite {c : Prop} [Decidable c] {x y : Act ε E S α} (hx : Within K x) (hy : Within K y) :
    Within K (if c then x else y) := by
  split
  · exact hx
  · exact hy

theorem loop (hs : K .stuck) (hv : K .value) {body : β → Act ε E S (β ⊕ α)}
    (hb : ∀ b, Within K (body b)) (fuel : Nat) (b : β) : Within K (Act.loop body fuel b) := by
  induction fuel generalizing b with
  | zero => exact fun _ => hs
  | succ fuel ih =>
    refine bind (hb b) fun r => ?_
    cases r with
    | inl b' => exact ih b'
    | inr a => exact ret hv a

theorem guard (he : K .error) {c : Prop} [Decidable c] {e : ε} {f : Unit → Act ε E S α}
    (hf : ¬ c → Within K (f ())) : Within K (Act.bailIf c e >>= f) := by
  intro s
  rw [Act.bailIf_bind]
  by_cases h : c
  · rw [if_pos h]
    exact he
  · rw [if_neg h]
    exact hf h s

end Within

/-- The call ended in a value or an error. -/
def Returned (k : Kind) : Prop := k = .value ∨ k = .error

theorem Returned.value : Returned .value := .inl rfl

theorem Returned.error : Returned .error := .inr rfl

namespace Outcome

theorem bind_returned {x : Outcome ε α} {f : α → Outcome ε β} (hx : Returned x.kind)
    (hf : ∀ a, x = .ok a → Returned (f a).kind) : Returned (x >>= f).kind := by
  cases x with
  | ok a => exact hf a rfl
  | err e => exact .error
  | panic => exact hx
  | stuck => exact hx

theorem eq_of_returned {x : Outcome ε α} (h : Returned x.kind) :
    (∃ a, x = .ok a) ∨ ∃ e, x = .err e := by
  cases x with
  | ok a => exact .inl ⟨a, rfl⟩
  | err e => exact .inr ⟨e, rfl⟩
  | panic => cases h <;> contradiction
  | stuck => cases h <;> contradiction

theorem guard_returned {c : Prop} [Decidable c] {e : ε} {f : Unit → Outcome ε β}
    (hf : ¬ c → Returned (f ()).kind) : Returned (bailIf c e >>= f).kind := by
  by_cases h : c
  · simp only [bailIf, if_pos h]
    exact .error
  · simp only [bailIf, if_neg h]
    exact hf h

theorem ofOption_returned (e : ε) (o : Option α) : Returned (ofOption e o).kind := by
  cases o with
  | some a => exact .value
  | none => exact .error

theorem each_returned {f : α → Outcome ε β} {l : List α} (h : ∀ a ∈ l, Returned (f a).kind) :
    Returned (each f l).kind := by
  induction l with
  | nil => exact .value
  | cons a l ih =>
    refine bind_returned (h a (by simp)) fun b _ => ?_
    exact bind_returned (ih fun c hc => h c (by simp [hc])) fun bs _ => .value

end Outcome

/-- With enough fuel, every run of the call returns. -/
def Finishes (X : Nat → Act ε E S α) : Prop := ∀ s, ∃ fuel, Returned (X fuel s).out.kind

namespace Finishes

theorem bind {x : Act ε E S α} {f : Nat → α → Act ε E S β} (hx : Within Returned x)
    (hf : ∀ a, Finishes fun fuel => f fuel a) : Finishes fun fuel => x >>= f fuel := by
  intro s
  have first := hx s
  simp only [Act.bind_run]
  generalize x s = r at first
  rcases r with ⟨out, t, l⟩
  cases out with
  | ok a => exact hf a t
  | err e => exact ⟨0, .error⟩
  | panic => exact ⟨0, first⟩
  | stuck => exact ⟨0, first⟩

theorem attempt {X : Nat → Act ε E S α} (hX : Finishes X) :
    Finishes fun fuel => Act.attempt (X fuel) := by
  intro s
  obtain ⟨fuel, run⟩ := hX s
  refine ⟨fuel, ?_⟩
  simp only [Act.attempt]
  generalize X fuel s = r at run
  rcases r with ⟨out, t, l⟩
  cases out with
  | ok a => exact .value
  | err e => exact .value
  | panic => exact run
  | stuck => exact run

theorem andThen {X : Nat → Act ε E S α} {f : α → Act ε E S β} (hX : Finishes X)
    (hf : ∀ a, Within Returned (f a)) : Finishes fun fuel => X fuel >>= f := by
  intro s
  obtain ⟨fuel, run⟩ := hX s
  refine ⟨fuel, ?_⟩
  simp only [Act.bind_run]
  generalize X fuel s = r at run
  rcases r with ⟨out, t, l⟩
  cases out with
  | ok a => exact hf a t
  | err e => exact run
  | panic => exact run
  | stuck => exact run

/-- A loop whose turns all return, and go on only where a measure of the state falls. -/
theorem loop (μ : S → Nat) {body : β → Act ε E S (β ⊕ α)} (hb : ∀ b, Within Returned (body b))
    (falls : ∀ b b' s t l, body b s = ⟨.ok (.inl b'), t, l⟩ → μ t < μ s) (b : β) :
    Finishes fun fuel => Act.loop body fuel b := by
  intro s
  induction hm : μ s using Nat.strongRecOn generalizing b s with
  | ind m ih =>
    have turn := hb b s
    rcases hr : body b s with ⟨out, t, l⟩
    have run : ∀ n, (Act.loop body (n + 1) b s).out.kind = (Act.follow ⟨out, t, l⟩ fun r =>
        match r with
        | .inl b' => Act.loop body n b'
        | .inr a => Act.ret a).out.kind := by
      intro n
      rw [← hr]
      rfl
    rw [hr] at turn
    cases out with
    | ok r =>
      cases r with
      | inl b' =>
        obtain ⟨n, rest⟩ := ih (μ t) (hm ▸ falls b b' s t l hr) b' t rfl
        exact ⟨n + 1, (run n).symm ▸ rest⟩
      | inr a => exact ⟨1, (run 0).symm ▸ .value⟩
    | err e => exact ⟨1, (run 0).symm ▸ .error⟩
    | panic => exact ⟨1, (run 0).symm ▸ turn⟩
    | stuck => exact ⟨1, (run 0).symm ▸ turn⟩

end Finishes

/-! Fuel: a call with more of it goes on where one with less is stuck, and is
otherwise the same. -/

def Below (x y : Act ε E S α) : Prop := ∀ s, (x s).out = .stuck ∨ x s = y s

namespace Below

theorem refl (x : Act ε E S α) : Below x x := fun _ => .inr rfl

theorem eq_of_returns {x y : Act ε E S α} (h : Below x y) {s : S} (hs : (x s).out ≠ .stuck) :
    y s = x s := ((h s).resolve_left hs).symm

theorem bind {x y : Act ε E S α} {f g : α → Act ε E S β} (hx : Below x y)
    (hf : ∀ a, Below (f a) (g a)) : Below (x >>= f) (y >>= g) := by
  intro s
  rw [Act.bind_run, Act.bind_run]
  rcases hx s with h | h
  · refine .inl ?_
    unfold Act.follow
    rw [h]
  · rw [← h]
    rcases x s with ⟨out, t, l⟩
    cases out with
    | ok a =>
      simp only [Act.follow_ok]
      rcases hf a t with hs | hs
      · exact .inl hs
      · exact .inr (by rw [hs])
    | err e => exact .inr rfl
    | panic => exact .inr rfl
    | stuck => exact .inl rfl

theorem attempt {x y : Act ε E S α} (hx : Below x y) : Below (Act.attempt x) (Act.attempt y) := by
  intro s
  rcases hx s with h | h
  · refine .inl ?_
    unfold Act.attempt
    rw [h]
  · exact .inr (by rw [Act.attempt, Act.attempt, h])

theorem ignore {x y : Act ε E S α} (hx : Below x y) : Below (Act.ignore x) (Act.ignore y) :=
  bind hx.attempt fun _ => refl _

theorem loop {body body' : β → Act ε E S (β ⊕ α)} (hb : ∀ b, Below (body b) (body' b))
    {n m : Nat} (h : n ≤ m) (b : β) : Below (Act.loop body n b) (Act.loop body' m b) := by
  induction n generalizing m b with
  | zero => exact fun _ => .inl rfl
  | succ n ih =>
    obtain ⟨m, rfl⟩ : ∃ k, m = k + 1 := ⟨m - 1, by omega⟩
    refine bind (hb b) fun r => ?_
    cases r with
    | inl b' => exact ih (by omega) b'
    | inr a => exact refl _

end Below

/-! What a call ends in, and what of its state is seen then. -/

def Lands {V : Type} (view : S → V) (x : Act ε E S α) (s : S) (o : Outcome ε α) (v : V) : Prop :=
  (x s).out = o ∧ view (x s).state = v

namespace Lands

variable {V : Type} {view : S → V} {v v' : V} {s : S}

theorem ret (a : α) (h : view s = v) : Lands view (Act.ret a : Act ε E S α) s (.ok a) v := ⟨rfl, h⟩

theorem ofOutcome (o : Outcome ε α) (h : view s = v) :
    Lands view (Act.ofOutcome o : Act ε E S α) s o v := ⟨rfl, h⟩

theorem bind {x : Act ε E S α} {f : α → Act ε E S β} {o : Outcome ε α} {g : α → Outcome ε β}
    (hx : Lands view x s o v) (hf : ∀ a t, view t = v → Lands view (f a) t (g a) v) :
    Lands view (x >>= f) s (o >>= g) v := by
  unfold Lands at hx ⊢
  rw [Act.bind_run]
  generalize x s = r at hx
  rcases r with ⟨out, t, l⟩
  obtain ⟨rfl, seen⟩ := hx
  cases out with
  | ok a => exact hf a t seen
  | err e => exact ⟨rfl, seen⟩
  | panic => exact ⟨rfl, seen⟩
  | stuck => exact ⟨rfl, seen⟩

theorem bind_ok {x : Act ε E S α} {f : α → Act ε E S β} {a : α} {o : Outcome ε β}
    (hx : Lands view x s (.ok a) v) (hf : ∀ t, view t = v → Lands view (f a) t o v') :
    Lands view (x >>= f) s o v' := by
  unfold Lands at hx ⊢
  rw [Act.bind_run]
  generalize x s = r at hx
  rcases r with ⟨out, t, l⟩
  obtain ⟨rfl, seen⟩ := hx
  exact hf t seen

theorem attempt_ok {x : Act ε E S α} {a : α} (hx : Lands view x s (.ok a) v) :
    Lands view (Act.attempt x) s (.ok (.ok a)) v := by
  unfold Lands Act.attempt at *
  rw [hx.1]
  exact ⟨rfl, hx.2⟩

theorem attempt_err {x : Act ε E S α} {e : ε} (hx : Lands view x s (.err e) v) :
    Lands view (Act.attempt x) s (.ok (.error e)) v := by
  unfold Lands Act.attempt at *
  rw [hx.1]
  exact ⟨rfl, hx.2⟩

theorem bind_err {x : Act ε E S α} {f : α → Act ε E S β} {e : ε} (hx : Lands view x s (.err e) v) :
    Lands view (x >>= f) s (.err e) v := by
  unfold Lands at hx ⊢
  rw [Act.bind_run]
  generalize x s = r at hx
  rcases r with ⟨out, t, l⟩
  obtain ⟨rfl, seen⟩ := hx
  exact ⟨rfl, seen⟩

theorem ite {c : Prop} [Decidable c] {x y : Act ε E S α} {o : Outcome ε α}
    (hx : c → Lands view x s o v) (hy : ¬ c → Lands view y s o v) :
    Lands view (if c then x else y) s o v := by
  by_cases h : c
  · rw [if_pos h]
    exact hx h
  · rw [if_neg h]
    exact hy h

end Lands

end Effect
