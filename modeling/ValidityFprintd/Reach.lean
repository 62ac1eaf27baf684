import ValidityFprintd.Effect

/-! What a call that takes fuel returns with enough of it, said without the fuel: a sequence by
its two calls, a loop by its turns. -/

namespace Effect

variable {ε E S α β : Type}

/-- With enough fuel the call returns `a`. -/
def Reaches (X : Nat → Act ε E S α) (s : S) (a : α) (t : S) : Prop := ∃ fuel, Yields (X fuel) s a t

/-- More fuel changes nothing but calls that ran out of it. -/
def Grows (X : Nat → Act ε E S α) : Prop := ∀ n m, n ≤ m → Below (X n) (X m)

theorem Below.yields {x y : Act ε E S α} (h : Below x y) {s t : S} {a : α}
    (run : Yields x s a t) : Yields y s a t := by
  have same := h.eq_of_returns (s := s) (by rw [run.1]; nofun)
  rwa [Yields, same]

namespace Grows

variable {X : Nat → Act ε E S α}

theorem const (x : Act ε E S α) : Grows fun _ => x := fun _ _ _ => .refl x

theorem bind {F : Nat → α → Act ε E S β} (hX : Grows X) (hF : ∀ a, Grows fun n => F n a) :
    Grows fun n => X n >>= F n := fun n m h => .bind (hX n m h) fun a => hF a n m h

theorem attempt (hX : Grows X) : Grows fun n => Act.attempt (X n) := fun n m h => (hX n m h).attempt

theorem ignore (hX : Grows X) : Grows fun n => Act.ignore (X n) := fun n m h => (hX n m h).ignore

theorem loop {body : Nat → β → Act ε E S (β ⊕ α)} (hb : ∀ b, Grows fun n => body n b) (b : β) :
    Grows fun n => Act.loop (body n) n b := fun n m h => .loop (fun c => hb c n m h) h b

theorem yields (h : Grows X) {n m : Nat} (more : n ≤ m) {s t : S} {a : α}
    (run : Yields (X n) s a t) : Yields (X m) s a t := (h n m more).yields run

end Grows

/-- Turn after turn, until one breaks. -/
inductive Repeats (R : β → S → β ⊕ α → S → Prop) : β → S → α → S → Prop
  | last {b : β} {s t : S} {a : α} : R b s (.inr a) t → Repeats R b s a t
  | more {b b' : β} {s t u : S} {a : α} :
      R b s (.inl b') t → Repeats R b' t a u → Repeats R b s a u

theorem Repeats.congr {R R' : β → S → β ⊕ α → S → Prop} (same : ∀ b s r t, R b s r t ↔ R' b s r t)
    {b : β} {s t : S} {a : α} : Repeats R b s a t ↔ Repeats R' b s a t := by
  have both : R = R' := by
    funext b s r t
    exact propext (same b s r t)
  rw [both]

namespace Reaches

variable {X : Nat → Act ε E S α} {s t u : S} {a : α}

theorem const_iff {x : Act ε E S α} : Reaches (fun _ => x) s a t ↔ Yields x s a t :=
  ⟨fun ⟨_, run⟩ => run, fun run => ⟨0, run⟩⟩

theorem bind_iff {F : Nat → α → Act ε E S β} (hX : Grows X) (hF : ∀ a, Grows fun n => F n a)
    {b : β} : Reaches (fun n => X n >>= F n) s b u ↔
      ∃ a t, Reaches X s a t ∧ Reaches (fun n => F n a) t b u := by
  constructor
  · rintro ⟨fuel, run⟩
    obtain ⟨a, t, first, rest⟩ := Yields.bind_iff.mp run
    exact ⟨a, t, ⟨fuel, first⟩, fuel, rest⟩
  · rintro ⟨a, t, ⟨n, first⟩, m, rest⟩
    exact ⟨max n m, Yields.bind_iff.mpr ⟨a, t, hX.yields (Nat.le_max_left n m) first,
      (hF a).yields (Nat.le_max_right n m) rest⟩⟩

theorem attempt_ok_iff :
    Reaches (fun n => Act.attempt (X n)) s (.ok a) t ↔ Reaches X s a t :=
  exists_congr fun _ => Yields.attempt_ok_iff

theorem loop_iff {body : Nat → β → Act ε E S (β ⊕ α)} (grows : ∀ b, Grows fun n => body n b)
    {b : β} : Reaches (fun n => Act.loop (body n) n b) s a t ↔
      Repeats (fun b s r t => Reaches (fun n => body n b) s r t) b s a t := by
  constructor
  · rintro ⟨fuel, run⟩
    -- by induction on the turns left, each with the fuel of the first
    suffices turns : ∀ loops b s, Yields (Act.loop (body fuel) loops b) s a t →
        Repeats (fun b s r t => Reaches (fun n => body n b) s r t) b s a t from turns fuel b s run
    intro loops
    induction loops with
    | zero =>
      intro b s run
      cases run.1
    | succ loops ih =>
      intro b s run
      obtain ⟨r, u, turn, rest⟩ := Yields.bind_iff.mp run
      cases r with
      | inl b' => exact .more ⟨fuel, turn⟩ (ih b' u rest)
      | inr a' =>
        obtain ⟨rfl, rfl⟩ := Yields.ret_iff.mp rest
        exact .last ⟨fuel, turn⟩
  · intro h
    induction h with
    | @last b s t a turn =>
      obtain ⟨n, turn⟩ := turn
      exact ⟨n + 1, Yields.bind_iff.mpr
        ⟨.inr a, t, (grows b).yields (Nat.le_succ n) turn, rfl, rfl⟩⟩
    | @more b b' s t u a turn _ ih =>
      obtain ⟨n, turn⟩ := turn
      obtain ⟨m, rest⟩ := ih
      have enough : Below (Act.loop (body m) m b') (Act.loop (body (max n m + 1)) (max n m) b') :=
        .loop (fun c => grows c m _ (by omega)) (Nat.le_max_right n m) b'
      exact ⟨max n m + 1, Yields.bind_iff.mpr
        ⟨.inl b', t, (grows b).yields (by omega) turn, enough.yields rest⟩⟩

end Reaches

end Effect
