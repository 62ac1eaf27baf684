import Mathlib.Algebra.Group.Nat.Defs
import Mathlib.Tactic.Common
import ValidityFprintd.Effect

/-! Operations that panic out of their bounds: indices and slices of a list, and arithmetic on
the machine's sizes and words. Each has one rule, for the case within its bounds. -/

namespace Checked
open Effect

variable {ε α : Type}

/-- `b[i]`. -/
def get (b : List α) (i : Nat) : Outcome ε α :=
  match b[i]? with
  | some a => .ok a
  | none => .panic

/-- `&b[i..j]`. -/
def slice (b : List α) (i j : Nat) : Outcome ε (List α) :=
  if i ≤ j ∧ j ≤ b.length then .ok ((b.take j).drop i) else .panic

/-- `&b[i..]`. -/
def sliceFrom (b : List α) (i : Nat) : Outcome ε (List α) :=
  if i ≤ b.length then .ok (b.drop i) else .panic

/-- `&b[..j]`. -/
def sliceTo (b : List α) (j : Nat) : Outcome ε (List α) :=
  if j ≤ b.length then .ok (b.take j) else .panic

/-- `b.split_at(n)`, and what `b.drain(..n)` takes off and leaves. -/
def splitAt (b : List α) (n : Nat) : Outcome ε (List α × List α) :=
  if n ≤ b.length then .ok (b.take n, b.drop n) else .panic

/-- `copy_from_slice` into an array of `n` elements. -/
def copyInto (n : Nat) (b : List α) : Outcome ε (Vector α n) :=
  if h : b.length = n then .ok ⟨b.toArray, by rw [List.size_toArray, h]⟩ else .panic

/-! Sizes of 64 bits. -/

def add (m n : Nat) : Outcome ε Nat := if m + n < 2 ^ 64 then .ok (m + n) else .panic

def sub (m n : Nat) : Outcome ε Nat := if n ≤ m then .ok (m - n) else .panic

def mul (m n : Nat) : Outcome ε Nat := if m * n < 2 ^ 64 then .ok (m * n) else .panic

def div (m n : Nat) : Outcome ε Nat := if n = 0 then .panic else .ok (m / n)

/-! Words of 32 bits. -/

def add32 (m n : UInt32) : Outcome ε UInt32 :=
  if m.toNat + n.toNat < 2 ^ 32 then .ok (m + n) else .panic

def mul32 (m n : UInt32) : Outcome ε UInt32 :=
  if m.toNat * n.toNat < 2 ^ 32 then .ok (m * n) else .panic

def div32 (m n : UInt32) : Outcome ε UInt32 := if n = 0 then .panic else .ok (m / n)

variable {b : List α} {i j m n : Nat}

theorem slice_eq (h : i ≤ j) (h' : j ≤ b.length) :
    (slice b i j : Outcome ε (List α)) = .ok ((b.take j).drop i) := if_pos ⟨h, h'⟩

theorem sliceFrom_eq (h : i ≤ b.length) : (sliceFrom b i : Outcome ε (List α)) = .ok (b.drop i) :=
  if_pos h

theorem sliceTo_eq (h : j ≤ b.length) : (sliceTo b j : Outcome ε (List α)) = .ok (b.take j) :=
  if_pos h

theorem splitAt_eq (h : n ≤ b.length) :
    (splitAt b n : Outcome ε (List α × List α)) = .ok (b.take n, b.drop n) := if_pos h

theorem copyInto_eq (h : b.length = n) :
    (copyInto n b : Outcome ε (Vector α n)) = .ok ⟨b.toArray, by rw [List.size_toArray, h]⟩ :=
  dif_pos h

theorem add_eq (h : m + n < 2 ^ 64) : (add m n : Outcome ε Nat) = .ok (m + n) := if_pos h

theorem sub_eq (h : n ≤ m) : (sub m n : Outcome ε Nat) = .ok (m - n) := if_pos h

theorem mul_eq (h : m * n < 2 ^ 64) : (mul m n : Outcome ε Nat) = .ok (m * n) := if_pos h

theorem div_eq (h : n ≠ 0) : (div m n : Outcome ε Nat) = .ok (m / n) := if_neg h

theorem add32_eq {m n : UInt32} (h : m.toNat + n.toNat < 2 ^ 32) :
    (add32 m n : Outcome ε UInt32) = .ok (m + n) := if_pos h

theorem mul32_eq {m n : UInt32} (h : m.toNat * n.toNat < 2 ^ 32) :
    (mul32 m n : Outcome ε UInt32) = .ok (m * n) := if_pos h

theorem div32_eq {m n : UInt32} (h : n ≠ 0) : (div32 m n : Outcome ε UInt32) = .ok (m / n) :=
  if_neg h

theorem bind_congr {β : Type} {x : Outcome ε α} {f g : α → Outcome ε β}
    (h : ∀ a, x = .ok a → f a = g a) : (x >>= f) = (x >>= g) := by
  cases x with
  | ok a => exact h a rfl
  | err e => rfl
  | panic => rfl
  | stuck => rfl

theorem guard_congr {β : Type} {c : Prop} [Decidable c] {e : ε} {f g : Unit → Outcome ε β}
    (h : ¬ c → f () = g ()) : (Outcome.bailIf c e >>= f) = (Outcome.bailIf c e >>= g) := by
  by_cases hc : c
  · simp only [Outcome.bailIf, if_pos hc, Outcome.err_bind]
  · simp only [Outcome.bailIf, if_neg hc, Outcome.ok_bind, h hc]

end Checked
