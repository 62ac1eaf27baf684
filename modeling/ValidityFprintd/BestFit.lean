import Mathlib.Data.List.GetD
import Mathlib.Data.List.Lex
import Mathlib.Data.List.MinMax
import Mathlib.Data.Nat.Digits.Defs

/-! Choosing the entry of a table that fits best: a scan for ever higher scores finds the first
entry of the greatest key, where the score packs the digits of the key. -/

namespace ValidityFprintd.BestFit

section Digits

variable {b bits p u v x y : Nat} {xs ys : List Nat}

/-- The digits in fields of `bits` bits each, the first in the highest. -/
def pack (bits : Nat) (digits : List Nat) : Nat := digits.foldl (fun m d => m <<< bits ||| d) 0

theorem pack_concat (bits : Nat) (digits : List Nat) (d : Nat) :
    pack bits (digits ++ [d]) = pack bits digits <<< bits ||| d :=
  List.foldl_concat ..

theorem add_mul_lt_iff (hu : u < p) (hv : v < p) :
    u + p * x < v + p * y ↔ x < y ∨ x = y ∧ u < v := by
  rcases Nat.lt_trichotomy x y with less | rfl | more
  · have apart : p * (x + 1) ≤ p * y := Nat.mul_le_mul_left p less
    rw [Nat.mul_succ] at apart
    exact iff_of_true (by omega) (.inl less)
  · omega
  · have apart : p * (y + 1) ≤ p * x := Nat.mul_le_mul_left p more
    rw [Nat.mul_succ] at apart
    exact iff_of_false (by omega) (by omega)

theorem ofDigits_reverse_lt_iff (base : 1 < b) (size : xs.length = ys.length)
    (hx : ∀ d ∈ xs, d < b) (hy : ∀ d ∈ ys, d < b) :
    Nat.ofDigits b xs.reverse < Nat.ofDigits b ys.reverse ↔ xs < ys := by
  have low : ∀ {l : List Nat}, (∀ d ∈ l, d < b) → Nat.ofDigits b l.reverse < b ^ l.length := by
    intro l small
    rw [← List.length_reverse]
    exact Nat.ofDigits_lt_base_pow_length base fun d mem => small d (List.mem_reverse.mp mem)
  induction xs generalizing ys with
  | nil =>
    obtain rfl := List.eq_nil_of_length_eq_zero size.symm
    exact iff_of_false (Nat.lt_irrefl _) (lt_irrefl _)
  | cons x xs ih =>
    cases ys with
    | nil => cases size
    | cons y ys =>
      have tails : xs.length = ys.length := Nat.succ.inj size
      obtain ⟨-, hx⟩ := List.forall_mem_cons.mp hx
      obtain ⟨-, hy⟩ := List.forall_mem_cons.mp hy
      rw [Nat.ofDigits_reverse_cons, Nat.ofDigits_reverse_cons, tails,
        add_mul_lt_iff (tails ▸ low hx) (low hy), List.cons_lt_cons_iff]
      exact or_congr_right (and_congr_right fun _ => ih tails hx hy)

theorem shiftLeft_or_eq {m d : Nat} (small : d < 2 ^ bits) :
    m <<< bits ||| d = m * 2 ^ bits + d := by
  rw [← Nat.shiftLeft_add_eq_or_of_lt small, Nat.shiftLeft_eq]

theorem pack_eq_ofDigits (small : ∀ d ∈ xs, d < 2 ^ bits) :
    pack bits xs = Nat.ofDigits (2 ^ bits) xs.reverse := by
  suffices any : ∀ m, xs.foldl (fun m d => m <<< bits ||| d) m =
      m * (2 ^ bits) ^ xs.length + Nat.ofDigits (2 ^ bits) xs.reverse by
    rw [pack, any 0, Nat.zero_mul, Nat.zero_add]
  induction xs with
  | nil => intro m; simp
  | cons d xs ih =>
    intro m
    obtain ⟨here, rest⟩ := List.forall_mem_cons.mp small
    rw [List.foldl_cons, ih rest, shiftLeft_or_eq here, Nat.ofDigits_reverse_cons,
      List.length_cons, pow_succ]
    ring

theorem pack_lt (wide : 0 < bits) (small : ∀ d ∈ xs, d < 2 ^ bits) :
    pack bits xs < (2 ^ bits) ^ xs.length := by
  rw [pack_eq_ofDigits small, ← List.length_reverse]
  exact Nat.ofDigits_lt_base_pow_length (Nat.one_lt_two_pow wide.ne')
    fun d mem => small d (List.mem_reverse.mp mem)

/-- Packing keeps the lexicographic order. -/
theorem pack_lt_pack_iff (wide : 0 < bits) (size : xs.length = ys.length)
    (hx : ∀ d ∈ xs, d < 2 ^ bits) (hy : ∀ d ∈ ys, d < 2 ^ bits) :
    pack bits xs < pack bits ys ↔ xs < ys := by
  rw [pack_eq_ofDigits hx, pack_eq_ofDigits hy]
  exact ofDigits_reverse_lt_iff (Nat.one_lt_two_pow wide.ne') size hx hy

theorem lt_of_take_eq {i : Nat} (size : xs.length = ys.length) (same : xs.take i = ys.take i)
    (less : xs.getD i 0 < ys.getD i 0) : xs < ys := by
  have inside : i < ys.length := by
    by_contra outside
    rw [List.getD_eq_default ys 0 (Nat.not_lt.mp outside)] at less
    exact Nat.not_lt_zero _ less
  have inside' : i < xs.length := size ▸ inside
  rw [List.getD_eq_getElem _ _ inside, List.getD_eq_getElem _ _ inside'] at less
  rw [← List.take_append_drop i xs, ← List.take_append_drop i ys, same,
    List.drop_eq_getElem_cons inside, List.drop_eq_getElem_cons inside']
  exact List.append_left_lt (List.cons_lt_cons_iff.mpr (.inl less))

end Digits

section Scan

variable {α β κ : Type*} [LinearOrder κ] {fits : α → Bool} {key : α → κ} {l : List α} {a : α}

/-- `List.argmax` by position: the entries before the one it finds are less, those after no
more. -/
theorem argmax_eq_some_iff_append :
    l.argmax key = some a ↔ ∃ before after, l = before ++ a :: after ∧
      (∀ c ∈ before, key c < key a) ∧ ∀ c ∈ after, key c ≤ key a := by
  constructor
  · intro found
    induction l with
    | nil => cases found
    | cons x l ih =>
      rw [List.argmax_cons] at found
      cases rest : l.argmax key with
      | none =>
        rw [rest] at found
        cases found
        obtain rfl := List.argmax_eq_none.mp rest
        exact ⟨[], [], rfl, by simp, by simp⟩
      | some c =>
        simp only [rest] at found
        split at found
        · rename_i more
          cases found
          obtain ⟨before, after, rfl, less, most⟩ := ih rest
          exact ⟨x :: before, after, rfl, List.forall_mem_cons.mpr ⟨more, less⟩, most⟩
        · rename_i enough
          cases found
          refine ⟨[], l, rfl, by simp, fun d mem => ?_⟩
          exact (List.le_of_mem_argmax mem rest).trans (not_lt.mp enough)
  · rintro ⟨before, after, rfl, less, most⟩
    induction before with
    | nil =>
      rw [List.nil_append, List.argmax_cons]
      cases rest : after.argmax key with
      | none => rfl
      | some c => exact if_neg (not_lt.mpr (most c (List.argmax_mem rest)))
    | cons x before ih =>
      obtain ⟨here, less⟩ := List.forall_mem_cons.mp less
      rw [List.cons_append, List.argmax_cons, ih less]
      exact if_pos here

/-- The first of the entries that fit whose key is greatest among them. -/
def firstBest (fits : α → Bool) (key : α → κ) (l : List α) : Option α := (l.filter fits).argmax key

theorem firstBest_eq_some_iff :
    firstBest fits key l = some a ↔ ∃ before after, l = before ++ a :: after ∧
      fits a = true ∧ (∀ c ∈ before, fits c = true → key c < key a) ∧
      ∀ c ∈ after, fits c = true → key c ≤ key a := by
  rw [firstBest, argmax_eq_some_iff_append]
  constructor
  · rintro ⟨kept, kept', parts, less, most⟩
    obtain ⟨before, rest, rfl, rfl, second⟩ := List.filter_eq_append_iff.mp parts
    obtain ⟨misfits, after, rfl, out, here, rfl⟩ := List.filter_eq_cons_iff.mp second
    refine ⟨before ++ misfits, after, (List.append_assoc ..).symm, here, ?_, ?_⟩
    · intro c mem ok
      rcases List.mem_append.mp mem with mem | mem
      · exact less c (List.mem_filter.mpr ⟨mem, ok⟩)
      · exact absurd ok (out c mem)
    · exact fun c mem ok => most c (List.mem_filter.mpr ⟨mem, ok⟩)
  · rintro ⟨before, after, rfl, here, less, most⟩
    refine ⟨before.filter fits, after.filter fits, ?_, ?_, ?_⟩
    · rw [List.filter_append, List.filter_cons_of_pos here]
    · exact fun c mem => less c (List.mem_filter.mp mem).1 (List.mem_filter.mp mem).2
    · exact fun c mem => most c (List.mem_filter.mp mem).1 (List.mem_filter.mp mem).2

theorem firstBest_isSome_iff :
    (firstBest fits key l).isSome = true ↔ ∃ a ∈ l, fits a = true := by
  rw [firstBest, Option.isSome_iff_ne_none, Ne, List.argmax_eq_none, List.filter_eq_nil_iff]
  simp

theorem le_firstBest (found : firstBest fits key l = some a) {c : α} (mem : c ∈ l)
    (ok : fits c = true) : key c ≤ key a :=
  List.le_of_mem_argmax (List.mem_filter.mpr ⟨mem, ok⟩) found

variable [LT β] [DecidableLT β] {score : α → β} {floor : β}

/-- An entry that fits is held, with its score, if that is higher than the score held, or than the
floor. -/
def hold (fits : α → Bool) (score : α → β) (floor : β) (best : Option (α × β)) (a : α) :
    Option (α × β) :=
  if fits a then
    if best.elim floor Prod.snd < score a then some (a, score a) else best
  else best

/-- A scan holds the first entry of greatest key, as long as scores compare as keys do and every
entry that fits scores above the floor. -/
theorem foldl_hold (order : ∀ a c, score a < score c ↔ key a < key c)
    (above : ∀ a, fits a = true → floor < score a) (l : List α) :
    l.foldl (hold fits score floor) none = (firstBest fits key l).map fun a => (a, score a) := by
  induction l using List.reverseRecOn with
  | nil => rfl
  | append_singleton l a ih =>
    rw [List.foldl_concat, ih, firstBest, firstBest, List.filter_append]
    by_cases ok : fits a = true
    · rw [List.filter_cons_of_pos ok, List.filter_nil, List.argmax_concat, hold, if_pos ok]
      cases (l.filter fits).argmax key with
      | none => exact if_pos (above a ok)
      | some c =>
        show (if score c < score a then some (a, score a) else some (c, score c)) =
          Option.map _ (if key c < key a then some a else some c)
        rw [apply_ite (Option.map _)]
        simp only [order, Option.map_some]
    · rw [List.filter_cons_of_neg ok, List.filter_nil, List.append_nil, hold, if_neg ok]

end Scan

end ValidityFprintd.BestFit
