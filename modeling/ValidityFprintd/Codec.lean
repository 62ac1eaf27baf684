import Mathlib.Data.List.Basic

/-! Items written one after another, each carrying its own length: reading the items back
from the front of a string, up to a tail that begins no item. -/

namespace Codec

variable {σ α : Type}

/-- How one item is written, which items can be, and where reading stops. -/
structure Format (σ α : Type) where
  encode : α → List σ
  Valid : α → Prop
  Tail : List σ → Prop
  /-- What is written tells the item, whatever follows it. -/
  front : ∀ {a a' r r'}, Valid a → Valid a' → encode a ++ r = encode a' ++ r' → a = a'
  /-- No item begins where reading stops. -/
  apart : ∀ {a r}, Valid a → ¬ Tail (encode a ++ r)

namespace Format

/-- `b` is the items written in turn, then a tail. -/
inductive Reads (F : Format σ α) : List σ → List α → Prop
  | tail {b} (stop : F.Tail b) : Reads F b []
  | item {a r as} (valid : F.Valid a) (rest : Reads F r as) :
      Reads F (F.encode a ++ r) (a :: as)

variable {F : Format σ α} {b : List σ} {as bs : List α}

/-- A string reads as one list of items at most. -/
theorem Reads.unique (h : Reads F b as) (h' : Reads F b bs) : as = bs := by
  induction h generalizing bs with
  | tail stop =>
    cases h' with
    | tail _ => rfl
    | item valid _ => exact absurd stop (F.apart valid)
  | @item a r as valid _ ih =>
    generalize whole : F.encode a ++ r = b at h'
    cases h' with
    | tail stop => exact absurd (whole ▸ stop) (F.apart valid)
    | @item a' r' bs valid' rest' =>
      obtain rfl := F.front valid valid' whole
      obtain rfl := List.append_cancel_left whole
      rw [ih rest']

theorem reads_append (valid : ∀ a ∈ as, F.Valid a) {r : List σ} (h : Reads F r bs) :
    Reads F (as.flatMap F.encode ++ r) (as ++ bs) := by
  induction as with
  | nil => exact h
  | cons a as ih =>
    rw [List.flatMap_cons, List.append_assoc]
    exact .item (valid a List.mem_cons_self) (ih fun a' mem => valid a' (.tail a mem))

theorem reads_iff : Reads F b as ↔
    (∀ a ∈ as, F.Valid a) ∧ ∃ tail, F.Tail tail ∧ b = as.flatMap F.encode ++ tail := by
  constructor
  · intro h
    induction h with
    | tail stop => exact ⟨by simp, _, stop, rfl⟩
    | @item a r as valid _ ih =>
      obtain ⟨sound, tail, stop, rfl⟩ := ih
      refine ⟨?_, tail, stop, by rw [List.flatMap_cons, List.append_assoc]⟩
      intro a' mem
      rcases List.mem_cons.mp mem with rfl | mem
      · exact valid
      · exact sound a' mem
  · rintro ⟨sound, tail, stop, rfl⟩
    simpa using reads_append sound (.tail stop)

/-- Where the empty string is the only tail, a string of items is read back exactly when each
of them can be written. -/
theorem reads_encoded (empty : ∀ {t}, F.Tail t ↔ t = []) :
    Reads F (as.flatMap F.encode) as ↔ ∀ a ∈ as, F.Valid a := by
  constructor
  · exact fun h => (reads_iff.mp h).1
  · intro sound
    exact reads_iff.mpr ⟨sound, [], empty.mpr rfl, (List.append_nil _).symm⟩

end Format

end Codec
