import Mathlib.Data.Nat.Init
import Mathlib.Algebra.Group.Nat.Defs
import Mathlib.Tactic.Common

/-! Little-endian bit streams over bytes: bit `p` is bit `p % 8` of byte `p / 8`, and a field is a
number in consecutive bits. -/

namespace ValidityFprintd.BitStream

def bit (b : List UInt8) (p : Nat) : Bool :=
  (b[p / 8]?.getD 0).toNat.testBit (p % 8)

/-- The number in the `width` bits from `p` on. -/
def field (b : List UInt8) (p width : Nat) : Nat := Nat.ofBits fun i : Fin width => bit b (p + i)

section Bits

variable {b : List UInt8} {p q : Nat}

theorem bit_beyond (h : 8 * b.length ≤ p) : bit b p = false := by
  have none : b[p / 8]? = none := List.getElem?_eq_none (by omega)
  rw [bit, none]
  exact Nat.zero_testBit _

theorem bit_zeros (n p : Nat) : bit (List.replicate n 0) p = false := by
  have zero : (List.replicate n (0 : UInt8))[p / 8]?.getD 0 = 0 := by
    rw [List.getElem?_replicate]
    split <;> rfl
  rw [bit, zero]
  exact Nat.zero_testBit _

theorem bit_append_left {b' : List UInt8} (h : p < 8 * b.length) : bit (b ++ b') p = bit b p := by
  rw [bit, bit, List.getElem?_append_left (by omega)]

theorem bit_append_zeros (b : List UInt8) (n p : Nat) :
    bit (b ++ List.replicate n 0) p = bit b p := by
  by_cases inside : p < 8 * b.length
  · exact bit_append_left inside
  · rw [bit_beyond (Nat.not_lt.mp inside), bit, List.getElem?_append_right (by omega)]
    have zero : (List.replicate n (0 : UInt8))[p / 8 - b.length]?.getD 0 = 0 := by
      rw [List.getElem?_replicate]
      split <;> rfl
    rw [zero]
    exact Nat.zero_testBit _

theorem bit_modify_or (inside : q < 8 * b.length) (p : Nat) :
    bit (b.modify (q / 8) fun x => x ||| UInt8.ofNat (2 ^ (q % 8))) p =
      (bit b p || decide (p = q)) := by
  have few : 2 ^ (q % 8) < 2 ^ 8 := Nat.pow_lt_pow_right (by decide) (Nat.mod_lt q (by decide))
  have weight : (UInt8.ofNat (2 ^ (q % 8))).toNat = 2 ^ (q % 8) := UInt8.toNat_ofNat_of_lt few
  rw [bit, bit, List.getElem?_modify]
  by_cases byte : q / 8 = p / 8
  · obtain ⟨x, there⟩ : ∃ x, b[p / 8]? = some x := ⟨_, List.getElem?_eq_getElem (by omega)⟩
    have same : decide (p = q) = decide (q % 8 = p % 8) := by
      rw [decide_eq_decide]
      omega
    simp only [there, Option.map_eq_map, Option.map_some, Option.getD_some, byte, if_true]
    rw [UInt8.toNat_or, weight, Nat.testBit_or, Nat.testBit_two_pow, same]
  · have other : decide (p = q) = false := decide_eq_false fun same => byte (same ▸ rfl)
    simp only [byte, if_false, other, Bool.or_false]
    rw [id_map']

end Bits

section Fields

variable {b : List UInt8} {p width value : Nat}

theorem field_eq (small : value < 2 ^ width) (bits : ∀ i < width, bit b (p + i) = value.testBit i) :
    field b p width = value := by
  have same : (fun i : Fin width => bit b (p + i)) = fun i : Fin width => value.testBit i :=
    funext fun i => bits i i.isLt
  rw [field, same, Nat.ofBits_testBit, Nat.mod_eq_of_lt small]

theorem field_append_zeros (b : List UInt8) (n p width : Nat) :
    field (b ++ List.replicate n 0) p width = field b p width := by
  rw [field, field]
  exact congrArg Nat.ofBits (funext fun i => bit_append_zeros b n (p + i))

theorem cell_inj {j k i l : Nat} (hi : i < width) (hl : l < width) :
    j * width + i = k * width + l ↔ j = k ∧ i = l := by
  constructor
  · intro same
    have cell := congrArg (· / width) same
    have place := congrArg (· % width) same
    simp only [Nat.mul_comm _ width, Nat.mul_add_div (by omega : 0 < width),
      Nat.div_eq_of_lt hi, Nat.div_eq_of_lt hl, Nat.add_zero] at cell
    simp only [Nat.mul_comm _ width, Nat.mul_add_mod, Nat.mod_eq_of_lt hi,
      Nat.mod_eq_of_lt hl] at place
    exact ⟨cell, place⟩
  · rintro ⟨rfl, rfl⟩
    rfl

end Fields

end ValidityFprintd.BitStream
