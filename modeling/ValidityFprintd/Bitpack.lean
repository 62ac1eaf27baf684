import Mathlib.Order.Bounds.Defs
import ValidityFprintd.BitStream
import ValidityFprintd.CaptureLengths

/-! The packing of the factory trims: what is OR-ed into the buffer, bit for bit, is there to be
read back as fields. -/

namespace ValidityFprintd.Calibration
open BitStream

section Cells

variable {u j k i : Nat} {val m : UInt8} {out b : Bytes}

theorem bit_packBits {l : List Nat} (cell : ∀ bit ∈ l, bit < u) (hi : i < u)
    (inside : (j + 1) * u ≤ 8 * out.length) :
    bit (l.foldl (fun out bit => if val.toNat.testBit bit then setBit out (j * u + bit) else out)
        out) (k * u + i) = true ↔
      bit out (k * u + i) = true ∨ k = j ∧ i ∈ l ∧ val.toNat.testBit i = true := by
  induction l generalizing out with
  | nil => simp only [List.foldl_nil, List.not_mem_nil, false_and, and_false, or_false]
  | cons n l ih =>
    obtain ⟨hn, cell⟩ := List.forall_mem_cons.mp cell
    rw [List.foldl_cons, List.mem_cons]
    by_cases high : val.toNat.testBit n = true
    · have pos : j * u + n < 8 * out.length := by
        rw [Nat.succ_mul] at inside
        omega
      have length : (setBit out (j * u + n)).length = out.length := List.length_modify _ _ _
      rw [if_pos high, ih cell (length ▸ inside), setBit, bit_modify_or pos, Bool.or_eq_true,
        decide_eq_true_eq, cell_inj hi hn]
      constructor
      · rintro ((was | ⟨rfl, rfl⟩) | ⟨rfl, later, set⟩)
        · exact .inl was
        · exact .inr ⟨rfl, .inl rfl, high⟩
        · exact .inr ⟨rfl, .inr later, set⟩
      · rintro (was | ⟨rfl, rfl | later, set⟩)
        · exact .inl (.inl was)
        · exact .inl (.inr ⟨rfl, rfl⟩)
        · exact .inr ⟨rfl, later, set⟩
    · rw [if_neg high, ih cell inside]
      constructor
      · rintro (was | ⟨rfl, later, set⟩)
        · exact .inl was
        · exact .inr ⟨rfl, .inr later, set⟩
      · rintro (was | ⟨rfl, rfl | later, set⟩)
        · exact .inl was
        · exact absurd set high
        · exact .inr ⟨rfl, later, set⟩

theorem bit_packValue (hi : i < u) (inside : (j + 1) * u ≤ 8 * out.length) :
    bit (packValue u j val out) (k * u + i) = true ↔
      bit out (k * u + i) = true ∨ k = j ∧ val.toNat.testBit i = true := by
  rw [packValue, bit_packBits (fun _ mem => List.mem_range.mp mem) hi inside, List.mem_range]
  simp only [hi, true_and]

theorem bit_packFrom {n : Nat} (hi : i < u) (inside : (n + b.length) * u ≤ 8 * out.length) :
    bit ((b.zipIdx n).foldl (fun out (v, j) => packValue u j (v - m) out) out) (k * u + i) = true ↔
      bit out (k * u + i) = true ∨
        ∃ v, n ≤ k ∧ b[k - n]? = some v ∧ (v - m).toNat.testBit i = true := by
  induction b generalizing n out with
  | nil => simp only [List.zipIdx_nil, List.foldl_nil, List.getElem?_nil, reduceCtorEq, false_and,
      and_false, exists_false, or_false]
  | cons x b ih =>
    have here : (n + 1) * u ≤ 8 * out.length :=
      Nat.le_trans (Nat.mul_le_mul_right u (by simp only [List.length_cons]; omega)) inside
    have rest : (n + 1 + b.length) * u ≤ 8 * (packValue u n (x - m) out).length := by
      rw [packValue_length, Nat.add_right_comm]
      exact inside
    rw [List.zipIdx_cons, List.foldl_cons, ih rest, bit_packValue hi here]
    constructor
    · rintro ((was | ⟨rfl, set⟩) | ⟨v, behind, there, set⟩)
      · exact .inl was
      · refine .inr ⟨x, Nat.le_refl k, ?_, set⟩
        rw [Nat.sub_self, List.getElem?_cons_zero]
      · refine .inr ⟨v, by omega, ?_, set⟩
        rw [show k - n = k - (n + 1) + 1 by omega, List.getElem?_cons_succ]
        exact there
    · rintro (was | ⟨v, behind, there, set⟩)
      · exact .inl (.inl was)
      · rcases Nat.eq_or_lt_of_le behind with rfl | after
        · rw [Nat.sub_self, List.getElem?_cons_zero] at there
          obtain rfl := Option.some.inj there
          exact .inl (.inr ⟨rfl, set⟩)
        · rw [show k - n = k - (n + 1) + 1 by omega, List.getElem?_cons_succ] at there
          exact .inr ⟨v, after, there, set⟩

end Cells

/-- What the packing of some values tells of them. -/
structure Packs (b : Bytes) (u m : UInt8) (packed : Bytes) : Prop where
  least : IsLeast {v | v ∈ b} m
  narrow : ∃ top, IsGreatest {v | v ∈ b} top ∧
    IsLeast {k : Nat | top.toNat - m.toNat < 2 ^ k} u.toNat
  small : u.toNat ≤ 8
  length : packed.length = (u.toNat * b.length + 7) / 8
  unused : ∀ p, u.toNat * b.length ≤ p → bit packed p = false
  fields : ∀ j v, b[j]? = some v →
    field packed (j * u.toNat) u.toNat + m.toNat = v.toNat

section Pack

variable {b : Bytes}

theorem lawfulOrderMax : Std.LawfulOrderMax UInt8 where
  max_eq_or x y := by
    unfold max instMaxUInt8 maxOfLe
    dsimp only
    split
    · exact .inr rfl
    · exact .inl rfl
  max_le_iff x y z := by
    unfold max instMaxUInt8 maxOfLe
    dsimp only
    split
    case isTrue below => exact ⟨fun h => ⟨UInt8.le_trans below h, h⟩, And.right⟩
    case isFalse above =>
      have below : y ≤ x := (UInt8.le_total x y).resolve_left above
      exact ⟨fun h => ⟨h, UInt8.le_trans below h⟩, And.left⟩

theorem min?_isLeast {m : UInt8} (least : b.min? = some m) : IsLeast {v | v ∈ b} m :=
  List.min?_eq_some_iff.mp least

theorem max?_isGreatest {top : UInt8} (most : b.max? = some top) : IsGreatest {v | v ∈ b} top :=
  have := lawfulOrderMax
  List.max?_eq_some_iff.mp most

/-- A buffer that holds the values over their minimum, cell by cell. -/
theorem Packs.of_cells {u : Nat} {m top : UInt8} {packed : Bytes} (low : IsLeast {v | v ∈ b} m)
    (high : IsGreatest {v | v ∈ b} top) (narrow : IsLeast {k : Nat | top.toNat - m.toNat < 2 ^ k} u)
    (length : packed.length = (u * b.length + 7) / 8)
    (cells : ∀ k i, i < u → (bit packed (k * u + i) = true ↔
      ∃ v, b[k]? = some v ∧ (v - m).toNat.testBit i = true)) :
    Packs b (UInt8.ofNat u) m packed := by
  have small : u ≤ 8 := narrow.2 (show top.toNat - m.toNat < 2 ^ 8 by have := top.toNat_lt; omega)
  have byte : (UInt8.ofNat u).toNat = u :=
    UInt8.toNat_ofNat_of_lt (Nat.lt_of_le_of_lt small (by decide))
  refine ⟨low, ⟨top, high, byte.symm ▸ narrow⟩, byte.symm ▸ small, byte.symm ▸ length, ?_, ?_⟩
  · intro p behind
    rw [byte] at behind
    rcases Nat.eq_zero_or_pos u with rfl | some'
    · exact bit_beyond (by omega)
    · refine Bool.eq_false_iff.mpr fun set => ?_
      rw [← Nat.div_add_mod' p u] at set
      obtain ⟨v, there, _⟩ := (cells _ _ (Nat.mod_lt p some')).mp set
      have inside : p / u < b.length := (List.getElem?_eq_some_iff.mp there).1
      rw [Nat.div_lt_iff_lt_mul some', Nat.mul_comm] at inside
      omega
  · intro j v there
    have mem : v ∈ b := List.mem_of_getElem? there
    have above := UInt8.le_iff_toNat_le.mp (low.2 mem)
    have below := UInt8.le_iff_toNat_le.mp (high.2 mem)
    have spread : (v - m).toNat = v.toNat - m.toNat := UInt8.toNat_sub_of_le _ _ (low.2 mem)
    have fits : (v - m).toNat < 2 ^ u := by
      rw [spread]
      exact Nat.lt_of_le_of_lt (Nat.sub_le_sub_right below _) narrow.1
    have value : field packed (j * u) u = (v - m).toNat := by
      refine field_eq fits fun i hi => Bool.eq_iff_iff.mpr ((cells j i hi).trans ?_)
      rw [there]
      exact ⟨fun ⟨_, same, set⟩ => Option.some.inj same ▸ set, fun set => ⟨v, rfl, set⟩⟩
    rw [byte, value, spread]
    omega

/-- The width is the least, and every value is where it is looked for. -/
theorem bitpack_packs (nonempty : b ≠ []) :
    Packs b (bitpack b).1 (bitpack b).2.1 (bitpack b).2.2 := by
  obtain ⟨m, least⟩ : ∃ m, b.min? = some m :=
    Option.ne_none_iff_exists'.mp fun none => nonempty (List.min?_eq_none_iff.mp none)
  obtain ⟨top, most⟩ : ∃ top, b.max? = some top :=
    Option.ne_none_iff_exists'.mp fun none => nonempty (List.max?_eq_none_iff.mp none)
  have low := min?_isLeast least
  have high := max?_isGreatest most
  have length := bitpack_length b
  have spread : (top - m).toNat = top.toNat - m.toNat := UInt8.toNat_sub_of_le _ _ (low.2 high.1)
  have narrow : IsLeast {k : Nat | top.toNat - m.toNat < 2 ^ k} (widthOf 8 (top - m)) := by
    have digits : ∀ k, widthOf 8 (top - m) ≤ k ↔ top.toNat - m.toNat < 2 ^ k := fun k =>
      spread ▸ widthOf_le (top - m).toNat_lt
    exact ⟨(digits _).mp (Nat.le_refl _), fun k inside => (digits k).mpr inside⟩
  simp only [spreadBits, least, most, ← widthOf_eq] at length
  unfold bitpack at length ⊢
  rw [least, most] at length ⊢
  dsimp only at length ⊢
  split
  case isTrue flat =>
    rw [flat] at narrow
    refine .of_cells low high narrow (by rw [Nat.zero_mul]; rfl) fun k i none => ?_
    exact absurd none (Nat.not_lt_zero i)
  case isFalse wide =>
    rw [if_neg wide] at length
    refine .of_cells low high narrow length fun k i hi => ?_
    rw [bit_packFrom hi (by rw [List.length_replicate, Nat.zero_add, Nat.mul_comm]; omega),
      bit_zeros]
    simp only [Bool.false_eq_true, false_or, Nat.zero_le, true_and, Nat.sub_zero]

/-- Four values in cells of three bits each: the third is in two bytes. -/
theorem bitpack_packs_straddling : Packs [10, 13, 15, 12] 3 10 [0x58, 0x05] :=
  bitpack_packs (b := [10, 13, 15, 12]) (by decide)

end Pack

end ValidityFprintd.Calibration
