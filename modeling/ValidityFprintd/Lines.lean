import ValidityFprintd.Bytes

/-! Bytes as a table of lines of one width, cut up and put together again. -/

namespace ValidityFprintd.Bytes

/-- Line `i` of a table `width` bytes wide. -/
def line (b : Bytes) (width i : Nat) : Bytes := (b.drop (i * width)).take width

section Lines

variable {b : Bytes} {width m i k : Nat}

theorem line_getElem? (inside : k < width) : (line b width i)[k]? = b[i * width + k]? := by
  rw [line, List.getElem?_take_of_lt inside, List.getElem?_drop]

theorem line_inside (size : b.length = m * width) (hi : i < m) :
    i * width + width ≤ b.length := by
  rw [size, ← Nat.succ_mul]
  exact Nat.mul_le_mul_right width hi

theorem line_length (size : b.length = m * width) (hi : i < m) :
    (line b width i).length = width := by
  have inside := line_inside size hi
  rw [line, List.length_take, List.length_drop]
  omega

theorem chunks_lines (wide : 0 < width) (size : b.length = m * width) :
    chunks width b = (List.range m).map (line b width) := by
  have each : ∀ (fuel m : Nat) (b : Bytes), b.length ≤ fuel → b.length = m * width →
      chunksOf width fuel b = (List.range m).map (line b width) := by
    intro fuel
    induction fuel with
    | zero =>
      intro m b enough size
      obtain rfl : b = [] := List.length_eq_zero_iff.mp (Nat.le_zero.mp enough)
      cases m with
      | zero => rfl
      | succ m => rw [List.length_nil, Nat.succ_mul] at size; omega
    | succ fuel ih =>
      intro m b enough size
      cases m with
      | zero =>
        obtain rfl : b = [] := List.length_eq_zero_iff.mp (size.trans (Nat.zero_mul width))
        rfl
      | succ m =>
        rw [Nat.succ_mul] at size
        match b with
        | [] => rw [List.length_nil] at size; omega
        | x :: b =>
          have rest : ((x :: b).drop width).length = m * width := by
            rw [List.length_drop, size, Nat.add_sub_cancel]
          show (x :: b).take width :: chunksOf width fuel ((x :: b).drop width) = _
          rw [ih m _ (by omega) rest, List.range_succ_eq_map, List.map_cons, List.map_map]
          refine congr (congrArg List.cons ?_) (List.map_congr_left fun i _ => ?_)
          · rw [line, Nat.zero_mul, List.drop_zero]
          · rw [line, Function.comp_apply, line, List.drop_drop, Nat.succ_mul, Nat.add_comm]
  exact each b.length m b (Nat.le_refl _) size

end Lines

section Rows

variable {row : Nat → Bytes} {width m i k : Nat}

theorem rows_length (hw : ∀ i < m, (row i).length = width) :
    ((List.range m).flatMap row).length = m * width := by
  induction m with
  | zero => rw [Nat.zero_mul]; rfl
  | succ m ih =>
    rw [List.range_succ, List.flatMap_append, List.length_append, Nat.succ_mul,
      ih fun i hi => hw i (Nat.lt_succ_of_lt hi), List.flatMap_singleton, hw m (Nat.lt_succ_self m)]

theorem rows_getElem? (hw : ∀ i < m, (row i).length = width) (hi : i < m) (hk : k < width) :
    ((List.range m).flatMap row)[i * width + k]? = (row i)[k]? := by
  induction m with
  | zero => omega
  | succ m ih =>
    have below : ∀ i < m, (row i).length = width := fun i hi => hw i (Nat.lt_succ_of_lt hi)
    have size := rows_length below
    rw [List.range_succ, List.flatMap_append, List.flatMap_singleton]
    rcases Nat.lt_or_ge i m with before | last
    · have inside := line_inside size before
      rw [List.getElem?_append_left (by omega), ih below before]
    · obtain rfl : i = m := by omega
      rw [List.getElem?_append_right (by omega), size, Nat.add_sub_cancel_left]

end Rows

end ValidityFprintd.Bytes
