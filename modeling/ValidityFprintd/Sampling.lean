import Mathlib.Data.List.Forall2
import ValidityFprintd.Search

/-! The sampling of a timeslot table scaled to the line multiplier: a patch of bytes, seen
through the decoder. -/

namespace ValidityFprintd.Calibration
open Effect Timeslot

/-- The instructions the patch goes through: zero bytes, opcode 7 and calls. -/
def leading (x : Nat × Insn) : Bool := x.2.op = 0 ∨ x.2.op = 7 ∨ x.2.op = 11

/-- An instruction of a table `n` bytes long, and what the patch makes of it. -/
structure Sampled (n : Nat) (incAddress : Bool) (mult : UInt32) (x x' : Nat × Insn) : Prop where
  offset : x'.1 = x.1
  op : x'.2.op = x.2.op
  size : x'.2.size = x.2.size
  other : x.2.op ≠ 11 → x' = x
  call : x.2.op = 11 → ∃ k target count, x.2 = ⟨11, 3, [k, target, count]⟩ ∧
    (count = 1 ∨ count = 256 → x' = x) ∧
    (x.1 + 3 < n → 2 ≤ count.toNat → count.toNat ≤ 255 → count.toNat * mult.toNat ≤ 256 →
      ∃ target' count', x'.2 = ⟨11, 3, [k, target', count']⟩ ∧
        count'.toNat = count.toNat * mult.toNat ∧
        (incAddress = true → target.toNat < 4 * 0xff → target'.toNat = target.toNat + 4) ∧
        (incAddress = false → target' = target))

variable {b : Bytes} {incAddress : Bool} {mult : UInt32} {n pc : Nat} {insn : Insn}

theorem target_toNat (y : UInt8) : (y.toUInt32 <<< 2).toNat = 4 * y.toNat := by
  have byte := y.toNat_lt
  have two : (2 : UInt32).toNat % 32 = 2 := by decide
  rw [UInt32.toNat_shiftLeft, UInt8.toNat_toUInt32, two, Nat.shiftLeft_eq]
  omega

theorem orWhole_toNat (z : UInt8) : (orWhole z).toNat = if z = 0 then 256 else z.toNat := by
  unfold orWhole
  split
  · rfl
  · exact UInt8.toNat_toUInt32 z

/-- What the patch does to the address and the count of a call. -/
def sampledBytes (incAddress : Bool) (mult : UInt32) (y z : UInt8) : UInt8 × UInt8 :=
  if 1 < z then (if incAddress then y + 1 else y, z * mult.toUInt8) else (y, z)

theorem more_iff {z : UInt8} :
    1 < z ↔ 2 ≤ (orWhole z).toNat ∧ (orWhole z).toNat ≤ 255 := by
  have byte := z.toNat_lt
  have zero : (0 : UInt8).toNat = 0 := rfl
  have one : (1 : UInt8).toNat = 1 := rfl
  rw [orWhole_toNat, UInt8.lt_iff_toNat_lt, one]
  by_cases none : z = 0
  · rw [if_pos none, none, zero]
    omega
  · rw [if_neg none]
    omega

theorem sampledBytes_once {y z : UInt8} (once : orWhole z = 1 ∨ orWhole z = 256) :
    sampledBytes incAddress mult y z = (y, z) := by
  rw [sampledBytes, if_neg]
  rw [more_iff]
  rintro ⟨two, most⟩
  cases once with
  | inl once =>
    rw [once] at two
    exact absurd two (by decide)
  | inr whole =>
    rw [whole] at most
    exact absurd most (by decide)

theorem scaled_count {z : UInt8} (few : 1 ≤ mult.toNat) (small : mult.toNat ≤ 255) (more : 1 < z)
    (fits : (orWhole z).toNat * mult.toNat ≤ 256) :
    (orWhole (z * mult.toUInt8)).toNat = (orWhole z).toNat * mult.toNat := by
  have two := UInt8.lt_iff_toNat_lt.mp more
  have zero : (0 : UInt8).toNat = 0 := rfl
  have nonzero : z ≠ 0 := by
    rintro rfl
    exact absurd more (by decide)
  have multiplier : mult.toUInt8.toNat = mult.toNat := by
    rw [UInt32.toNat_toUInt8]
    omega
  have product : (z * mult.toUInt8).toNat = z.toNat * mult.toNat % 256 := by
    rw [UInt8.toNat_mul, multiplier]
  have positive : 2 * 1 ≤ z.toNat * mult.toNat := Nat.mul_le_mul two few
  rw [orWhole_toNat z, if_neg nonzero] at fits ⊢
  rw [orWhole_toNat]
  by_cases whole : z * mult.toUInt8 = 0
  · rw [whole, zero] at product
    rw [if_pos whole]
    omega
  · have some' : (z * mult.toUInt8).toNat ≠ 0 := fun none => whole (UInt8.toNat_inj.mp none)
    rw [if_neg whole, product]
    omega

theorem moved_target {y : UInt8} (near : (y.toUInt32 <<< 2).toNat < 4 * 0xff) :
    ((y + 1).toUInt32 <<< 2).toNat = (y.toUInt32 <<< 2).toNat + 4 := by
  have one : (1 : UInt8).toNat = 1 := rfl
  rw [target_toNat] at near ⊢
  rw [target_toNat, UInt8.toNat_add, one]
  omega

theorem sampled_call {b0 y z : UInt8} (few : 1 ≤ mult.toNat) (small : mult.toNat ≤ 255) :
    Sampled n incAddress mult
      (pc, ⟨11, 3, [b0.toUInt32 &&& 7, y.toUInt32 <<< 2, orWhole z]⟩)
      (pc, ⟨11, 3, [b0.toUInt32 &&& 7, (sampledBytes incAddress mult y z).1.toUInt32 <<< 2,
        orWhole (sampledBytes incAddress mult y z).2]⟩) where
  offset := rfl
  op := rfl
  size := rfl
  other := fun other => absurd rfl other
  call := by
    intro _
    refine ⟨_, _, _, rfl, fun once => by rw [sampledBytes_once once], fun _ two most fits => ?_⟩
    have more : 1 < z := more_iff.mpr ⟨two, most⟩
    rw [sampledBytes, if_pos more]
    refine ⟨_, _, rfl, scaled_count few small more fits, fun increments near => ?_,
      fun stays => ?_⟩
    · simp only [increments, if_true]
      exact moved_target near
    · simp only [stays, Bool.false_eq_true, if_false]

theorem Sampled.refl {x : Nat × Insn} (decoded : decodeInsn (b.drop x.1) = .ok x.2)
    (last : x.2.op = 11 → n ≤ x.1 + 3) : Sampled n incAddress mult x x where
  offset := rfl
  op := rfl
  size := rfl
  other := fun _ => rfl
  call := by
    intro call
    obtain ⟨b0, y, z, rest, _, _, same⟩ := decodeInsn_call decoded call
    exact ⟨_, _, _, same, fun _ => rfl, fun inside => absurd inside (Nat.not_lt.mpr (last call))⟩

section Walk

variable {fuel i : Nat} {x y z : UInt8} {l : List (Nat × Insn)}

/-- The table with a call's address and count rewritten. -/
def sampledTable (incAddress : Bool) (mult : UInt32) (b : Bytes) (i : Nat) (y z : UInt8) : Bytes :=
  (b.set (i + 1) (sampledBytes incAddress mult y z).1).set (i + 2)
    (sampledBytes incAddress mult y z).2

theorem sampledTable_other {j : Nat} (address : j ≠ i + 1) (count : j ≠ i + 2) :
    (sampledTable incAddress mult b i y z)[j]? = b[j]? := by
  rw [sampledTable, List.getElem?_set_ne (Ne.symm count), List.getElem?_set_ne (Ne.symm address)]

theorem sampledTable_address (inside : i + 1 < b.length) :
    (sampledTable incAddress mult b i y z)[i + 1]? = some (sampledBytes incAddress mult y z).1 := by
  rw [sampledTable, List.getElem?_set_ne (by omega), List.getElem?_set_self inside]

theorem sampledTable_count (inside : i + 2 < b.length) :
    (sampledTable incAddress mult b i y z)[i + 2]? = some (sampledBytes incAddress mult y z).2 := by
  rw [sampledTable, List.getElem?_set_self (by rwa [List.length_set])]

theorem patchTimeslotFrom_call (inside : i + 3 < b.length) (first : b[i]? = some x)
    (second : b[i + 1]? = some y) (third : b[i + 2]? = some z) (call : x &&& 0xf8 = 0x10) :
    patchTimeslotFrom incAddress mult (fuel + 1) b i =
      patchTimeslotFrom incAddress mult fuel (sampledTable incAddress mult b i y z) (i + 3) := by
  have kept : ∀ {k : Nat} {u : UInt8}, b[k]? = some u → b.set k u = b := by
    intro k u there
    obtain ⟨bound, rfl⟩ := List.getElem?_eq_some_iff.mp there
    exact List.set_getElem_self bound
  rw [patchTimeslotFrom, if_pos inside, first, second, third]
  dsimp only
  rw [if_pos call]
  congr 1
  unfold sampledTable sampledBytes
  split
  · split
    · exact List.set_comm _ _ (by omega)
    · rw [kept second]
  · rw [kept second, kept third]

theorem patchTimeslotFrom_other (inside : i + 3 < b.length) (first : b[i]? = some x)
    (other : ¬ x &&& 0xf8 = 0x10) :
    patchTimeslotFrom incAddress mult (fuel + 1) b i =
      if x = 0 then patchTimeslotFrom incAddress mult fuel b (i + 1)
      else if x = 7 then patchTimeslotFrom incAddress mult fuel b (i + 2)
      else b := by
  have second : b[i + 1]? = some b[i + 1] := List.getElem?_eq_getElem _
  have third : b[i + 2]? = some b[i + 2] := List.getElem?_eq_getElem _
  rw [patchTimeslotFrom, if_pos inside, first, second, third]
  dsimp only
  rw [if_neg other]

/-- What the patch has made of a table from `i` on. -/
structure Walked (b out : Bytes) (incAddress : Bool) (mult : UInt32) (i : Nat)
    (l : List (Nat × Insn)) : Prop where
  length : out.length = b.length
  before : ∀ j < i, out[j]? = b[j]?
  listed : ∃ lead, Listing out i (lead ++ l.dropWhile leading) b.length ∧
    List.Forall₂ (Sampled b.length incAddress mult) (l.takeWhile leading) lead

theorem Walked.stop (listed : Listing b i l b.length)
    (last : ∀ x ∈ l.takeWhile leading, x.2.op = 11 → b.length ≤ x.1 + 3) :
    Walked b b incAddress mult i l := by
  refine ⟨rfl, fun _ _ => rfl, l.takeWhile leading, ?_, ?_⟩
  · rwa [List.takeWhile_append_dropWhile]
  · refine List.forall₂_same.mpr fun x mem => ?_
    obtain ⟨_, _, decoded, _⟩ := listed.decodes x (List.takeWhile_subset _ mem)
    exact .refl decoded (last x mem)

theorem Walked.cons {b' out : Bytes} {insn insn' : Insn} {later : List (Nat × Insn)}
    (h : Walked b' out incAddress mult (i + insn.size) later) (length : b'.length = b.length)
    (same : ∀ j < i, b'[j]? = b[j]?) (lead : leading (i, insn) = true) (inside : i < b.length)
    (decoded : decodeInsn (b'.drop i) = .ok insn')
    (sampled : Sampled b.length incAddress mult (i, insn) (i, insn')) :
    Walked b out incAddress mult i ((i, insn) :: later) := by
  have size : insn'.size = insn.size := sampled.size
  obtain ⟨run, listed, all⟩ := h.listed
  refine ⟨h.length.trans length, fun j before => ?_, (i, insn') :: run, ?_, ?_⟩
  · rw [h.before j (by omega), same j before]
  · rw [List.dropWhile_cons_of_pos lead, List.cons_append]
    refine .insn ?_ (decodeInsn_congr decoded fun j _ high => h.before j (by omega)) ?_
    · rw [h.length, length]
      exact inside
    · rw [size, ← length]
      exact listed
  · rw [List.takeWhile_cons_of_pos lead]
    exact .cons sampled (length ▸ all)

theorem Walked.last (listed : Listing b i l b.length) (near : b.length ≤ i + 3) :
    Walked b b incAddress mult i l := by
  refine .stop listed fun x mem _ => ?_
  obtain ⟨behind, _⟩ := listed.decodes x (List.takeWhile_subset _ mem)
  omega

theorem Walked.call {out : Bytes} {insn : Insn} {later : List (Nat × Insn)} (few : 1 ≤ mult.toNat)
    (small : mult.toNat ≤ 255) (inside : i + 3 < b.length) (first : b[i]? = some x)
    (second : b[i + 1]? = some y) (third : b[i + 2]? = some z) (call : x &&& 0xf8 = 0x10)
    (decoded : decodeInsn (b.drop i) = .ok insn)
    (h : Walked (sampledTable incAddress mult b i y z) out incAddress mult (i + 3) later) :
    Walked b out incAddress mult i ((i, insn) :: later) := by
  have here := decoded
  rw [drop_three first second third] at here
  obtain rfl := Outcome.ok.inj (here.symm.trans (decodeInsn_of_call call))
  have size : (sampledTable incAddress mult b i y z).length = b.length := by
    simp only [sampledTable, List.length_set]
  refine Walked.cons h size (fun j _ => sampledTable_other (by omega) (by omega)) rfl (by omega) ?_
    (sampled_call few small)
  rw [drop_three ((sampledTable_other (by omega) (by omega)).trans first)
    (sampledTable_address (by omega)) (sampledTable_count (by omega))]
  exact decodeInsn_of_call call

theorem patchTimeslotFrom_walked (few : 1 ≤ mult.toNat) (small : mult.toNat ≤ 255)
    (listed : Listing b i l b.length) (enough : b.length ≤ fuel + i) :
    Walked b (patchTimeslotFrom incAddress mult fuel b i) incAddress mult i l := by
  induction fuel generalizing b i l with
  | zero => exact .last listed (by omega)
  | succ fuel ih =>
    by_cases inside : i + 3 < b.length
    case neg =>
      rw [patchTimeslotFrom, if_neg inside]
      exact .last listed (by omega)
    case pos =>
      have first : b[i]? = some b[i] := List.getElem?_eq_getElem _
      have second : b[i + 1]? = some b[i + 1] := List.getElem?_eq_getElem _
      have third : b[i + 2]? = some b[i + 2] := List.getElem?_eq_getElem _
      cases listed with
      | stop => omega
      | @insn _ _ insn later within decoded next =>
        have here := decoded
        rw [drop_three first second third] at here
        have op := decodeInsn_op here
        have kept : ∀ {out : Bytes}, insn.op ≠ 11 → leading (i, insn) = true →
            Walked b out incAddress mult (i + insn.size) later →
            Walked b out incAddress mult i ((i, insn) :: later) := by
          intro out other lead rest
          exact rest.cons rfl (fun _ _ => rfl) lead within decoded
            (.refl decoded fun call => absurd call other)
        by_cases call : b[i] &&& 0xf8 = 0x10
        · have size : (sampledTable incAddress mult b i b[i + 1] b[i + 2]).length = b.length := by
            simp only [sampledTable, List.length_set]
          have three : insn.size = 3 := by
            rw [Outcome.ok.inj (here.symm.trans (decodeInsn_of_call call))]
          rw [three] at next
          rw [patchTimeslotFrom_call inside first second third call]
          refine .call few small inside first second third call decoded
            (ih ?_ (by rw [size]; omega))
          rw [size]
          exact next.congr fun j _ _ => sampledTable_other (by omega) (by omega)
        rw [patchTimeslotFrom_other inside first call]
        by_cases zero : b[i] = 0
        · rw [zero, decodeInsn_zero] at here
          obtain rfl := Outcome.ok.inj here
          rw [if_pos zero]
          exact kept (by decide) rfl (ih next (by omega))
        by_cases seven : b[i] = 7
        · have seventh : ∀ rest, decodeInsn (7 :: b[i + 1] :: rest) =
              .ok ⟨7, 2, [orWhole b[i + 1]]⟩ := fun _ => rfl
          rw [seven, seventh] at here
          obtain rfl := Outcome.ok.inj here
          rw [if_neg zero, if_pos seven]
          exact kept (show (7 : UInt8) ≠ 11 by decide) rfl (ih next (by omega))
        · have other : ¬ leading (i, insn) = true := by
            simp only [leading, op, opcode_zero, opcode_seven, opcode_call, zero, seven, call,
              or_self, decide_false, Bool.false_eq_true, not_false_iff]
          rw [if_neg zero, if_neg seven]
          refine .stop (.insn within decoded next) fun x mem => ?_
          rw [List.takeWhile_cons_of_neg other] at mem
          cases mem

end Walk

/-- What of an instruction tells the others where they are. -/
def shape (x : Nat × Insn) : Nat × UInt8 × Nat := (x.1, x.2.op, x.2.size)

theorem Sampled.shape_eq {x x' : Nat × Insn} (h : Sampled n incAddress mult x x') :
    shape x' = shape x := by
  rw [shape, shape, h.offset, h.op, h.size]

theorem sampled_shapes {l l' : List (Nat × Insn)}
    (all : List.Forall₂ (Sampled n incAddress mult) l l') : l'.map shape = l.map shape := by
  induction all with
  | nil => rfl
  | cons sampled _ ih => rw [List.map_cons, List.map_cons, sampled.shape_eq, ih]

/-- The patched table decodes to the same instructions, but for the operands of the calls in its
leading run. -/
theorem patchTimeslotTable_decodes (few : 1 ≤ mult.toNat) (small : mult.toNat ≤ 255)
    (incAddress : Bool) {l : List (Nat × Insn)} (listed : Listing b 0 l b.length) :
    (patchTimeslotTable b incAddress mult).length = b.length ∧
      ∃ lead, Listing (patchTimeslotTable b incAddress mult) 0 (lead ++ l.dropWhile leading)
          b.length ∧
        (lead ++ l.dropWhile leading).map shape = l.map shape ∧
        List.Forall₂ (Sampled b.length incAddress mult) (l.takeWhile leading) lead := by
  have walked : Walked b (patchTimeslotTable b incAddress mult) incAddress mult 0 l :=
    patchTimeslotFrom_walked few small listed (Nat.le_refl _)
  obtain ⟨lead, listed', all⟩ := walked.listed
  refine ⟨walked.length, lead, listed', ?_, all⟩
  rw [List.map_append, sampled_shapes all, ← List.map_append, List.takeWhile_append_dropWhile]

/-- A call that is sampled twice as often, before an instruction that ends the leading run. -/
theorem patchTimeslotTable_decodes_call :
    ∃ lead, Listing [0, 0x11, 6, 6, 0x20] 0 (lead ++ [(4, ⟨12, 1, [0]⟩)]) 5 ∧
      List.Forall₂ (Sampled 5 true 2) [(0, ⟨0, 1, []⟩), (1, ⟨11, 3, [1, 20, 3]⟩)] lead := by
  have listed : Listing [0, 0x11, 5, 3, 0x20] 0
      [(0, ⟨0, 1, []⟩), (1, ⟨11, 3, [1, 20, 3]⟩), (4, ⟨12, 1, [0]⟩)] 5 :=
    .insn (by decide) (by decide) (.insn (by decide) (by decide)
      (.insn (by decide) (by decide) (.stop 5)))
  have few : 1 ≤ (2 : UInt32).toNat := by decide
  obtain ⟨_, lead, listed', _, all⟩ := patchTimeslotTable_decodes few (by decide) true listed
  exact ⟨lead, listed', all⟩

end ValidityFprintd.Calibration
