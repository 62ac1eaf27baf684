import Mathlib.Algebra.Group.Nat.Defs
import Mathlib.Tactic.Common
import ValidityFprintd.Effect

/-! Byte strings, the little- and big-endian integers packed in them, and the partial
operations on slices: an index out of range is a panic. -/

namespace ValidityFprintd
open Effect

abbrev Bytes := List UInt8

/-- A Rust `str`, as its characters. -/
abbrev Text := List Char

namespace Bytes

theorem forall_byte {p : UInt8 → Prop} (h : ∀ n : Fin 256, p (UInt8.ofFin n)) (b : UInt8) : p b :=
  h b.toFin

def le16 (n : UInt16) : Bytes := [UInt8.ofNat n.toNat, UInt8.ofNat (n.toNat / 256)]

def be16 (n : UInt16) : Bytes := [UInt8.ofNat (n.toNat / 256), UInt8.ofNat n.toNat]

def le32 (n : UInt32) : Bytes :=
  [UInt8.ofNat n.toNat, UInt8.ofNat (n.toNat / 256), UInt8.ofNat (n.toNat / 65536),
    UInt8.ofNat (n.toNat / 16777216)]

def be32 (n : UInt32) : Bytes := (le32 n).reverse

def fromLe16 (a b : UInt8) : UInt16 := UInt16.ofNat (a.toNat + 256 * b.toNat)

def fromBe16 (a b : UInt8) : UInt16 := fromLe16 b a

def fromLe32 (a b c d : UInt8) : UInt32 :=
  UInt32.ofNat (a.toNat + 256 * b.toNat + 65536 * c.toNat + 16777216 * d.toNat)

/-- `b.len() as u16`. -/
def len16 (b : Bytes) : UInt16 := UInt16.ofNat b.length

def len32 (b : Bytes) : UInt32 := UInt32.ofNat b.length

@[simp] theorem le16_length (n : UInt16) : (le16 n).length = 2 := rfl

@[simp] theorem be16_length (n : UInt16) : (be16 n).length = 2 := rfl

@[simp] theorem le32_length (n : UInt32) : (le32 n).length = 4 := rfl

@[simp] theorem fromLe16_toNat (a b : UInt8) : (fromLe16 a b).toNat = a.toNat + 256 * b.toNat := by
  have ha := a.toNat_lt
  have hb := b.toNat_lt
  simp only [fromLe16, UInt16.toNat_ofNat']
  omega

theorem fromLe16_le16 (n : UInt16) :
    fromLe16 (UInt8.ofNat n.toNat) (UInt8.ofNat (n.toNat / 256)) = n := by
  have hn := n.toNat_lt
  apply UInt16.toNat_inj.mp
  simp only [fromLe16_toNat, UInt8.toNat_ofNat']
  omega

theorem le16_fromLe16 (a b : UInt8) : le16 (fromLe16 a b) = [a, b] := by
  have ha := a.toNat_lt
  have low : UInt8.ofNat (a.toNat + 256 * b.toNat) = a := by
    apply UInt8.toNat_inj.mp
    rw [UInt8.toNat_ofNat']
    omega
  have high : UInt8.ofNat ((a.toNat + 256 * b.toNat) / 256) = b := by
    rw [Nat.add_mul_div_left _ _ (by decide), Nat.div_eq_of_lt ha, Nat.zero_add, UInt8.ofNat_toNat]
  rw [le16, fromLe16_toNat, low, high]

theorem le16_inj {m n : UInt16} (h : le16 m = le16 n) : m = n := by
  obtain ⟨low, rest⟩ := List.cons.inj h
  obtain ⟨high, _⟩ := List.cons.inj rest
  rw [← fromLe16_le16 m, ← fromLe16_le16 n, low, high]

theorem fromLe32_toNat (a b c d : UInt8) : (fromLe32 a b c d).toNat =
    a.toNat + 256 * b.toNat + 65536 * c.toNat + 16777216 * d.toNat := by
  have ha := a.toNat_lt
  have hb := b.toNat_lt
  have hc := c.toNat_lt
  have hd := d.toNat_lt
  simp only [fromLe32, UInt32.toNat_ofNat']
  omega

theorem fromLe32_le32 (n : UInt32) :
    fromLe32 (UInt8.ofNat n.toNat) (UInt8.ofNat (n.toNat / 256))
      (UInt8.ofNat (n.toNat / 65536)) (UInt8.ofNat (n.toNat / 16777216)) = n := by
  have hn := n.toNat_lt
  apply UInt32.toNat_inj.mp
  simp only [fromLe32_toNat, UInt8.toNat_ofNat']
  omega

theorem len16_toNat {b : Bytes} (h : b.length < 65536) : (len16 b).toNat = b.length := by
  simp only [len16, UInt16.toNat_ofNat']
  omega

def hexDigit (n : Nat) : Char := if n < 10 then Char.ofNat (48 + n) else Char.ofNat (87 + n)

def hex (b : Bytes) : String :=
  String.ofList (b.flatMap fun x => [hexDigit (x.toNat / 16), hexDigit (x.toNat % 16)])

/-- `{:#04x}` of a byte, and `{:#06x}` and `{:#010x}` of wider integers: `width` digits. -/
def hexNumber (width n : Nat) : String :=
  "0x" ++ String.ofList ((List.range width).map fun i => hexDigit (n / 16 ^ (width - 1 - i) % 16))

/-- Fill with zeros up to a length. -/
def padTo (n : Nat) (b : Bytes) : Bytes := b ++ List.replicate (n - b.length) 0

theorem padTo_of_le {n : Nat} {b : Bytes} (h : n ≤ b.length) : padTo n b = b := by
  simp [padTo, Nat.sub_eq_zero_of_le h]

theorem padTo_length (n : Nat) (b : Bytes) : (padTo n b).length = max n b.length := by
  simp only [padTo, List.length_append, List.length_replicate]
  omega

/-- `b.get(i..j)`. -/
def range? (b : Bytes) (i j : Nat) : Option Bytes :=
  if i ≤ j ∧ j ≤ b.length then some ((b.take j).drop i) else none

theorem range?_inside {b r : Bytes} {i j : Nat} (h : range? b i j = some r) :
    i ≤ j ∧ j ≤ b.length := by
  unfold range? at h
  split at h
  · assumption
  · cases h

theorem range?_length {b r : Bytes} {i j : Nat} (h : range? b i j = some r) : r.length = j - i := by
  unfold range? at h
  split at h
  · obtain rfl := Option.some.inj h
    rw [List.length_drop, List.length_take]
    omega
  · cases h

/-- `b.chunks(n)`, for a length to go through. -/
def chunksOf (n : Nat) : Nat → Bytes → List Bytes
  | _, [] => []
  | 0, _ :: _ => []
  | fuel + 1, b => b.take n :: chunksOf n fuel (b.drop n)

def chunks (n : Nat) (b : Bytes) : List Bytes := chunksOf n b.length b

section Chunks

variable {n : Nat}

theorem chunksOf_flatten (hn : 0 < n) {fuel : Nat} {b : Bytes} (enough : b.length ≤ fuel) :
    (chunksOf n fuel b).flatten = b := by
  induction fuel generalizing b with
  | zero =>
    obtain rfl : b = [] := List.length_eq_zero_iff.mp (by omega)
    rfl
  | succ fuel ih =>
    match b with
    | [] => rfl
    | x :: b =>
      have rest : ((x :: b).drop n).length ≤ fuel := by
        rw [List.length_drop]
        rw [List.length_cons] at enough ⊢
        omega
      show ((x :: b).take n :: chunksOf n fuel ((x :: b).drop n)).flatten = x :: b
      rw [List.flatten_cons, ih rest, List.take_append_drop]

theorem chunks_flatten (hn : 0 < n) (b : Bytes) : (chunks n b).flatten = b :=
  chunksOf_flatten hn (Nat.le_refl _)

theorem chunksOf_take_flatten (hn : 0 < n) {fuel : Nat} {b : Bytes} (enough : b.length ≤ fuel)
    (k : Nat) : ((chunksOf n fuel b).take k).flatten = b.take (k * n) := by
  induction fuel generalizing b k with
  | zero =>
    obtain rfl : b = [] := List.length_eq_zero_iff.mp (by omega)
    simp [chunksOf]
  | succ fuel ih =>
    match b, k with
    | [], _ => simp [chunksOf]
    | _ :: _, 0 => simp
    | x :: b, k + 1 =>
      have rest : ((x :: b).drop n).length ≤ fuel := by
        rw [List.length_drop]
        rw [List.length_cons] at enough ⊢
        omega
      show (((x :: b).take n :: chunksOf n fuel ((x :: b).drop n)).take (k + 1)).flatten = _
      rw [List.take_succ_cons, List.flatten_cons, ih rest, Nat.succ_mul, Nat.add_comm,
        List.take_add]

theorem chunks_take_flatten (hn : 0 < n) (b : Bytes) (k : Nat) :
    ((chunks n b).take k).flatten = b.take (k * n) := chunksOf_take_flatten hn (Nat.le_refl _) k

theorem chunks_sound (hn : 0 < n) (b : Bytes) :
    ∀ c ∈ chunks n b, c ≠ [] ∧ c.length ≤ n := by
  have each : ∀ fuel (b : Bytes), ∀ c ∈ chunksOf n fuel b, c ≠ [] ∧ c.length ≤ n := by
    intro fuel
    induction fuel with
    | zero =>
      intro b c mem
      cases b <;> cases mem
    | succ fuel ih =>
      intro b c mem
      match b with
      | [] => cases mem
      | x :: b =>
        rcases List.mem_cons.mp mem with rfl | mem
        · refine ⟨fun none => ?_, List.length_take_le _ _⟩
          have size := congrArg List.length none
          simp only [List.length_take, List.length_cons, List.length_nil] at size
          omega
        · exact ih _ c mem
  exact each b.length b

theorem chunks_length_le (hn : 0 < n) (b : Bytes) : (chunks n b).length ≤ b.length := by
  have each : ∀ l : List Bytes, (∀ c ∈ l, c ≠ []) → l.length ≤ l.flatten.length := by
    intro l some'
    induction l with
    | nil => exact Nat.le_refl 0
    | cons c l ih =>
      have first := List.length_pos_iff.mpr (some' c List.mem_cons_self)
      have rest := ih fun d mem => some' d (List.mem_cons_of_mem _ mem)
      rw [List.flatten_cons, List.length_append, List.length_cons]
      omega
  have bound := each (chunks n b) fun c mem => (chunks_sound hn b c mem).1
  rwa [chunks_flatten hn] at bound

theorem chunks_ne_nil (hn : 0 < n) {b : Bytes} (some' : b ≠ []) : chunks n b ≠ [] := by
  intro none
  have whole := chunks_flatten hn b
  rw [none] at whole
  exact some' whole.symm

end Chunks

section Outcomes

variable {ε : Type}

/-- `b[i]` in a computation without state. -/
def byteAt (b : Bytes) (i : Nat) : Outcome ε UInt8 :=
  match b[i]? with
  | some x => .ok x
  | none => .panic

/-- `u16::from_le_bytes([b[o], b[o + 1]])`. -/
def rd16 (b : Bytes) (o : Nat) : Outcome ε UInt16 :=
  match b[o]?, b[o + 1]? with
  | some x, some y => .ok (fromLe16 x y)
  | _, _ => .panic

def rd32 (b : Bytes) (o : Nat) : Outcome ε UInt32 :=
  match b[o]?, b[o + 1]?, b[o + 2]?, b[o + 3]? with
  | some x, some y, some z, some t => .ok (fromLe32 x y z t)
  | _, _, _, _ => .panic

theorem rd16_le16 (front back : Bytes) (n : UInt16) :
    (rd16 (front ++ le16 n ++ back) front.length : Outcome ε UInt16) = .ok n := by
  have first : (front ++ le16 n ++ back)[front.length]? = some (UInt8.ofNat n.toNat) := by
    simp [le16]
  have second : (front ++ le16 n ++ back)[front.length + 1]? =
      some (UInt8.ofNat (n.toNat / 256)) := by
    simp [le16]
  simp only [rd16, first, second, fromLe16_le16]

theorem rd16_at {b : Bytes} (front back : Bytes) {n : UInt16} {o : Nat}
    (hb : b = front ++ le16 n ++ back) (ho : o = front.length) :
    (rd16 b o : Outcome ε UInt16) = .ok n := by
  rw [hb, ho, rd16_le16]

theorem rd32_at {b : Bytes} (front back : Bytes) {n : UInt32} {o : Nat}
    (hb : b = front ++ le32 n ++ back) (ho : o = front.length) :
    (rd32 b o : Outcome ε UInt32) = .ok n := by
  have split : b = front ++ (le32 n ++ back) := by rw [hb, List.append_assoc]
  have first : b[o]? = some (UInt8.ofNat n.toNat) := by simp [split, ho, le32]
  have second : b[o + 1]? = some (UInt8.ofNat (n.toNat / 256)) := by simp [split, ho, le32]
  have third : b[o + 2]? = some (UInt8.ofNat (n.toNat / 65536)) := by simp [split, ho, le32]
  have fourth : b[o + 3]? = some (UInt8.ofNat (n.toNat / 16777216)) := by simp [split, ho, le32]
  simp only [rd32, first, second, third, fourth, fromLe32_le32]

theorem range?_at {b mid : Bytes} (front back : Bytes) {i j : Nat} (hb : b = front ++ mid ++ back)
    (hi : i = front.length) (hj : j = front.length + mid.length) : range? b i j = some mid := by
  have inside : i ≤ j ∧ j ≤ b.length := by
    rw [hb, hi, hj]
    simp only [List.length_append]
    omega
  have whole : (front ++ mid).length = j := by rw [List.length_append, hj]
  rw [range?, if_pos inside, hb, ← whole, List.take_left, hi, List.drop_left]

theorem range?_start {b r : Bytes} {n : Nat} :
    range? b 0 n = some r ↔ ∃ rest, b = r ++ rest ∧ r.length = n := by
  constructor
  · intro h
    have size := range?_length h
    have inside := range?_inside h
    rw [range?, if_pos inside, List.drop_zero] at h
    obtain rfl := Option.some.inj h
    exact ⟨b.drop n, (List.take_append_drop n b).symm, size⟩
  · rintro ⟨rest, rfl, rfl⟩
    exact range?_at [] rest rfl rfl (Nat.zero_add _).symm

theorem row_at {α : Type} {row : α → Bytes} {width : Nat} (hw : ∀ a, (row a).length = width)
    (l : List α) {i : Nat} (hi : i < l.length) :
    ∃ front back, l.flatMap row = front ++ row l[i] ++ back ∧ front.length = i * width := by
  induction l generalizing i with
  | nil => cases hi
  | cons a l ih =>
    cases i with
    | zero => exact ⟨[], l.flatMap row, by simp, by simp⟩
    | succ i =>
      obtain ⟨front, back, split, size⟩ := ih (by simpa using hi)
      refine ⟨row a ++ front, back, ?_, ?_⟩
      · rw [List.flatMap_cons, split]
        simp
      · rw [List.length_append, hw, size, Nat.succ_mul]
        omega

theorem table_length {α : Type} {f : α → Bytes} {n : Nat} (hw : ∀ a, (f a).length = n)
    (l : List α) : (l.flatMap f).length = n * l.length := by
  induction l with
  | nil => rfl
  | cons a l ih =>
    rw [List.flatMap_cons, List.length_append, hw, ih, List.length_cons, Nat.mul_succ]
    omega

theorem rd16_row {α : Type} {row : α → Bytes} {width : Nat} (hw : ∀ a, (row a).length = width)
    {l : List α} {i o : Nat} (hi : i < l.length) (before after : Bytes) {n : UInt16}
    (fields : row l[i] = before ++ le16 n ++ after) (ho : o = before.length) :
    (rd16 (l.flatMap row) (i * width + o) : Outcome ε UInt16) = .ok n := by
  obtain ⟨front, back, split, size⟩ := row_at hw l hi
  refine rd16_at (front ++ before) (after ++ back) ?_ ?_
  · rw [split, fields]
    simp only [List.append_assoc]
  · rw [List.length_append, size, ho]

theorem rd16_ok {b : Bytes} {o : Nat} (h : o + 2 ≤ b.length) :
    ∃ n, (rd16 b o : Outcome ε UInt16) = .ok n := by
  have first : b[o]? = some b[o] := List.getElem?_eq_getElem (by omega)
  have second : b[o + 1]? = some b[o + 1] := List.getElem?_eq_getElem (by omega)
  exact ⟨fromLe16 b[o] b[o + 1], by simp only [rd16, first, second]⟩

end Outcomes

section Partial

variable {ε E S : Type}

/-- `b[i]`. -/
def index (b : Bytes) (i : Nat) : Act ε E S UInt8 :=
  match b[i]? with
  | some x => Act.ret x
  | none => Act.crash

/-- `b[i..j]`. -/
def slice (b : Bytes) (i j : Nat) : Act ε E S Bytes :=
  if i ≤ j ∧ j ≤ b.length then Act.ret ((b.take j).drop i) else Act.crash

/-- `b[i..]`. -/
def sliceFrom (b : Bytes) (i : Nat) : Act ε E S Bytes :=
  if i ≤ b.length then Act.ret (b.drop i) else Act.crash

theorem sliceFrom_eq {b : Bytes} {i : Nat} (h : i ≤ b.length) :
    (sliceFrom b i : Act ε E S Bytes) = Act.ret (b.drop i) := by
  simp [sliceFrom, h]

@[simp] theorem index_bind {α : Type} (b : Bytes) (i : Nat) (f : UInt8 → Act ε E S α) (s : S) :
    (index b i >>= f) s = match b[i]? with
      | some x => f x s
      | none => ⟨.panic, s, []⟩ := by
  unfold index
  cases b[i]? <;> rfl

@[simp] theorem slice_bind {α : Type} (b : Bytes) (i j : Nat) (f : Bytes → Act ε E S α) (s : S) :
    (slice b i j >>= f) s =
      if i ≤ j ∧ j ≤ b.length then f ((b.take j).drop i) s else ⟨.panic, s, []⟩ := by
  by_cases h : i ≤ j ∧ j ≤ b.length
  · simp [slice, h]
  · simp only [slice, h, if_false]
    rfl

@[simp] theorem sliceFrom_bind {α : Type} (b : Bytes) (i : Nat) (f : Bytes → Act ε E S α) (s : S) :
    (sliceFrom b i >>= f) s = if i ≤ b.length then f (b.drop i) s else ⟨.panic, s, []⟩ := by
  by_cases h : i ≤ b.length
  · simp [sliceFrom, h]
  · simp only [sliceFrom, h, if_false]
    rfl

end Partial

end Bytes

end ValidityFprintd
