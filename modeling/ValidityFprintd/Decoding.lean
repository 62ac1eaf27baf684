import ValidityFprintd.Chunks
import ValidityFprintd.Listing

/-! The instruction decoder as a prefix code: the first byte tells the opcode and the size, and
no byte behind the instruction is looked at. -/

namespace ValidityFprintd.Timeslot
open Effect

section Arms

variable {b0 : UInt8} (rest : Bytes)

theorem one_byte (insn : Insn) :
    (.ok insn : Outcome String Insn) = need (b0 :: rest) b0 1 >>= fun _ => .ok insn := by
  have whole : ¬ (b0 :: rest).length < 1 := by simp
  rw [need, Outcome.bailIf, if_neg whole, Outcome.ok_bind]

theorem two_bytes (f : UInt8 → Insn) :
    (need (b0 :: rest) b0 2 >>= fun _ => Bytes.byteAt (b0 :: rest) 1 >>= fun b1 => .ok (f b1)) =
      need (b0 :: rest) b0 2 >>= fun _ => .ok (f ((rest.take 1).getD 0 0)) := by
  cases rest with
  | nil => rfl
  | cons b1 rest => rfl

theorem three_bytes (f : UInt8 → UInt8 → Insn) :
    (need (b0 :: rest) b0 3 >>= fun _ => Bytes.byteAt (b0 :: rest) 1 >>= fun b1 =>
        Bytes.byteAt (b0 :: rest) 2 >>= fun b2 => .ok (f b1 b2)) =
      need (b0 :: rest) b0 3 >>= fun _ =>
        .ok (f ((rest.take 2).getD 0 0) ((rest.take 2).getD 1 0)) := by
  match rest with
  | [] | [_] => rfl
  | b1 :: b2 :: rest => rfl

end Arms

theorem decodeInsn_code (b0 : UInt8) :
    ∃ (op : UInt8) (size : Nat) (operands : Bytes → List UInt32), 0 < size ∧
      ∀ rest, decodeInsn (b0 :: rest) =
        need (b0 :: rest) b0 size >>= fun _ => .ok ⟨op, size, operands (rest.take (size - 1))⟩ := by
  by_cases short : b0 ≤ 4
  · refine ⟨b0, 1, fun _ => [], by decide, fun rest => ?_⟩
    rw [decodeInsn, if_pos short]
    exact one_byte rest _
  by_cases five : b0 = 5
  · refine ⟨5, 2, fun l => [(l.getD 0 0).toUInt32], by decide, fun rest => ?_⟩
    rw [decodeInsn, if_neg short, if_pos five]
    exact two_bytes rest fun b1 => ⟨5, 2, [b1.toUInt32]⟩
  by_cases six : b0 = 6
  · refine ⟨6, 2, fun l => [(l.getD 0 0).toUInt32], by decide, fun rest => ?_⟩
    rw [decodeInsn, if_neg short, if_neg five, if_pos six]
    exact two_bytes rest fun b1 => ⟨6, 2, [b1.toUInt32]⟩
  by_cases seven : b0 = 7
  · refine ⟨7, 2, fun l => [orWhole (l.getD 0 0)], by decide, fun rest => ?_⟩
    rw [decodeInsn, if_neg short, if_neg five, if_neg six, if_pos seven]
    exact two_bytes rest fun b1 => ⟨7, 2, [orWhole b1]⟩
  by_cases eight : b0 &&& 0xfe = 0x08
  · refine ⟨8, 2, fun l => [(b0.toUInt32 &&& 1) <<< 8 ||| (l.getD 0 0).toUInt32], by decide,
      fun rest => ?_⟩
    rw [decodeInsn, if_neg short, if_neg five, if_neg six, if_neg seven, if_pos eight]
    exact two_bytes rest fun b1 => ⟨8, 2, [(b0.toUInt32 &&& 1) <<< 8 ||| b1.toUInt32]⟩
  by_cases nine : b0 &&& 0xfe = 0x0a
  · refine ⟨9, 2, fun l => [(b0.toUInt32 &&& 1) <<< 8 ||| (l.getD 0 0).toUInt32], by decide,
      fun rest => ?_⟩
    rw [decodeInsn, if_neg short, if_neg five, if_neg six, if_neg seven, if_neg eight, if_pos nine]
    exact two_bytes rest fun b1 => ⟨9, 2, [(b0.toUInt32 &&& 1) <<< 8 ||| b1.toUInt32]⟩
  by_cases ten : b0 &&& 0xfc = 0x0c
  · refine ⟨10, 1, fun _ => [b0.toUInt32 &&& 3], by decide, fun rest => ?_⟩
    rw [decodeInsn, if_neg short, if_neg five, if_neg six, if_neg seven, if_neg eight, if_neg nine,
      if_pos ten]
    exact one_byte rest _
  by_cases call : b0 &&& 0xf8 = 0x10
  · refine ⟨11, 3, fun l => [b0.toUInt32 &&& 7, (l.getD 0 0).toUInt32 <<< 2, orWhole (l.getD 1 0)],
      by decide, fun rest => ?_⟩
    rw [decodeInsn, if_neg short, if_neg five, if_neg six, if_neg seven, if_neg eight, if_neg nine,
      if_neg ten, if_pos call]
    exact three_bytes rest fun b1 b2 =>
      ⟨11, 3, [b0.toUInt32 &&& 7, b1.toUInt32 <<< 2, orWhole b2]⟩
  by_cases twelve : b0 &&& 0xe0 = 0x20
  · refine ⟨12, 1, fun _ => [b0.toUInt32 &&& 0x1f], by decide, fun rest => ?_⟩
    rw [decodeInsn, if_neg short, if_neg five, if_neg six, if_neg seven, if_neg eight, if_neg nine,
      if_neg ten, if_neg call, if_pos twelve]
    exact one_byte rest _
  by_cases write : b0 &&& 0xc0 = 0x40
  · refine ⟨opRegisterWrite, 3, fun l => [(b0.toUInt32 &&& 0x3f) * 4 + 0x80002000,
      (l.getD 0 0).toUInt32 ||| (l.getD 1 0).toUInt32 <<< 8], by decide, fun rest => ?_⟩
    rw [decodeInsn, if_neg short, if_neg five, if_neg six, if_neg seven, if_neg eight, if_neg nine,
      if_neg ten, if_neg call, if_neg twelve, if_pos write]
    exact three_bytes rest fun b1 b2 => ⟨opRegisterWrite, 3,
      [(b0.toUInt32 &&& 0x3f) * 4 + 0x80002000, b1.toUInt32 ||| b2.toUInt32 <<< 8]⟩
  by_cases fourteen : b0 &&& 0xc0 = 0x80
  · refine ⟨14, 1, fun _ => [(b0.toUInt32 &&& 0x38) >>> 3, b0.toUInt32 &&& 7], by decide,
      fun rest => ?_⟩
    rw [decodeInsn, if_neg short, if_neg five, if_neg six, if_neg seven, if_neg eight, if_neg nine,
      if_neg ten, if_neg call, if_neg twelve, if_neg write, if_pos fourteen]
    exact one_byte rest _
  · refine ⟨15, 2, fun l => [(b0.toUInt32 &&& 0x38) >>> 3, b0.toUInt32 &&& 7,
      orWhole (l.getD 0 0)], by decide, fun rest => ?_⟩
    rw [decodeInsn, if_neg short, if_neg five, if_neg six, if_neg seven, if_neg eight, if_neg nine,
      if_neg ten, if_neg call, if_neg twelve, if_neg write, if_neg fourteen]
    exact two_bytes rest fun b1 =>
      ⟨15, 2, [(b0.toUInt32 &&& 0x38) >>> 3, b0.toUInt32 &&& 7, orWhole b1]⟩

section Sizes

variable {b b' : Bytes} {insn insn' : Insn} {b0 : UInt8} {rest rest' : Bytes}

theorem decodeInsn_cons_eq_ok : decodeInsn (b0 :: rest) = .ok insn ↔
    ∃ (op : UInt8) (size : Nat) (operands : Bytes → List UInt32), 0 < size ∧
      (∀ rest, decodeInsn (b0 :: rest) = need (b0 :: rest) b0 size >>= fun _ =>
        .ok ⟨op, size, operands (rest.take (size - 1))⟩) ∧
      size ≤ (b0 :: rest).length ∧ insn = ⟨op, size, operands (rest.take (size - 1))⟩ := by
  constructor
  · intro decoded
    obtain ⟨op, size, operands, some', code⟩ := decodeInsn_code b0
    rw [code] at decoded
    obtain ⟨_, long, decoded⟩ := Outcome.bind_eq_ok.mp decoded
    exact ⟨op, size, operands, some', code, Nat.not_lt.mp (Outcome.bailIf_eq_ok.mp long),
      (Outcome.ok.inj decoded).symm⟩
  · rintro ⟨op, size, operands, _, code, long, rfl⟩
    rw [code, need, Outcome.bailIf, if_neg (Nat.not_lt.mpr long), Outcome.ok_bind]

theorem decodeInsn_size (decoded : decodeInsn b = .ok insn) :
    0 < insn.size ∧ insn.size ≤ b.length := by
  cases b with
  | nil => cases decoded
  | cons b0 rest =>
    obtain ⟨_, _, _, some', _, long, rfl⟩ := decodeInsn_cons_eq_ok.mp decoded
    exact ⟨some', long⟩

theorem decodeInsn_returned (b : Bytes) : Returned (decodeInsn b).kind := by
  cases b with
  | nil => exact .error
  | cons b0 rest =>
    obtain ⟨_, _, _, _, code⟩ := decodeInsn_code b0
    rw [code]
    exact Outcome.guard_returned fun _ => .value

theorem decodeInsn_take (decoded : decodeInsn b = .ok insn)
    (same : b'.take insn.size = b.take insn.size) : decodeInsn b' = .ok insn := by
  obtain ⟨some', long⟩ := decodeInsn_size decoded
  match b, b' with
  | [], _ => cases decoded
  | b0 :: rest, [] =>
    have short := congrArg List.length same
    rw [List.take_nil, List.length_take, Nat.min_eq_left long, List.length_nil] at short
    omega
  | b0 :: rest, b0' :: rest' =>
    obtain ⟨op, size, operands, _, code, _, rfl⟩ := decodeInsn_cons_eq_ok.mp decoded
    obtain ⟨size, rfl⟩ := Nat.exists_eq_add_one_of_ne_zero (Nat.ne_of_gt some')
    have lengths : min (size + 1) (b0' :: rest').length = size + 1 := by
      simpa only [List.length_take, Nat.min_eq_left long] using congrArg List.length same
    rw [List.take_succ_cons, List.take_succ_cons] at same
    obtain ⟨rfl, tails⟩ := List.cons.inj same
    refine decodeInsn_cons_eq_ok.mpr ⟨op, size + 1, operands, some', code, ?_, ?_⟩
    · exact lengths ▸ Nat.min_le_right (size + 1) _
    · rw [Nat.add_sub_cancel, tails]

theorem decodeInsn_first (decoded : decodeInsn (b0 :: rest) = .ok insn)
    (decoded' : decodeInsn (b0 :: rest') = .ok insn') :
    insn.op = insn'.op ∧ insn.size = insn'.size := by
  obtain ⟨op, size, operands, _, code⟩ := decodeInsn_code b0
  rw [code] at decoded decoded'
  obtain ⟨_, _, decoded⟩ := Outcome.bind_eq_ok.mp decoded
  obtain ⟨_, _, decoded'⟩ := Outcome.bind_eq_ok.mp decoded'
  rw [← Outcome.ok.inj decoded, ← Outcome.ok.inj decoded']
  exact ⟨rfl, rfl⟩

/-- An instruction is read the same from any table with the same bytes in its place. -/
theorem decodeInsn_congr {pc : Nat} (decoded : decodeInsn (b.drop pc) = .ok insn)
    (same : ∀ i, pc ≤ i → i < pc + insn.size → b'[i]? = b[i]?) :
    decodeInsn (b'.drop pc) = .ok insn := by
  refine decodeInsn_take decoded (List.ext_getElem? fun k => ?_)
  rw [List.getElem?_take, List.getElem?_take]
  split
  · rw [List.getElem?_drop, List.getElem?_drop]
    exact same (pc + k) (Nat.le_add_right pc k) (by omega)
  · rfl

end Sizes

section FirstByte

theorem drop_three {b : Bytes} {i : Nat} {x y z : UInt8} (first : b[i]? = some x)
    (second : b[i + 1]? = some y) (third : b[i + 2]? = some z) :
    b.drop i = x :: y :: z :: b.drop (i + 3) := by
  obtain ⟨_, rfl⟩ := List.getElem?_eq_some_iff.mp first
  obtain ⟨_, rfl⟩ := List.getElem?_eq_some_iff.mp second
  obtain ⟨_, rfl⟩ := List.getElem?_eq_some_iff.mp third
  rw [List.drop_eq_getElem_cons, List.drop_eq_getElem_cons, List.drop_eq_getElem_cons]

def opcode (b0 : UInt8) : UInt8 :=
  match decodeInsn [b0, 0, 0] with
  | .ok insn => insn.op
  | _ => 0xff

theorem opcode_zero : ∀ b0, opcode b0 = 0 ↔ b0 = 0 := Bytes.forall_byte (by decide +kernel)

theorem opcode_seven : ∀ b0, opcode b0 = 7 ↔ b0 = 7 := Bytes.forall_byte (by decide +kernel)

theorem opcode_call : ∀ b0, opcode b0 = 11 ↔ b0 &&& 0xf8 = 0x10 :=
  Bytes.forall_byte (by decide +kernel)

theorem opcode_write : ∀ b0, opcode b0 = opRegisterWrite ↔ b0 &&& 0xc0 = 0x40 :=
  Bytes.forall_byte (by decide +kernel)

variable {b0 b1 b2 : UInt8} {b rest : Bytes} {insn : Insn} {f : UInt8 → UInt8 → Insn}

theorem decodeInsn_op (decoded : decodeInsn (b0 :: rest) = .ok insn) : insn.op = opcode b0 := by
  have known : ∀ b0, (decodeInsn [b0, 0, 0]).kind = .value :=
    Bytes.forall_byte (by decide +kernel)
  cases whole : decodeInsn [b0, 0, 0] with
  | ok insn' =>
    rw [opcode, whole]
    exact (decodeInsn_first decoded whole).1
  | err e => cases (known b0).symm.trans (congrArg Outcome.kind whole)
  | panic => cases (known b0).symm.trans (congrArg Outcome.kind whole)
  | stuck => cases (known b0).symm.trans (congrArg Outcome.kind whole)

theorem decodeInsn_of_call (call : b0 &&& 0xf8 = 0x10) : decodeInsn (b0 :: b1 :: b2 :: rest) =
    .ok ⟨11, 3, [b0.toUInt32 &&& 7, b1.toUInt32 <<< 2, orWhole b2]⟩ := by
  have others : ∀ b0 : UInt8, b0 &&& 0xf8 = 0x10 → ¬ b0 ≤ 4 ∧ ¬ b0 = 5 ∧ ¬ b0 = 6 ∧ ¬ b0 = 7 ∧
      ¬ b0 &&& 0xfe = 0x08 ∧ ¬ b0 &&& 0xfe = 0x0a ∧ ¬ b0 &&& 0xfc = 0x0c :=
    Bytes.forall_byte (by decide +kernel)
  obtain ⟨short, five, six, seven, eight, nine, ten⟩ := others b0 call
  rw [decodeInsn, if_neg short, if_neg five, if_neg six, if_neg seven, if_neg eight, if_neg nine,
    if_neg ten, if_pos call]
  exact three_bytes (b1 :: b2 :: rest) fun b1 b2 =>
    ⟨11, 3, [b0.toUInt32 &&& 7, b1.toUInt32 <<< 2, orWhole b2]⟩

theorem decodeInsn_of_write (write : b0 &&& 0xc0 = 0x40) : decodeInsn (b0 :: b1 :: b2 :: rest) =
    .ok ⟨opRegisterWrite, 3,
      [(b0.toUInt32 &&& 0x3f) * 4 + 0x80002000, b1.toUInt32 ||| b2.toUInt32 <<< 8]⟩ := by
  have others : ∀ b0 : UInt8, b0 &&& 0xc0 = 0x40 → ¬ b0 ≤ 4 ∧ ¬ b0 = 5 ∧ ¬ b0 = 6 ∧ ¬ b0 = 7 ∧
      ¬ b0 &&& 0xfe = 0x08 ∧ ¬ b0 &&& 0xfe = 0x0a ∧ ¬ b0 &&& 0xfc = 0x0c ∧
      ¬ b0 &&& 0xf8 = 0x10 ∧ ¬ b0 &&& 0xe0 = 0x20 :=
    Bytes.forall_byte (by decide +kernel)
  obtain ⟨short, five, six, seven, eight, nine, ten, call, twelve⟩ := others b0 write
  rw [decodeInsn, if_neg short, if_neg five, if_neg six, if_neg seven, if_neg eight, if_neg nine,
    if_neg ten, if_neg call, if_neg twelve, if_pos write]
  exact three_bytes (b1 :: b2 :: rest) fun b1 b2 => ⟨opRegisterWrite, 3,
    [(b0.toUInt32 &&& 0x3f) * 4 + 0x80002000, b1.toUInt32 ||| b2.toUInt32 <<< 8]⟩

theorem decodeInsn_three
    (decodes : ∀ b1 b2 rest, decodeInsn (b0 :: b1 :: b2 :: rest) = .ok (f b1 b2))
    (three : ∀ b1 b2, (f b1 b2).size = 3) (decoded : decodeInsn (b0 :: rest) = .ok insn) :
    ∃ b1 b2 later, rest = b1 :: b2 :: later ∧ insn = f b1 b2 := by
  have size : insn.size = 3 :=
    (decodeInsn_first decoded (decodes 0 0 [])).2.trans (three 0 0)
  have long := (decodeInsn_size decoded).2
  rw [size] at long
  match rest with
  | [] | [_] => simp at long
  | b1 :: b2 :: later =>
    exact ⟨b1, b2, later, rfl, Outcome.ok.inj (decoded.symm.trans (decodes b1 b2 later))⟩

theorem decodeInsn_call (decoded : decodeInsn b = .ok insn) (call : insn.op = 11) :
    ∃ b0 b1 b2 rest, b = b0 :: b1 :: b2 :: rest ∧ b0 &&& 0xf8 = 0x10 ∧
      insn = ⟨11, 3, [b0.toUInt32 &&& 7, b1.toUInt32 <<< 2, orWhole b2]⟩ := by
  cases b with
  | nil => cases decoded
  | cons b0 rest =>
    have mask := (opcode_call b0).mp (decodeInsn_op decoded ▸ call)
    obtain ⟨b1, b2, later, rfl, same⟩ :=
      decodeInsn_three (fun _ _ _ => decodeInsn_of_call mask) (fun _ _ => rfl) decoded
    exact ⟨b0, b1, b2, later, rfl, mask, same⟩

theorem decodeInsn_write (decoded : decodeInsn b = .ok insn) (write : insn.op = opRegisterWrite) :
    ∃ b0 b1 b2 rest, b = b0 :: b1 :: b2 :: rest ∧ b0 &&& 0xc0 = 0x40 ∧
      insn = ⟨opRegisterWrite, 3,
        [(b0.toUInt32 &&& 0x3f) * 4 + 0x80002000, b1.toUInt32 ||| b2.toUInt32 <<< 8]⟩ := by
  cases b with
  | nil => cases decoded
  | cons b0 rest =>
    have mask := (opcode_write b0).mp (decodeInsn_op decoded ▸ write)
    obtain ⟨b1, b2, later, rfl, same⟩ :=
      decodeInsn_three (fun _ _ _ => decodeInsn_of_write mask) (fun _ _ => rfl) decoded
    exact ⟨b0, b1, b2, later, rfl, mask, same⟩

end FirstByte

section Listings

variable {b b' : Bytes} {pc mid stop : Nat} {l m : List (Nat × Insn)}

theorem Listing.le (h : Listing b pc l stop) : pc ≤ stop := by
  induction h with
  | stop pc => exact Nat.le_refl pc
  | insn _ _ _ ih => omega

theorem Listing.inside (h : Listing b pc l stop) (start : pc ≤ b.length) : stop ≤ b.length := by
  induction h with
  | stop pc => exact start
  | @insn pc stop insn later within decoded _ ih =>
    have size := (decodeInsn_size decoded).2
    rw [List.length_drop] at size
    exact ih (by omega)

theorem Listing.decodes (h : Listing b pc l stop) :
    ∀ x ∈ l, pc ≤ x.1 ∧ x.1 < b.length ∧ decodeInsn (b.drop x.1) = .ok x.2 ∧
      x.1 + x.2.size ≤ stop := by
  induction h with
  | stop => exact fun _ none => absurd none List.not_mem_nil
  | @insn pc stop insn later inside decoded next ih =>
    intro x mem
    rcases List.mem_cons.mp mem with rfl | after
    · exact ⟨Nat.le_refl pc, inside, decoded, next.le⟩
    · obtain ⟨behind, rest⟩ := ih x after
      exact ⟨by omega, rest⟩

theorem Listing.append (h : Listing b pc l mid) (h' : Listing b mid m stop) :
    Listing b pc (l ++ m) stop := by
  induction h with
  | stop pc => exact h'
  | insn inside decoded _ ih => exact .insn inside decoded (ih h')

theorem Listing.split (h : Listing b pc (l ++ m) stop) :
    ∃ mid, Listing b pc l mid ∧ Listing b mid m stop := by
  induction l generalizing pc with
  | nil => exact ⟨pc, .stop pc, h⟩
  | cons x l ih =>
    cases h with
    | insn inside decoded next =>
      obtain ⟨mid, front, back⟩ := ih next
      exact ⟨mid, .insn inside decoded front, back⟩

theorem Listing.congr (h : Listing b pc l stop)
    (same : ∀ i, pc ≤ i → i < stop → b'[i]? = b[i]?) : Listing b' pc l stop := by
  induction h with
  | stop pc => exact .stop pc
  | @insn pc stop insn later inside decoded next ih =>
    have size := (decodeInsn_size decoded).1
    have after := next.le
    have here : pc < b'.length := by
      have byte := same pc (Nat.le_refl pc) (by omega)
      rw [List.getElem?_eq_getElem inside] at byte
      exact (List.getElem?_eq_some_iff.mp byte).1
    refine .insn here (decodeInsn_congr decoded fun i low high => same i low (by omega)) ?_
    exact ih fun i low high => same i (by omega) high

/-- Of two listings from one offset, one goes on where the other stops. -/
theorem Listing.comparable {stop' : Nat} (h : Listing b pc l stop) (h' : Listing b pc m stop') :
    (∃ later, m = l ++ later ∧ Listing b stop later stop') ∨
      ∃ later, l = m ++ later ∧ Listing b stop' later stop := by
  induction h generalizing m with
  | stop pc => exact .inl ⟨m, rfl, h'⟩
  | @insn pc stop insn later inside decoded next ih =>
    cases h' with
    | stop pc => exact .inr ⟨_, rfl, .insn inside decoded next⟩
    | insn _ decoded' next' =>
      obtain rfl := Outcome.ok.inj (decoded.symm.trans decoded')
      obtain ⟨rest, rfl, goes⟩ | ⟨rest, rfl, goes⟩ := ih next'
      · exact .inl ⟨rest, rfl, goes⟩
      · exact .inr ⟨rest, rfl, goes⟩

end Listings

end ValidityFprintd.Timeslot
