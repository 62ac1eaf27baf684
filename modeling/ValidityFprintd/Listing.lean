import ValidityFprintd.CaptureProgram

/-! Where the instructions of a timeslot table are, and what patching the table leaves as it
was. -/

namespace ValidityFprintd.Timeslot
open Effect

/-- The instructions of `b` from one offset up to another, each where the one before it ends. -/
inductive Listing (b : Bytes) : Nat → List (Nat × Insn) → Nat → Prop
  | stop (pc : Nat) : Listing b pc [] pc
  | insn {pc stop : Nat} {insn : Insn} {later : List (Nat × Insn)} (inside : pc < b.length)
      (decoded : decodeInsn (b.drop pc) = .ok insn)
      (next : Listing b (pc + insn.size) later stop) : Listing b pc ((pc, insn) :: later) stop

/-- `insn`, at `pc`, is the `n`th instruction of the table that `p` holds of. -/
structure IsNth (p : Insn → Bool) (b : Bytes) (n pc : Nat) (insn : Insn) : Prop where
  inside : pc < b.length
  decoded : decodeInsn (b.drop pc) = .ok insn
  sort : p insn = true
  nth : ∃ before, Listing b 0 before pc ∧ before.countP (fun x => p x.2) + 1 = n

variable {b : Bytes} {p : Insn → Bool}

def ZeroHead (width : Nat) (b : Bytes) : Prop := ∀ k < width, b[k]? = some 0

theorem decodeInsn_zero (rest : Bytes) : decodeInsn (0 :: rest) = .ok ⟨0, 1, []⟩ := rfl

theorem ZeroHead.le {width pc : Nat} {insn : Insn} (zeros : ZeroHead width b)
    (decoded : decodeInsn (b.drop pc) = .ok insn) (live : insn.op ≠ 0) : width ≤ pc := by
  by_contra head
  obtain ⟨inside, zero⟩ := List.getElem?_eq_some_iff.mp (zeros pc (Nat.not_le.mp head))
  rw [List.drop_eq_getElem_cons inside, zero, decodeInsn_zero] at decoded
  exact live (Outcome.ok.inj decoded ▸ rfl)

theorem ZeroHead.set {width i : Nat} (zeros : ZeroHead width b) (behind : width ≤ i) (x : UInt8) :
    ZeroHead width (b.set i x) := by
  intro k inside
  rw [List.getElem?_set_ne (by omega)]
  exact zeros k inside

end ValidityFprintd.Timeslot

namespace ValidityFprintd.Calibration
open Effect Timeslot

variable {b : Bytes} {incAddress : Bool} {mult : UInt32}

theorem patchTimeslotFrom_keeps {width fuel i : Nat} (zeros : ZeroHead width b) :
    (patchTimeslotFrom incAddress mult fuel b i).length = b.length ∧
      ZeroHead width (patchTimeslotFrom incAddress mult fuel b i) := by
  induction fuel generalizing b i with
  | zero => exact ⟨rfl, zeros⟩
  | succ fuel ih =>
    rw [patchTimeslotFrom]
    split
    case isFalse => exact ⟨rfl, zeros⟩
    case isTrue =>
      split
      case h_2 => exact ⟨rfl, zeros⟩
      case h_1 x y z first _ _ =>
        split
        case isTrue sampling =>
          have behind : width ≤ i := by
            by_contra head
            cases first.symm.trans (zeros i (Nat.not_le.mp head))
            cases sampling
          dsimp only
          split
          · have scaled := zeros.set (show width ≤ i + 2 by omega) (z * mult.toUInt8)
            split
            · have moved := scaled.set (show width ≤ i + 1 by omega) (y + 1)
              simpa only [List.length_set] using ih (i := i + 3) moved
            · simpa only [List.length_set] using ih (i := i + 3) scaled
          · exact ih zeros
        case isFalse =>
          split
          · exact ih zeros
          · split
            · exact ih zeros
            · exact ⟨rfl, zeros⟩

/-- What holds at the start, and after each instruction gone through, holds in the end. -/
theorem scanTable_rule {α : Type} {f : α → Nat → Insn → α} {P : α → Prop}
    (step : ∀ acc pc insn, P acc → pc < b.length → decodeInsn (b.drop pc) = .ok insn →
      P (f acc pc insn))
    {fuel pc : Nat} {acc out : α} (start : P acc) (h : scanTable f b fuel pc acc = .ok out) :
    P out := by
  induction fuel generalizing pc acc with
  | zero =>
    rw [scanTable] at h
    split at h
    · cases h
    · cases h
      exact start
  | succ fuel ih =>
    rw [scanTable] at h
    split at h
    · rename_i inside
      obtain ⟨insn, decoded, h⟩ := Outcome.bind_eq_ok.mp h
      split at h
      · cases h
        exact start
      · exact ih (step acc pc insn start inside decoded) h
    · cases h
      exact start

variable {cfg : SensorConfig} {out : Bytes}

theorem patchTimeslotAgain_keeps {width : Nat} (zeros : ZeroHead width b)
    (patched : patchTimeslotAgain b cfg = .ok out) :
    out.length = b.length ∧ ZeroHead width out := by
  unfold patchTimeslotAgain at patched
  obtain ⟨target, _, patched⟩ := Outcome.bind_eq_ok.mp patched
  split at patched
  · cases patched
    exact ⟨rfl, zeros⟩
  · obtain ⟨found, scanned, patched⟩ := Outcome.bind_eq_ok.mp patched
    have write : ∀ pc, found = some pc → width ≤ pc := by
      apply scanTable_rule (P := fun found => ∀ pc, found = some pc → width ≤ pc) _ _ scanned
      · intro found pc insn kept inside decoded pc' same
        split at same
        · rename_i write
          obtain rfl := Option.some.inj same
          exact zeros.le decoded (by rw [write.1]; decide)
        · exact kept pc' same
      · exact fun _ none => nomatch none
    split at patched
    · cases patched
      exact ⟨rfl, zeros⟩
    · rename_i found
      obtain ⟨trim, _, patched⟩ := Outcome.bind_eq_ok.mp patched
      split at patched
      · cases patched
        exact ⟨List.length_set, zeros.set (Nat.le_succ_of_le (write found rfl)) trim⟩
      · cases patched

theorem patchedTable_keeps {mode : CaptureMode} {body : Bytes} {width : Nat}
    (zeros : ZeroHead width body) (patched : patchedTable mode cfg body = .ok out) :
    out.length = body.length ∧ ZeroHead width out := by
  have once : (patchTimeslotTable body true cfg.typeInfo.repeatMultiplier).length = body.length ∧
      ZeroHead width (patchTimeslotTable body true cfg.typeInfo.repeatMultiplier) :=
    patchTimeslotFrom_keeps zeros
  unfold patchedTable at patched
  split at patched
  · cases patched
    exact once
  · obtain ⟨size, head⟩ := patchTimeslotAgain_keeps once.2 patched
    exact ⟨size.trans once.1, head⟩

theorem patchedTable_length {mode : CaptureMode} {body : Bytes}
    (patched : patchedTable mode cfg body = .ok out) : out.length = body.length :=
  have zeros : ZeroHead 0 body := fun _ none => absurd none (Nat.not_lt_zero _)
  (patchedTable_keeps zeros patched).1

theorem getKeyLine_length {calib : Calibration} {key : Bytes}
    (got : getKeyLine calib cfg = .ok key) : key.length = cfg.typeInfo.lineWidth.toNat := by
  unfold getKeyLine at got
  dsimp only at got
  split at got
  · cases got
    exact List.length_replicate
  · obtain ⟨bpcl, _, got⟩ := Outcome.bind_eq_ok.mp got
    cases got
    rw [List.length_map, Bytes.padTo_length]
    cases line : Bytes.range? calib.calibData (8 + bpcl * cfg.keyCalibrationLine.toNat)
        (8 + bpcl * cfg.keyCalibrationLine.toNat + cfg.typeInfo.lineWidth.toNat) with
    | none => exact Nat.max_eq_left (Nat.zero_le _)
    | some line' =>
      obtain ⟨inside, same⟩ := Option.ite_none_right_eq_some.mp line
      obtain rfl := Option.some.inj same
      apply Nat.max_eq_left
      rw [Option.getD_some, List.length_drop, List.length_take]
      omega

end ValidityFprintd.Calibration
