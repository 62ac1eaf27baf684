import Mathlib.Data.List.Induction
import ValidityFprintd.Anchors
import ValidityFprintd.Sampling

/-! The trim value put into a timeslot table: two walks through tables of any bytes, and one
operand byte that they settle on. -/

namespace ValidityFprintd.Calibration
open Effect Timeslot

/-- The instructions a table or a routine of it ends with. -/
def Ends (insn : Insn) : Prop := insn.op = 1 ∨ insn.op = 2 ∨ insn.op = 4

/-- The instructions from `start` on, up to the first that ends the routine or to the table's
end. -/
structure Routine (b : Bytes) (start : Nat) (l : List (Nat × Insn)) (stop : Nat) : Prop where
  listed : Listing b start l stop
  running : ∀ x ∈ l, ¬ Ends x.2
  ended : b.length ≤ stop ∨ ∃ insn, decodeInsn (b.drop stop) = .ok insn ∧ Ends insn

def isCall (x : Nat × Insn) : Bool := x.2.op = 11

def isTrimWrite (x : Nat × Insn) : Bool :=
  x.2.op = opRegisterWrite ∧ x.2.operands.head? = some regCalibration

/-- The last call of the table's first routine is for `target`. -/
def LastCall (b : Bytes) (target : UInt32) : Prop :=
  ∃ l stop pc k count, Routine b 0 l stop ∧
    (l.filter isCall).getLast? = some (pc, ⟨11, 3, [k, target, count]⟩)

/-- The last write to the calibration register in the routine at `start` is at `found`. -/
def LastWrite (b : Bytes) (start found : Nat) : Prop :=
  ∃ l stop insn, Routine b start l stop ∧ (l.filter isTrimWrite).getLast? = some (found, insn)

section Walks

variable {α : Type} {f : α → Nat → Insn → α} {b : Bytes} {fuel pc : Nat} {acc out : α}

/-- A walk takes in the instructions of a routine, one after another. -/
theorem scanTable_routine (h : scanTable f b fuel pc acc = .ok out) :
    ∃ l stop, Routine b pc l stop ∧ out = l.foldl (fun acc x => f acc x.1 x.2) acc := by
  have none : ∀ x ∈ ([] : List (Nat × Insn)), ¬ Ends x.2 := fun _ mem =>
    absurd mem List.not_mem_nil
  induction fuel generalizing pc acc with
  | zero =>
    rw [scanTable] at h
    split at h
    · cases h
    · cases h
      exact ⟨[], pc, ⟨.stop pc, none, .inl (by omega)⟩, rfl⟩
  | succ fuel ih =>
    rw [scanTable] at h
    split at h
    case isFalse outside =>
      cases h
      exact ⟨[], pc, ⟨.stop pc, none, .inl (by omega)⟩, rfl⟩
    case isTrue inside =>
      obtain ⟨insn, decoded, h⟩ := Outcome.bind_eq_ok.mp h
      split at h
      case isTrue ends =>
        cases h
        exact ⟨[], pc, ⟨.stop pc, none, .inr ⟨insn, decoded, ends⟩⟩, rfl⟩
      case isFalse runs =>
        obtain ⟨l, stop, routine, rfl⟩ := ih h
        refine ⟨(pc, insn) :: l, stop, ⟨.insn inside decoded routine.listed, ?_, routine.ended⟩,
          rfl⟩
        exact List.forall_mem_cons.mpr ⟨runs, routine.running⟩

theorem scanTable_returned (enough : b.length ≤ fuel + pc) :
    Returned (scanTable f b fuel pc acc).kind := by
  induction fuel generalizing pc acc with
  | zero =>
    rw [scanTable, if_neg (by omega)]
    exact .value
  | succ fuel ih =>
    rw [scanTable]
    split
    · refine Outcome.bind_returned (decodeInsn_returned _) fun insn decoded => ?_
      have some' := (decodeInsn_size decoded).1
      split
      · exact .value
      · exact ih (by omega)
    · exact .value

theorem foldl_last {β γ : Type} (p : β → Prop) [DecidablePred p] (g : β → Option γ) (l : List β) :
    l.foldl (fun acc x => if p x then g x else acc) none =
      (l.filter fun x => p x).getLast?.bind g := by
  induction l using List.reverseRecOn with
  | nil => rfl
  | append_singleton l x ih =>
    rw [List.foldl_append, ih, List.filter_append]
    by_cases hit : p x
    · simp [hit]
    · simp [hit]

end Walks

/-- An instruction, and the same one after the low byte of the write at `found` went from `low` to
`trim`. -/
structure Trimmed (found : Nat) (low trim : UInt8) (x x' : Nat × Insn) : Prop where
  offset : x'.1 = x.1
  op : x'.2.op = x.2.op
  size : x'.2.size = x.2.size
  other : x.1 ≠ found → x' = x
  write : x.1 = found → ∃ high : UInt8,
    x.2.operands = [regCalibration, low.toUInt32 ||| high.toUInt32 <<< 8] ∧
      x'.2.operands = [regCalibration, trim.toUInt32 ||| high.toUInt32 <<< 8]

theorem Trimmed.symm {found : Nat} {low trim : UInt8} {x x' : Nat × Insn}
    (h : Trimmed found low trim x x') : Trimmed found trim low x' x where
  offset := h.offset.symm
  op := h.op.symm
  size := h.size.symm
  other := fun other => (h.other (h.offset ▸ other)).symm
  write := by
    intro here
    obtain ⟨high, before, after⟩ := h.write (h.offset ▸ here)
    exact ⟨high, after, before⟩

section Edit

variable {b b' : Bytes} {start stop found : Nat} {low trim high : UInt8}
  {l pre : List (Nat × Insn)}

def trimWrite (low high : UInt8) : Insn :=
  ⟨opRegisterWrite, 3, [regCalibration, low.toUInt32 ||| high.toUInt32 <<< 8]⟩

theorem Listing.trimmed (same : ∀ i, i ≠ found + 1 → b'[i]? = b[i]?)
    (front : Listing b start pre found)
    (write : decodeInsn (b.drop found) = .ok (trimWrite low high))
    (write' : decodeInsn (b'.drop found) = .ok (trimWrite trim high))
    (inside : found < b'.length) (listed : Listing b start l stop) :
    ∃ l', Listing b' start l' stop ∧ List.Forall₂ (Trimmed found low trim) l l' := by
  have kept : ∀ {m : List (Nat × Insn)} {mid : Nat}, Listing b start m mid → mid ≤ found →
      Listing b' start m mid ∧ List.Forall₂ (Trimmed found low trim) m m := by
    intro m mid upto before
    refine ⟨upto.congr fun i _ inside => same i (by omega), List.forall₂_same.mpr fun x mem => ?_⟩
    obtain ⟨_, _, decoded, fits⟩ := upto.decodes x mem
    have some' := (decodeInsn_size decoded).1
    exact ⟨rfl, rfl, rfl, fun _ => rfl, fun here => absurd here (by omega)⟩
  obtain ⟨later, rfl, goes⟩ | ⟨later, rfl, goes⟩ := front.comparable listed
  · obtain ⟨front', unchanged⟩ := kept front (Nat.le_refl _)
    cases goes with
    | stop => exact ⟨pre ++ [], front'.append (.stop _), List.rel_append unchanged .nil⟩
    | @insn _ _ insn behind _ decoded next =>
      obtain rfl := Outcome.ok.inj (write.symm.trans decoded)
      have next' : Listing b' (found + 3) behind stop :=
        next.congr fun i after _ => same i (by have : found + 3 ≤ i := after; omega)
      refine ⟨_, front'.append (.insn inside write' next'), ?_⟩
      refine List.rel_append unchanged (.cons ⟨rfl, rfl, rfl, fun other => absurd rfl other,
        fun _ => ⟨high, rfl, rfl⟩⟩ (List.forall₂_same.mpr fun x mem => ?_))
      obtain ⟨after, _⟩ := next.decodes x mem
      have behind : found + 3 ≤ x.1 := after
      exact ⟨rfl, rfl, rfl, fun _ => rfl, fun here => absurd here (by omega)⟩
  · exact ⟨l, kept listed goes.le⟩

end Edit

section Unique

variable {b : Bytes} {start stop stop' found found' : Nat} {l m : List (Nat × Insn)}

theorem Routine.head (h : Routine b start l stop) {later : List (Nat × Insn)}
    (goes : Listing b stop later stop') (runs : ∀ x ∈ later, ¬ Ends x.2) : later = [] := by
  cases goes with
  | stop => rfl
  | insn inside decoded next =>
    rcases h.ended with outside | ⟨insn, decoded', ends⟩
    · exact absurd inside (Nat.not_lt.mpr outside)
    · obtain rfl := Outcome.ok.inj (decoded.symm.trans decoded')
      exact absurd ends (runs _ (List.mem_cons_self ..))

theorem Routine.unique (h : Routine b start l stop) (h' : Routine b start m stop') : l = m := by
  obtain ⟨later, rfl, goes⟩ | ⟨later, rfl, goes⟩ := h.listed.comparable h'.listed
  · rw [h.head goes fun x mem => h'.running x (List.mem_append_right _ mem), List.append_nil]
  · rw [h'.head goes fun x mem => h.running x (List.mem_append_right _ mem), List.append_nil]

end Unique

/-- The one byte of a table that is replaced. -/
structure TrimEdit (cfg : SensorConfig) (b out : Bytes) (start found : Nat) (low trim : UInt8) :
    Prop where
  setting : cfg.factoryCalibrationValues[cfg.keyCalibrationLine.toNat]? = some trim
  before : b[found + 1]? = some low
  after : out[found + 1]? = some trim
  others : ∀ i, i ≠ found + 1 → out[i]? = b[i]?
  forth : ∀ l stop, Listing b start l stop →
    ∃ l', Listing out start l' stop ∧ List.Forall₂ (Trimmed found low trim) l l'
  back : ∀ l' stop, Listing out start l' stop →
    ∃ l, Listing b start l stop ∧ List.Forall₂ (Trimmed found low trim) l l'

section Patch

variable {b : Bytes} {cfg : SensorConfig} {l : List (Nat × Insn)} {start stop found : Nat}

theorem trimWrite_of_mem {x : Nat × Insn} (listed : Listing b start l stop)
    (mem : x ∈ l.filter isTrimWrite) : ∃ b0 low high rest,
      b.drop x.1 = b0 :: low :: high :: rest ∧ b0 &&& 0xc0 = 0x40 ∧ x.2 = trimWrite low high ∧
        (b0.toUInt32 &&& 0x3f) * 4 + 0x80002000 = regCalibration := by
  obtain ⟨there, write⟩ := List.mem_filter.mp mem
  obtain ⟨_, _, decoded, _⟩ := listed.decodes x there
  obtain ⟨op, register⟩ := of_decide_eq_true write
  obtain ⟨b0, low, high, rest, bytes, mask, same⟩ := decodeInsn_write decoded op
  rw [same] at register
  have register : (b0.toUInt32 &&& 0x3f) * 4 + 0x80002000 = regCalibration :=
    Option.some.inj register
  exact ⟨b0, low, high, rest, bytes, mask, by rw [same, register, trimWrite], register⟩

theorem TrimEdit.of_write {insn : Insn} {trim : UInt8} (listed : Listing b start l stop)
    (mem : (found, insn) ∈ l.filter isTrimWrite)
    (setting : cfg.factoryCalibrationValues[cfg.keyCalibrationLine.toNat]? = some trim) :
    found + 1 < b.length ∧ ∃ low, TrimEdit cfg b (b.set (found + 1) trim) start found low trim := by
  obtain ⟨front, back, split⟩ := List.append_of_mem (List.mem_filter.mp mem).1
  obtain ⟨b0, low, high, rest, bytes, mask, whole, register⟩ := trimWrite_of_mem listed mem
  obtain ⟨_, inside, decoded, _⟩ := listed.decodes _ (List.mem_filter.mp mem).1
  rw [split] at listed
  obtain ⟨mid, upto, next⟩ := listed.split
  have here : mid = found := by
    cases next with
    | insn => rfl
  subst here
  rw [show insn = trimWrite low high from whole] at decoded
  have long : mid + 3 ≤ b.length := by
    have size : 3 ≤ (b.drop mid).length := (decodeInsn_size decoded).2
    rw [List.length_drop] at size
    omega
  have bytesAt : ∀ k, b[mid + k]? = (b0 :: low :: high :: rest)[k]? := fun k => by
    rw [← bytes, List.getElem?_drop]
  have others : ∀ i, i ≠ mid + 1 → (b.set (mid + 1) trim)[i]? = b[i]? := fun i other =>
    List.getElem?_set_ne (Ne.symm other)
  have after : (b.set (mid + 1) trim)[mid + 1]? = some trim := List.getElem?_set_self (by omega)
  have decoded' : decodeInsn ((b.set (mid + 1) trim).drop mid) = .ok (trimWrite trim high) := by
    rw [drop_three ((others mid (by omega)).trans (bytesAt 0)) after
      ((others (mid + 2) (by omega)).trans (bytesAt 2)), decodeInsn_of_write mask, register]
    rfl
  have upto' : Listing (b.set (mid + 1) trim) start front mid :=
    upto.congr fun i _ before => others i (by omega)
  refine ⟨by omega, low, setting, bytesAt 1, after, others, fun l stop => ?_, fun l' stop => ?_⟩
  · exact Listing.trimmed others upto decoded decoded' (by rw [List.length_set]; omega)
  · intro listed'
    obtain ⟨l, listed, all⟩ := Listing.trimmed (fun i other => (others i other).symm) upto' decoded'
      decoded (by omega) listed'
    exact ⟨l, listed, List.Forall₂.flip (all.imp fun _ _ => Trimmed.symm)⟩

theorem scanTable_call {fuel : Nat} {target : Option UInt32}
    (h : scanTable (fun target _ insn => if insn.op = 11 then insn.operands[1]? else target)
      b fuel 0 none = .ok target) (T : UInt32) : target = some T ↔ LastCall b T := by
  obtain ⟨l, stop, routine, rfl⟩ := scanTable_routine h
  rw [foldl_last (fun x : Nat × Insn => x.2.op = 11) fun x => x.2.operands[1]?]
  constructor
  · intro called
    obtain ⟨⟨pc, insn⟩, last, operand⟩ := Option.bind_eq_some_iff.mp called
    obtain ⟨there, call⟩ := List.mem_filter.mp (List.mem_of_getLast? last)
    obtain ⟨_, _, decoded, _⟩ := routine.listed.decodes _ there
    obtain ⟨b0, b1, b2, _, _, _, rfl⟩ := decodeInsn_call decoded (of_decide_eq_true call)
    obtain rfl := Option.some.inj operand
    exact ⟨l, stop, pc, _, _, routine, last⟩
  · rintro ⟨l', stop', pc, k, count, routine', last⟩
    obtain rfl := routine.unique routine'
    exact Option.bind_eq_some_iff.mpr ⟨_, last, rfl⟩

theorem scanTable_write {fuel : Nat} {found : Option Nat}
    (h : scanTable (fun found pc insn =>
      if insn.op = opRegisterWrite ∧ insn.operands.head? = some regCalibration then some pc
      else found) b fuel start none = .ok found) (pc : Nat) :
    found = some pc ↔ LastWrite b start pc := by
  obtain ⟨l, stop, routine, rfl⟩ := scanTable_routine h
  rw [foldl_last (fun x : Nat × Insn =>
    x.2.op = opRegisterWrite ∧ x.2.operands.head? = some regCalibration) fun x => some x.1]
  constructor
  · intro written
    obtain ⟨⟨pc, insn⟩, last, same⟩ := Option.bind_eq_some_iff.mp written
    obtain rfl := Option.some.inj same
    exact ⟨l, stop, insn, routine, last⟩
  · rintro ⟨l', stop', insn, routine', last⟩
    obtain rfl := routine.unique routine'
    exact Option.bind_eq_some_iff.mpr ⟨_, last, rfl⟩

theorem LastCall.unique {T T' : UInt32} (h : LastCall b T) (h' : LastCall b T') : T = T' := by
  obtain ⟨l, _, pc, k, count, routine, last⟩ := h
  obtain ⟨l', _, pc', k', count', routine', last'⟩ := h'
  obtain rfl := routine.unique routine'
  cases last.symm.trans last'
  rfl

theorem LastWrite.edit {trim : UInt8} (written : LastWrite b start found)
    (setting : cfg.factoryCalibrationValues[cfg.keyCalibrationLine.toNat]? = some trim) :
    found + 1 < b.length ∧ ∃ low, TrimEdit cfg b (b.set (found + 1) trim) start found low trim := by
  obtain ⟨l, stop, insn, routine, last⟩ := written
  exact TrimEdit.of_write routine.listed (List.mem_of_getLast? last) setting

/-- The patch replaces one operand byte of the routine that is called last, or nothing. -/
theorem patchTimeslotAgain_edits (b : Bytes) (cfg : SensorConfig) :
    Returned (patchTimeslotAgain b cfg).kind ∧ ∀ out, patchTimeslotAgain b cfg = .ok out →
      out.length = b.length ∧
      (out = b ∧ (¬ ∃ target found, LastCall b target ∧ LastWrite b target.toNat found) ∨
        ∃ target found low trim, LastCall b target ∧ LastWrite b target.toNat found ∧
          TrimEdit cfg b out target.toNat found low trim) := by
  unfold patchTimeslotAgain
  constructor
  · refine Outcome.bind_returned (scanTable_returned (Nat.le_refl _)) fun target _ => ?_
    cases target with
    | none => exact .value
    | some target =>
      refine Outcome.bind_returned (scanTable_returned (Nat.le_add_right _ _))
        fun found walked => ?_
      cases found with
      | none => exact .value
      | some found =>
        refine Outcome.bind_returned (Outcome.ofOption_returned _ _) fun trim set => ?_
        have written := (scanTable_write walked found).mp rfl
        rw [if_pos (written.edit (Outcome.ofOption_eq_ok.mp set)).1]
        exact .value
  · intro out patched
    obtain ⟨target, called, patched⟩ := Outcome.bind_eq_ok.mp patched
    have call := scanTable_call called
    cases target with
    | none =>
      cases patched
      refine ⟨rfl, .inl ⟨rfl, ?_⟩⟩
      rintro ⟨T, _, last, _⟩
      cases (call T).mpr last
    | some target =>
      obtain ⟨found, walked, patched⟩ := Outcome.bind_eq_ok.mp patched
      have write := scanTable_write walked
      have last := (call target).mp rfl
      cases found with
      | none =>
        cases patched
        refine ⟨rfl, .inl ⟨rfl, ?_⟩⟩
        rintro ⟨T, found, last', written⟩
        obtain rfl := last.unique last'
        cases (write found).mpr written
      | some found =>
        obtain ⟨trim, set, patched⟩ := Outcome.bind_eq_ok.mp patched
        have written := (write found).mp rfl
        obtain ⟨inside, low, edit⟩ := written.edit (Outcome.ofOption_eq_ok.mp set)
        rw [if_pos inside] at patched
        obtain rfl := Outcome.ok.inj patched
        exact ⟨List.length_set, .inr ⟨target, found, low, trim, last, written, edit⟩⟩

/-- A routine behind the table's end mark that writes the register twice. -/
theorem patchTimeslotAgain_edits_twice : ∃ target found low trim,
    LastCall [0x10, 1, 2, 1, 0x4f, 7, 9, 0x4f, 8, 9] target ∧
      LastWrite [0x10, 1, 2, 1, 0x4f, 7, 9, 0x4f, 8, 9] target.toNat found ∧
      TrimEdit tinyConfig [0x10, 1, 2, 1, 0x4f, 7, 9, 0x4f, 8, 9]
        [0x10, 1, 2, 1, 0x4f, 7, 9, 0x4f, 3, 9] target.toNat found low trim := by
  have patched : patchTimeslotAgain [0x10, 1, 2, 1, 0x4f, 7, 9, 0x4f, 8, 9] tinyConfig =
      .ok [0x10, 1, 2, 1, 0x4f, 7, 9, 0x4f, 3, 9] := by
    decide
  obtain ⟨_, ⟨same, _⟩ | edited⟩ := (patchTimeslotAgain_edits _ tinyConfig).2 _ patched
  · exact absurd same (by decide)
  · exact edited

end Patch

end ValidityFprintd.Calibration
