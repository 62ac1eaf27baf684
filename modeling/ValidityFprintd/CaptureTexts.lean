import ValidityFprintd.Capture
import ValidityFprintd.Decoding

/-! What a capture says when its command is not built, or its report is not read: no text of
theirs is the one of a capture that was stopped. -/

namespace ValidityFprintd.CaptureStop
open Effect Timeslot Calibration Capture

/-- No text with this start is the one of a stopped capture. -/
def Apart (text : String) : Prop := ¬ text.toList <+: "stopped".toList

instance (text : String) : Decidable (Apart text) := inferInstanceAs (Decidable (¬ _))

theorem Apart.append {text : String} (h : Apart text) (rest : String) : Apart (text ++ rest) := by
  intro start
  rw [String.toList_append] at start
  exact h ((List.prefix_append _ _).trans start)

theorem Apart.ne {text : String} (h : Apart text) : text ≠ "stopped" := by
  rintro rfl
  exact h (List.prefix_refl _)

theorem splitFrom_apart (fuel : Nat) (b : Bytes) : (splitFrom fuel b).Fails Apart := by
  induction fuel generalizing b with
  | zero =>
    cases b with
    | nil => exact .ok []
    | cons b0 rest => exact .stuck
  | succ fuel ih =>
    match b with
    | [] => exact .ok []
    | [_] | [_, _] | [_, _, _] => exact .err (.append (by decide) _)
    | k0 :: k1 :: s0 :: s1 :: tail =>
      refine .bind (.ofOption ?_ _) fun body => .bind (ih _) fun chunks => .ok _
      exact .append (.append (.append (.append (by decide) _) _) _) _

theorem decodeInsn_apart (b : Bytes) : (decodeInsn b).Fails Apart := by
  cases b with
  | nil => exact .err (by decide)
  | cons b0 rest =>
    obtain ⟨op, size, operands, _, code⟩ := decodeInsn_code b0
    rw [code]
    refine .bind (.bailIf ?_) fun _ => .ok _
    exact .append (.append (.append (.append (.append (by decide) _) _) _) _) _

theorem findNth_apart (p : Insn → Bool) (b : Bytes) (fuel pc n : Nat) :
    (findNth p b fuel pc n).Fails Apart := by
  induction fuel generalizing pc n with
  | zero => exact .ite .stuck (.ok none)
  | succ fuel ih =>
    refine .ite (.bind (decodeInsn_apart _) fun insn => ?_) (.ok none)
    exact .ite (.ite (.ok _) (ih _ _)) (ih _ _)

theorem scanTable_apart {α : Type} (f : α → Nat → Insn → α) (b : Bytes) (fuel pc : Nat) (acc : α) :
    (scanTable f b fuel pc acc).Fails Apart := by
  induction fuel generalizing pc acc with
  | zero => exact .ite .stuck (.ok acc)
  | succ fuel ih =>
    refine .ite (.bind (decodeInsn_apart _) fun insn => ?_) (.ok acc)
    exact .ite (.ok acc) (ih _ _)

theorem patchTimeslotAgain_apart (b : Bytes) (cfg : SensorConfig) :
    (patchTimeslotAgain b cfg).Fails Apart := by
  refine .bind (scanTable_apart _ _ _ _ _) fun target => ?_
  cases target with
  | none => exact .ok b
  | some target =>
    refine .bind (scanTable_apart _ _ _ _ _) fun found => ?_
    cases found with
    | none => exact .ok b
    | some found =>
      exact .bind (.ofOption (by decide) _) fun trim => .ite (.ok _) .panic

theorem patchTables_apart (mode : CaptureMode) (cfg : SensorConfig)
    {place : Bytes → Outcome String Bytes} (placed : ∀ b, (place b).Fails Apart)
    (cs : List Chunk) (tst : Bytes) : (patchTables mode cfg place cs tst).Fails Apart := by
  induction cs generalizing tst with
  | nil => exact .ok _
  | cons c cs ih =>
    refine .ite (.bind (ih tst) fun _ => .ok _) ?_
    refine .bind (.ite (.ok _) (patchTimeslotAgain_apart _ _)) fun patched => ?_
    exact .bind (placed patched) fun body => .bind (ih patched) fun _ => .ok _

theorem lineUpdateType1_apart (calib : Calibration) (mode : CaptureMode) (chunks : List Chunk)
    (cfg : SensorConfig) : (lineUpdateType1 calib mode chunks cfg).Fails Apart := by
  have lines : (bytesPerCalibrationLine calib cfg).Fails Apart := .ite .panic (.ok _)
  have key : (getKeyLine calib cfg).Fails Apart := .ite (.ok _) (.bind lines fun _ => .ok _)
  have place : ∀ patched : Bytes, Outcome.Fails Apart (do
      let key ← getKeyLine calib cfg
      .ok (key ++ patched.drop cfg.typeInfo.lineWidth.toNat)) := fun _ => .bind key fun _ => .ok _
  refine .bind (patchTables_apart mode cfg place _ _) fun patched => ?_
  refine .bind (.bailIf (by decide)) fun _ => ?_
  refine .bind (findNth_apart _ _ _ _ _) fun _ => .bind (.ofOption (by decide) _) fun _ => ?_
  refine .bind (findNth_apart _ _ _ _ _) fun _ => .bind (.ofOption (by decide) _) fun _ => ?_
  exact .ite (.ok _) (.bind lines fun _ => .ok _)

theorem lineUpdateType2_apart (mode : CaptureMode) (chunks : List Chunk) (cfg : SensorConfig) :
    (lineUpdateType2 mode chunks cfg).Fails Apart := by
  have anchor : ∀ place data, (anchored place data).Fails Apart := fun _ _ =>
    .bind (.ofOption (by decide) _) fun _ => .ok _
  refine .bind (patchTables_apart mode cfg (fun _ => .ok _) _ _) fun patched => ?_
  refine .bind (.bailIf (by decide)) fun _ => ?_
  refine .bind (.ofOption (.append (by decide) _) _) fun _ => ?_
  refine .bind (findNth_apart _ _ _ _ _) fun _ => .bind (findNth_apart _ _ _ _ _) fun _ => ?_
  refine .bind (findNth_apart _ _ _ _ _) fun _ => .bind (anchor _ _) fun _ => ?_
  exact .bind (anchor _ _) fun _ => .bind (anchor _ _) fun _ => .ok _

theorem buildCmd02_apart (calib : Calibration) (mode : CaptureMode) (cfg : SensorConfig) :
    (buildCmd02 calib mode cfg).Fails Apart :=
  .bind (splitFrom_apart _ _) fun program => .bind
    (.ite (lineUpdateType1_apart calib mode program cfg) (lineUpdateType2_apart mode program cfg))
    fun _ => .ok _

theorem parseCaptureStatus_apart (body : Bytes) : (parseCaptureStatus body).Fails Apart := by
  have rd16 : ∀ b o, (Bytes.rd16 b o : Outcome String UInt16).Fails Apart := by
    intro b o
    unfold Bytes.rd16
    split
    · exact .ok _
    · exact .panic
  have rd32 : ∀ b o, (Bytes.rd32 b o : Outcome String UInt32).Fails Apart := by
    intro b o
    unfold Bytes.rd32
    split
    · exact .ok _
    · exact .panic
  refine .bind (.bailIf (.append (.append (by decide) _) _)) fun _ => .bind (rd32 _ _) fun l => ?_
  refine .bind (.bailIf (.append (.append (.append (by decide) _) _) _)) fun _ => ?_
  refine .bind (rd32 _ _) fun error => .bind (.bailIf (.append (by decide) _)) fun _ => ?_
  refine .bind (rd16 _ _) fun x => .bind (rd16 _ _) fun y => ?_
  exact .bind (rd16 _ _) fun w1 => .bind (rd16 _ _) fun w2 => .ok _

end ValidityFprintd.CaptureStop
