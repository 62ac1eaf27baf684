import ValidityFprintd.TlsRecords

/-! What the functions of the session layer keep, for any relation that the few changes they
make to a session keep and that composes. -/

namespace ValidityFprintd.Tls
open Effect Crypto

variable {E : Type} {C : Primitives} {R : Tls → List E → Tls → Prop} [Composes R]

/-- What building a message changes of a session. -/
structure Bookkeeping (R : Tls → List E → Tls → Prop) : Prop where
  hash : ∀ s h, R s [] { s with handshakeHash := h }
  rng : ∀ s f, R s [] { s with rng := f }

/-- What taking a message changes. -/
structure Listening (R : Tls → List E → Tls → Prop) : Prop extends Bookkeeping R where
  random : ∀ s r, R s [] { s with serverRandom := r }
  secureRx : ∀ s, R s [] { s with secureRx := true }

section Partial

theorem index_respects (b : Bytes) (i : Nat) :
    Respects R (Bytes.index b i : Act String E Tls UInt8) := by
  unfold Bytes.index
  split
  · exact .ret _
  · exact .crash

theorem slice_respects (b : Bytes) (i j : Nat) :
    Respects R (Bytes.slice b i j : Act String E Tls Bytes) := by
  unfold Bytes.slice
  split
  · exact .ret _
  · exact .crash

theorem sliceFrom_respects (b : Bytes) (i : Nat) :
    Respects R (Bytes.sliceFrom b i : Act String E Tls Bytes) := by
  unfold Bytes.sliceFrom
  split
  · exact .ret _
  · exact .crash

theorem copy32_respects (b : Bytes) : Respects R (copy32 b : Act String E Tls Bytes32) := by
  unfold copy32
  split
  · exact .ret _
  · exact .crash

end Partial

section Build

variable (hb : Bookkeeping R)

include hb

theorem withNegHdr_respects (t : UInt8) (b : Bytes) :
    Respects R (withNegHdr t b : Act String E Tls Bytes) :=
  .bind (.modify fun s => hb.hash s _) fun _ => .ret _

theorem makeCerts_respects : Respects R (makeCerts : Act String E Tls Bytes) :=
  .bind .get fun _ => withNegHdr_respects hb _ _

theorem makeClientKex_respects : Respects R (makeClientKex : Act String E Tls Bytes) :=
  .bind .get fun _ => withNegHdr_respects hb _ _

theorem makeCertVerify_respects : Respects R (makeCertVerify C : Act String E Tls Bytes) := by
  refine .bind .get fun s => .bind (.mapErr _ (.lift _)) fun key => ?_
  exact .bind (.mapErr _ (.lift _)) fun sig => withNegHdr_respects hb _ _

theorem encrypt_respects (b : Bytes) : Respects R (encrypt C b : Act String E Tls Bytes) := by
  have draw : Respects R (draw16 : Act String E Tls Bytes) := fun s => hb.rng s _
  exact .bind draw fun iv => .bind .get fun s => .bind (.lift _) fun _ => .ret _

theorem makeHandshake_respects (b : Bytes) :
    Respects R (makeHandshake C b : Act String E Tls Bytes) := by
  refine .bind .get fun s => ?_
  split
  · exact .bind (encrypt_respects hb _) fun _ => .ret _
  · exact .ret _

end Build

section Receive

variable (hl : Listening R)

include hl

theorem handleServerHello_respects (p : Bytes) :
    Respects R (handleServerHello p : Act String E Tls Unit) := by
  refine .bind (.bailIf _ _) fun _ => .bind (index_respects _ _) fun major => ?_
  refine .bind (index_respects _ _) fun minor => .bind (.bailIf _ _) fun _ => ?_
  refine .bind (slice_respects _ _ _) fun bytes => .bind (copy32_respects _) fun random => ?_
  refine .bind (.modify fun s => hl.random s _) fun _ => ?_
  refine .bind (index_respects _ _) fun sidLen => .bind (.bailIf _ _) fun _ => ?_
  refine .bind (index_respects _ _) fun hi => .bind (index_respects _ _) fun lo => ?_
  refine .bind (.bailIf _ _) fun _ => .bind (index_respects _ _) fun compression => ?_
  exact .bailIf _ _

theorem handleMessage_respects (t : UInt8) (p : Bytes) :
    Respects R (handleMessage C t p : Act String E Tls Unit) := by
  refine .ite (handleServerHello_respects hl p) (.ite (.ret _) (.ite (.ret _) (.ite ?_ (.fail _))))
  exact .bind .get fun s => .bailIf _ _

theorem handleMessages_respects (fuel : Nat) (hs : Bytes) :
    Respects R (handleMessages C fuel hs : Act String E Tls Unit) := by
  induction fuel generalizing hs with
  | zero =>
    cases hs with
    | nil => exact .ret _
    | cons => exact .starve
  | succ fuel ih =>
    cases hs with
    | nil => exact .ret _
    | cons b hs =>
      unfold handleMessages
      split
      · refine .bind (.bailIf _ _) fun _ => .bind (slice_respects _ _ _) fun p => ?_
        refine .bind (sliceFrom_respects _ _) fun next => ?_
        refine .bind (handleMessage_respects hl _ _) fun _ => ?_
        exact .bind (.modify fun s => hl.hash s _) fun _ => ih next
      · exact .crash

theorem handleHandshake_respects (pkt : Bytes) :
    Respects R (handleHandshake C pkt : Act String E Tls Unit) := by
  refine .bind .get fun s => ?_
  split
  · refine .bind (.lift _) fun plain => .bind (.lift _) fun hs => ?_
    exact handleMessages_respects hl _ _
  · exact handleMessages_respects hl _ _

theorem handleRecord_respects (t : UInt8) (pkt : Bytes) :
    Respects R (handleRecord C t pkt : Act String E Tls Bytes) := by
  refine .ite (.bind (handleHandshake_respects hl pkt) fun _ => .ret _) ?_
  refine .ite ?_ (.ite ?_ (.fail _))
  · exact .bind (.bailIf _ _) fun _ => .bind (.modify hl.secureRx) fun _ => .ret _
  · exact .bind .get fun s => .bind (.bailIf _ _) fun _ => .bind (.lift _) fun plain => .lift _

theorem handleRecords_respects (fuel : Nat) (raw data : Bytes) :
    Respects R (handleRecords C fuel raw data : Act String E Tls Bytes) := by
  induction fuel generalizing raw data with
  | zero =>
    cases raw with
    | nil => exact .ret _
    | cons => exact .starve
  | succ fuel ih =>
    cases raw with
    | nil => exact .ret _
    | cons b raw =>
      unfold handleRecords
      split
      · refine .bind (.bailIf _ _) fun _ => .bind (.bailIf _ _) fun _ => ?_
        refine .bind (slice_respects _ _ _) fun pkt => .bind (sliceFrom_respects _ _) fun next => ?_
        exact .bind (handleRecord_respects hl _ _) fun more => ih next _
      · exact .crash

theorem parseTlsResponse_respects (rsp : Bytes) :
    Respects R (parseTlsResponse C rsp : Act String E Tls Bytes) :=
  handleRecords_respects hl _ _ _

end Receive

section Silent

theorem makeFinish_respects (secureTx : ∀ s, R s [] { s with secureTx := true }) :
    Respects R (makeFinish C : Act String E Tls Bytes) :=
  .bind (.modify secureTx) fun _ => .bind .get fun _ => .ret _

theorem finishPacket_respects (hb : Bookkeeping R)
    (secureTx : ∀ s, R s [] { s with secureTx := true }) :
    Respects R (finishPacket C : Act String E Tls Bytes) := by
  refine .bind (makeCerts_respects hb) fun certs => ?_
  refine .bind (makeClientKex_respects hb) fun kex => ?_
  refine .bind (makeCertVerify_respects hb) fun verify => ?_
  refine .bind (makeHandshake_respects hb _) fun rec1 => ?_
  refine .bind (makeFinish_respects secureTx) fun finish => ?_
  exact .bind (makeHandshake_respects hb _) fun rec2 => .ret _

/-- Nothing is sent. -/
def Unsent : Tls → List E → Tls → Prop := fun _ l _ => l = []

instance unsent_composes : Composes (Unsent (E := E)) where
  nil := fun _ => rfl
  append := fun h h' => List.append_eq_nil_iff.mpr ⟨h, h'⟩

theorem unsent_listening : Listening (Unsent (E := E)) :=
  ⟨⟨fun _ _ => rfl, fun _ _ => rfl⟩, fun _ _ => rfl, fun _ => rfl⟩

theorem helloPacket_unsent : Respects Unsent (helloPacket C : Act String E Tls Bytes) := by
  have random : Respects Unsent (draw32 : Act String E Tls Bytes32) := fun _ => rfl
  refine .bind (.modify fun _ => rfl) fun _ => .bind ?_ fun _ => ?_
  · exact .bind random fun _ => .bind (.modify fun _ => rfl) fun _ =>
      withNegHdr_respects unsent_listening.toBookkeeping _ _
  · exact .bind (makeHandshake_respects unsent_listening.toBookkeeping _) fun _ => .ret _

theorem makeKeys_unsent : Respects Unsent (makeKeys C : Act String E Tls Unit) := by
  refine .bind (.modify fun _ => rfl) fun _ => .bind .get fun s => ?_
  exact .bind (slice_respects _ _ _) fun _ => .bind (slice_respects _ _ _) fun _ =>
    .bind (slice_respects _ _ _) fun _ => .bind (slice_respects _ _ _) fun _ =>
    .modify fun _ => rfl

theorem finishPacket_unsent : Respects Unsent (finishPacket C : Act String E Tls Bytes) :=
  finishPacket_respects unsent_listening.toBookkeeping fun _ => rfl

theorem parseTlsResponse_unsent (rsp : Bytes) :
    Respects Unsent (parseTlsResponse C rsp : Act String E Tls Bytes) :=
  parseTlsResponse_respects unsent_listening rsp

end Silent

end ValidityFprintd.Tls
