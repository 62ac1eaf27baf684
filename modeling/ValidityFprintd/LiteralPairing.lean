import ValidityFprintd.BlockGrammar
import ValidityFprintd.LiteralSession

/-! The parsers of the pairing record as the source writes them, and that none of their steps
panics. -/

namespace ValidityFprintd.Literal
open Effect Crypto Pairing

section Words

/-- `u16::from_le_bytes([b[o], b[o + 1]])`. -/
def rd16 (b : Bytes) (o : Nat) : Outcome String UInt16 := do
  let x ← Checked.get b o
  let second ← Checked.add o 1
  let y ← Checked.get b second
  .ok (Bytes.fromLe16 x y)

def rd32 (b : Bytes) (o : Nat) : Outcome String UInt32 := do
  let x ← Checked.get b o
  let second ← Checked.add o 1
  let y ← Checked.get b second
  let third ← Checked.add o 2
  let z ← Checked.get b third
  let fourth ← Checked.add o 3
  let t ← Checked.get b fourth
  .ok (Bytes.fromLe32 x y z t)

variable {b : Bytes} {o : Nat}

theorem rd16_eq (small : o < 2 ^ 63) : rd16 b o = Bytes.rd16 b o := by
  rw [rd16, Bytes.rd16, Checked.add_eq (by omega)]
  simp only [Outcome.ok_bind]
  unfold Checked.get
  cases b[o]? <;> cases b[o + 1]? <;> rfl

theorem rd32_eq (small : o < 2 ^ 63) : rd32 b o = Bytes.rd32 b o := by
  rw [rd32, Bytes.rd32, Checked.add_eq (by omega), Checked.add_eq (by omega),
    Checked.add_eq (by omega)]
  simp only [Outcome.ok_bind]
  unfold Checked.get
  cases b[o]? <;> cases b[o + 1]? <;> cases b[o + 2]? <;> cases b[o + 3]? <;> rfl

end Words

section Blocks

variable (C : Primitives)

/-- Each block takes at least its header off. -/
def flashBlocks : Nat → Bytes → Outcome String (List FlashBlock)
  | 0, rest => if rest.length < 4 + 32 then .ok [] else .stuck
  | fuel + 1, rest =>
    if rest.length < 4 + 32 then .ok []
    else do
      let id ← rd16 rest 0
      let sz ← rd16 rest 2
      if id = blockEnd then .ok []
      else do
        let digest ← Checked.slice rest 4 (4 + 32)
        let afterHdr ← Checked.sliceFrom rest (4 + 32)
        Outcome.bailIf (afterHdr.length < sz.toNat)
          (s!"block {Bytes.hexNumber 4 id.toNat} claims {sz.toNat} bytes but only " ++
            s!"{afterHdr.length} remain")
        let body ← Checked.sliceTo afterHdr sz.toNat
        Outcome.bailIf ((C.sha256 body).toList ≠ digest)
          s!"block {Bytes.hexNumber 4 id.toNat} failed its SHA-256 integrity check"
        let rest ← Checked.sliceFrom afterHdr sz.toNat
        let blocks ← flashBlocks fuel rest
        .ok (⟨id, body⟩ :: blocks)

def parseFlashBlocks (data : Bytes) : Outcome String (List FlashBlock) :=
  flashBlocks C data.length data

theorem flashBlocks_eq {fuel : Nat} {rest : Bytes} (enough : rest.length ≤ fuel) :
    flashBlocks C fuel rest = ofExcept (Pairing.parseFlashBlocks C rest) := by
  induction fuel generalizing rest with
  | zero =>
    obtain rfl := List.length_eq_zero_iff.mp (Nat.le_zero.mp enough)
    rw [parseFlashBlocks_end (.inl (show ([] : Bytes).length < 36 by decide))]
    rfl
  | succ fuel ih =>
    by_cases short : rest.length < 4 + 32
    · rw [flashBlocks, if_pos short, parseFlashBlocks_end (.inl short)]
      rfl
    obtain ⟨i0, i1, s0, s1, tail, rfl⟩ := header_of_long (show 4 ≤ rest.length by omega)
    have size : (i0 :: i1 :: s0 :: s1 :: tail).length = tail.length + 4 := rfl
    have id : rd16 (i0 :: i1 :: s0 :: s1 :: tail) 0 = .ok (Bytes.fromLe16 i0 i1) :=
      rd16_eq (by decide)
    have sz : rd16 (i0 :: i1 :: s0 :: s1 :: tail) 2 = .ok (Bytes.fromLe16 s0 s1) :=
      rd16_eq (by decide)
    rw [flashBlocks, if_neg short, id, sz]
    dsimp only [Outcome.ok_bind]
    by_cases last : Bytes.fromLe16 i0 i1 = blockEnd
    · rw [if_pos last, parseFlashBlocks_end (recordEnd_header.mpr (.inr last))]
      rfl
    · have more : ¬ (tail.length < 32 ∨ Bytes.fromLe16 i0 i1 = blockEnd) :=
        not_or.mpr ⟨by omega, last⟩
      rw [Pairing.parseFlashBlocks, if_neg last, if_neg more, ofExcept_ite,
        Checked.slice_eq (by decide) (by omega), Checked.sliceFrom_eq (by omega), Outcome.ok_bind,
        Outcome.ok_bind]
      apply Checked.guard_congr
      intro fits
      replace fits : (Bytes.fromLe16 s0 s1).toNat ≤ (tail.drop 32).length := Nat.not_lt.mp fits
      rw [ofExcept_ite]
      change (Checked.sliceTo (tail.drop 32) _ >>= _) = _
      rw [Checked.sliceTo_eq fits, Outcome.ok_bind]
      apply Checked.guard_congr
      intro _
      change (Checked.sliceFrom (tail.drop 32) _ >>= _) = _
      have less : ((tail.drop 32).drop (Bytes.fromLe16 s0 s1).toNat).length ≤ fuel := by
        rw [List.length_drop, List.length_drop]
        omega
      rw [Checked.sliceFrom_eq fits, Outcome.ok_bind, ih less, ofExcept_bind]
      rfl

theorem parseFlashBlocks_eq (data : Bytes) :
    parseFlashBlocks C data = ofExcept (Pairing.parseFlashBlocks C data) :=
  flashBlocks_eq C (Nat.le_refl _)

end Blocks

section Material

variable (C : Primitives) (P : Curve)

def inspectPairing (blocks : List FlashBlock) (keys : HostKeys) : Outcome String PairingState :=
  match blocks.find? (fun b => b.id = blockPriv) with
  | none => .ok .unpaired
  | some privBlock =>
    if privBlock.body.all (fun b => b = 0) then .ok .unpaired
    else if privBlock.body.isEmpty then .ok .unpaired
    else do
      let first ← Checked.get privBlock.body 0
      Outcome.bailIf (first ≠ 2)
        s!"unknown private-key record prefix {Bytes.hexNumber 2 first.toNat}"
      let rest ← Checked.sliceFrom privBlock.body 1
      Outcome.bailIf (rest.length < 32 + 16)
        s!"private-key record is truncated ({rest.length} bytes)"
      let n ← Checked.sub rest.length 32
      let (ciphertext, mac) ← Checked.splitAt rest n
      if (C.hmac keys.pskValidationKey ciphertext).toList ≠ mac then .ok .pairedToAnotherHost
      else do
        let (iv, ct) ← Checked.splitAt ciphertext 16
        let plain ← ofExcept (aesCbcDecryptRaw C keys.pskEncryptionKey iv ct)
        let plain ← unpadPkcs7 plain
        Outcome.bailIf (plain.length < 0x60)
          s!"decrypted private-key record is too short ({plain.length} bytes)"
        let d ← Checked.slice plain 0x40 0x60
        let d ← Checked.copyInto 32 d
        .ok (.pairedToThisHost d.reverse)

theorem reversed_copy {plain : Bytes} (long : 0x60 ≤ plain.length) :
    (Checked.copyInto 32 ((plain.take 0x60).drop 0x40) : Outcome String Bytes32) =
      .ok (reversed32 plain 0x40 long).reverse := by
  have size : ((plain.take 0x60).drop 0x40).length = 32 := by
    rw [List.length_drop, List.length_take]
    omega
  rw [Checked.copyInto_eq size]
  refine congrArg Outcome.ok (Vector.ext fun k inside => ?_)
  have mirror : 0x40 + (31 - (32 - 1 - k)) = 0x40 + k := by omega
  simp only [Vector.getElem_mk, List.getElem_toArray, List.getElem_drop, List.getElem_take,
    Vector.getElem_reverse, reversed32, Vector.getElem_ofFn, mirror]

theorem inspectPairing_eq (blocks : List FlashBlock) (keys : HostKeys) :
    inspectPairing C blocks keys = ofExcept (Pairing.inspectPairing C blocks keys) := by
  unfold inspectPairing Pairing.inspectPairing
  cases blocks.find? (fun b => b.id = blockPriv) with
  | none => rfl
  | some privBlock =>
    dsimp only
    split
    · rfl
    · cases privBlock.body with
      | nil => rfl
      | cons first rest =>
        have head : (Checked.get (first :: rest) 0 : Outcome String UInt8) = .ok first := rfl
        have tail : (Checked.sliceFrom (first :: rest) 1 : Outcome String Bytes) = .ok rest :=
          Checked.sliceFrom_eq (Nat.le_add_left 1 _)
        rw [List.isEmpty_cons, if_neg Bool.false_ne_true, head, Outcome.ok_bind]
        dsimp only
        rw [ofExcept_ite]
        apply Checked.guard_congr
        intro _
        rw [tail, Outcome.ok_bind, ofExcept_ite]
        apply Checked.guard_congr
        intro long
        rw [Checked.sub_eq (by omega), Outcome.ok_bind, Checked.splitAt_eq (Nat.sub_le _ _),
          Outcome.ok_bind]
        dsimp only
        split
        · rfl
        · have iv : 16 ≤ (rest.take (rest.length - 32)).length := by
            rw [List.length_take]
            omega
          rw [Checked.splitAt_eq iv, Outcome.ok_bind, ofExcept_bind]
          apply Checked.bind_congr
          intro plain _
          rw [unpadPkcs7_eq, ofExcept_bind]
          apply Checked.bind_congr
          intro plain _
          by_cases short : plain.length < 0x60
          · rw [dif_pos short, Outcome.bailIf, if_pos short]
            rfl
          · rw [dif_neg short, Outcome.bailIf, if_neg short, Outcome.ok_bind,
              Checked.slice_eq (by decide) (by omega), Outcome.ok_bind,
              reversed_copy (Nat.not_lt.mp short), Outcome.ok_bind, Vector.reverse_reverse]
            rfl

def pointFromLe (xLe yLe : Bytes) : Outcome String Bytes := do
  let x ← Checked.copyInto 32 xLe
  let y ← Checked.copyInto 32 yLe
  .ok (encodedPoint x.reverse.toList y.reverse.toList)

def ecdhPublicFromBlock (body : Bytes) : Outcome String Bytes := do
  Outcome.bailIf (body.length < 0x90) s!"ECDH block is truncated ({body.length} bytes)"
  let x ← Checked.slice body 0x08 0x28
  let y ← Checked.slice body 0x4c 0x6c
  let point ← pointFromLe x y
  if P.isPoint point then .ok point
  else .err "ECDH block does not describe a point on P-256"

theorem pointFromLe_eq {x y : Bytes} (hx : x.length = 32) (hy : y.length = 32) :
    pointFromLe x y = .ok (Pairing.pointFromLe x y) := by
  rw [pointFromLe, Checked.copyInto_eq hx, Checked.copyInto_eq hy, Outcome.ok_bind,
    Outcome.ok_bind, Pairing.pointFromLe]
  simp

theorem ecdhPublicFromBlock_eq (body : Bytes) :
    ecdhPublicFromBlock P body = ofExcept (Pairing.ecdhPublicFromBlock P body) := by
  unfold ecdhPublicFromBlock Pairing.ecdhPublicFromBlock
  rw [ofExcept_ite]
  apply Checked.guard_congr
  intro long
  have x : ((body.take 0x28).drop 0x08).length = 32 := by
    rw [List.length_drop, List.length_take]
    omega
  have y : ((body.take 0x6c).drop 0x4c).length = 32 := by
    rw [List.length_drop, List.length_take]
    omega
  rw [Checked.slice_eq (by decide) (by omega), Checked.slice_eq (by decide) (by omega),
    Outcome.ok_bind, Outcome.ok_bind, pointFromLe_eq x y, Outcome.ok_bind]
  dsimp only
  split <;> rfl

def verifyFwSignature (keyBlob sigBlob : Bytes) : Outcome String Bool :=
  if sigBlob.length < 4 then .ok false
  else do
    let len ← rd32 sigBlob 0
    let stop ← Checked.add 4 len.toNat
    match Bytes.range? sigBlob 4 stop with
    | some der => .ok (P.verify (encodedPoint fwPubkeyX fwPubkeyY) keyBlob der)
    | none => .ok false

theorem verifyFwSignature_eq (keyBlob sigBlob : Bytes) :
    verifyFwSignature P keyBlob sigBlob = .ok (Pairing.verifyFwSignature P keyBlob sigBlob) := by
  match sigBlob with
  | [] | [_] | [_, _] | [_, _, _] => rfl
  | l0 :: l1 :: l2 :: l3 :: rest =>
    have len : rd32 (l0 :: l1 :: l2 :: l3 :: rest) 0 = .ok (Bytes.fromLe32 l0 l1 l2 l3) :=
      rd32_eq (by decide)
    have small := (Bytes.fromLe32 l0 l1 l2 l3).toNat_lt
    rw [verifyFwSignature, if_neg (by simp), len, Outcome.ok_bind, Checked.add_eq (by omega),
      Outcome.ok_bind, Pairing.verifyFwSignature]
    cases Bytes.range? (l0 :: l1 :: l2 :: l3 :: rest) 4
      (4 + (Bytes.fromLe32 l0 l1 l2 l3).toNat) <;> rfl

/-- `unwrap_or(false)` is in the source, but nothing here is an error. -/
def buildMaterial (blocks : List FlashBlock) (keys : HostKeys) : Outcome String Material := do
  match ← inspectPairing C blocks keys with
  | .pairedToAnotherHost => .err "sensor is paired to a different host; cannot open a session"
  | .unpaired => .err "sensor is unpaired; cannot open a session"
  | .pairedToThisHost privateKeyD => do
    let cert ← Outcome.ofOption "pairing record has no certificate block"
      (blocks.find? (fun b => b.id = blockCert))
    let ecdh ← Outcome.ofOption "pairing record has no ECDH block"
      (blocks.find? (fun b => b.id = blockEcdh))
    let ecdhPublic ← ecdhPublicFromBlock P ecdh.body
    Outcome.bailIf (ecdh.body.length < 0x90)
      s!"ECDH block is truncated ({ecdh.body.length} bytes)"
    let (keyBlob, sigBlob) ← Checked.splitAt ecdh.body 0x90
    let valid ← verifyFwSignature P keyBlob sigBlob
    .ok ⟨privateKeyD, cert.body, ecdhPublic, valid⟩

theorem buildMaterial_eq (blocks : List FlashBlock) (keys : HostKeys) :
    buildMaterial C P blocks keys = ofExcept (Pairing.buildMaterial C P blocks keys) := by
  unfold buildMaterial Pairing.buildMaterial
  rw [inspectPairing_eq, ofExcept_bind]
  apply Checked.bind_congr
  intro state _
  cases state with
  | pairedToAnotherHost => rfl
  | unpaired => rfl
  | pairedToThisHost privateKeyD =>
    dsimp only
    cases blocks.find? (fun b => b.id = blockCert) with
    | none => rfl
    | some cert =>
      cases blocks.find? (fun b => b.id = blockEcdh) with
      | none => rfl
      | some ecdh =>
        dsimp only
        rw [Outcome.ofOption, Outcome.ok_bind, Outcome.ofOption, Outcome.ok_bind,
          ecdhPublicFromBlock_eq, ofExcept_bind]
        apply Checked.bind_congr
        intro point _
        rw [ofExcept_ite]
        apply Checked.guard_congr
        intro long
        rw [Checked.splitAt_eq (Nat.not_lt.mp long), Outcome.ok_bind, verifyFwSignature_eq]
        rfl

end Material

end ValidityFprintd.Literal
