import ValidityFprintd.Checked
import ValidityFprintd.TlsRecords
import ValidityFprintd.Pairing

/-! The parsers of a session's records and of the pairing record, as the source writes them:
each index, each slice and each sum a step that may panic. None does, so each is the parser
modelled without them. -/

namespace ValidityFprintd.Literal
open Effect Crypto

/-- `?` on a result without state. -/
def ofExcept {ε α : Type} : Except ε α → Outcome ε α
  | .ok a => .ok a
  | .error e => .err e

theorem ofExcept_returned {ε α : Type} (r : Except ε α) : Returned (ofExcept r).kind := by
  cases r with
  | ok a => exact .value
  | error e => exact .error

theorem ofExcept_bind {ε α β : Type} (r : Except ε α) (f : α → Except ε β) :
    ofExcept (r >>= f) = (ofExcept r >>= fun a => ofExcept (f a)) := by
  cases r <;> rfl

theorem ofExcept_ite {ε α : Type} {c : Prop} [Decidable c] {e : ε} {r : Except ε α} :
    ofExcept (if c then .error e else r) = (Outcome.bailIf c e >>= fun _ => ofExcept r) := by
  by_cases h : c
  · simp only [Outcome.bailIf, if_pos h, Outcome.err_bind]
    rfl
  · simp only [Outcome.bailIf, if_neg h, Outcome.ok_bind]

section Padding

/-- `m.checked_sub(n)`. -/
def checkedSub (m n : Nat) : Option Nat := if n ≤ m then some (m - n) else none

def unpadValidity (data : Bytes) : Outcome String Bytes := do
  let last ← Outcome.ofOption "cannot unpad empty buffer" data.getLast?
  let n ← Checked.add last.toNat 1
  let keep ← Outcome.ofOption s!"invalid validity padding byte {last}" (checkedSub data.length n)
  Checked.sliceTo data keep

def unpadPkcs7 (data : Bytes) : Outcome String Bytes := do
  let last ← Outcome.ofOption "cannot unpad empty buffer" data.getLast?
  Outcome.bailIf (last = 0 ∨ data.length < last.toNat) s!"invalid PKCS#7 padding byte {last}"
  let keep ← Checked.sub data.length last.toNat
  Checked.sliceTo data keep

theorem unpadValidity_eq (data : Bytes) :
    unpadValidity data = ofExcept (Crypto.unpadValidity data) := by
  unfold unpadValidity Crypto.unpadValidity
  cases data.getLast? with
  | none => rfl
  | some last =>
    have small := last.toNat_lt
    rw [Outcome.ofOption, Outcome.ok_bind, Checked.add_eq (by omega), Outcome.ok_bind, checkedSub]
    by_cases short : data.length < last.toNat + 1
    · rw [if_neg (by omega)]
      dsimp only
      rw [if_pos short]
      rfl
    · rw [if_pos (by omega)]
      dsimp only
      rw [if_neg short, Outcome.ofOption, Outcome.ok_bind, Checked.sliceTo_eq (Nat.sub_le _ _)]
      rfl

theorem unpadPkcs7_eq (data : Bytes) :
    unpadPkcs7 data = ofExcept (ValidityFprintd.unpadPkcs7 data) := by
  unfold unpadPkcs7 ValidityFprintd.unpadPkcs7
  cases data.getLast? with
  | none => rfl
  | some last =>
    dsimp only
    rw [Outcome.ofOption, Outcome.ok_bind, ofExcept_ite]
    apply Checked.guard_congr
    intro fits
    rw [Checked.sub_eq (by omega), Outcome.ok_bind, Checked.sliceTo_eq (Nat.sub_le _ _)]
    rfl

end Padding

section Records

variable {E : Type} (C : Primitives)

def validate (s : Tls) (t : UInt8) (b : Bytes) : Outcome String Bytes := do
  Outcome.bailIf (b.length < 0x20) s!"record too short to carry a MAC ({b.length} bytes)"
  let n ← Checked.sub b.length 0x20
  let (body, mac) ← Checked.splitAt b n
  Outcome.bailIf ((C.hmac s.validationKey (Tls.macHeader t body)).toList ≠ mac)
    "record MAC validation failed"
  .ok body

def decrypt (s : Tls) (c : Bytes) : Outcome String Bytes := do
  Outcome.bailIf (c.length < 0x10) s!"encrypted record too short ({c.length} bytes)"
  let (iv, ct) ← Checked.splitAt c 0x10
  let plain ← ofExcept (aesCbcDecryptRaw C s.decryptionKey iv ct)
  unpadValidity plain

theorem validate_eq (s : Tls) (t : UInt8) (b : Bytes) :
    validate C s t b = ofExcept (Tls.validate C s t b) := by
  unfold validate Tls.validate
  rw [ofExcept_ite]
  apply Checked.guard_congr
  intro long
  rw [Checked.sub_eq (by omega), Outcome.ok_bind, Checked.splitAt_eq (Nat.sub_le _ _),
    Outcome.ok_bind, ofExcept_ite]
  rfl

theorem decrypt_eq (s : Tls) (c : Bytes) : decrypt C s c = ofExcept (Tls.decrypt C s c) := by
  unfold decrypt Tls.decrypt
  rw [ofExcept_ite]
  apply Checked.guard_congr
  intro long
  rw [Checked.splitAt_eq (by omega), Outcome.ok_bind, ofExcept_bind]
  simp only [unpadValidity_eq]

def handleServerHello (p : Bytes) : Act String E Tls Unit := do
  Act.bailIf (p.length < 2 + 0x20 + 1) s!"ServerHello too short ({p.length} bytes)"
  let major ← Act.ofOutcome (Checked.get p 0)
  let minor ← Act.ofOutcome (Checked.get p 1)
  Act.bailIf (major ≠ 3 ∨ minor ≠ 3) s!"unexpected TLS version in ServerHello {major}.{minor}"
  let bytes ← Act.ofOutcome (Checked.slice p 2 (2 + 0x20))
  let random ← Act.ofOutcome (Checked.copyInto 32 bytes)
  Act.modify fun s => { s with serverRandom := random }
  let sidLen ← Act.ofOutcome (Checked.get p 0x22)
  let afterSid ← Act.ofOutcome (Checked.add 0x23 sidLen.toNat)
  let needed ← Act.ofOutcome (Checked.add afterSid 3)
  Act.bailIf (p.length < needed) "ServerHello truncated after session ID"
  let hi ← Act.ofOutcome (Checked.get p afterSid)
  let second ← Act.ofOutcome (Checked.add afterSid 1)
  let lo ← Act.ofOutcome (Checked.get p second)
  let suite := Bytes.fromBe16 hi lo
  Act.bailIf (suite ≠ Tls.suiteEcdhEcdsaAes256CbcSha)
    s!"sensor selected unsupported cipher suite {Bytes.hexNumber 4 suite.toNat}"
  let third ← Act.ofOutcome (Checked.add afterSid 2)
  let compression ← Act.ofOutcome (Checked.get p third)
  Act.bailIf (compression ≠ 0) "sensor selected compression, which is not supported"

def handleMessage (t : UInt8) (p : Bytes) : Act String E Tls Unit :=
  if t = 0x02 then handleServerHello p
  else if t = 0x0d then Act.ret ()
  else if t = 0x0e then Act.ret ()
  else if t = 0x14 then Tls.handleServerFinish C p
  else Act.fail s!"unknown handshake message type {Bytes.hexNumber 2 t.toNat}"

/-- Each message takes at least four bytes off the padded record. -/
def handleMessages : Nat → Bytes → Act String E Tls Unit
  | _, [] => Act.ret ()
  | 0, _ :: _ => Act.starve
  | fuel + 1, b :: bs => do
    let (hdr, hs) ← Act.ofOutcome (Checked.splitAt (Bytes.padTo 4 (b :: bs)) 4)
    let t ← Act.ofOutcome (Checked.get hdr 0)
    let l0 ← Act.ofOutcome (Checked.get hdr 1)
    let l1 ← Act.ofOutcome (Checked.get hdr 2)
    let l2 ← Act.ofOutcome (Checked.get hdr 3)
    let l := (Bytes.fromBe16 l0 l1).toNat * 256 + l2.toNat
    Act.bailIf (hs.length < l)
      s!"handshake message claims {l} bytes but only {hs.length} remain"
    let (p, hs) ← Act.ofOutcome (Checked.splitAt hs l)
    handleMessage C t p
    Tls.updateNeg (hdr ++ p)
    handleMessages fuel hs

def handleHandshake (handshake : Bytes) : Act String E Tls Unit := do
  let s ← Act.get
  let hs ←
    if s.secureRx then do
      let plain ← Act.ofOutcome (decrypt C s handshake)
      Act.ofOutcome (validate C s 0x16 plain)
    else Act.ret handshake
  handleMessages C hs.length hs

def handleRecord (t : UInt8) (pkt : Bytes) : Act String E Tls Bytes :=
  if t = 0x16 then do
    handleHandshake C pkt
    Act.ret []
  else if t = 0x14 then do
    Act.bailIf (pkt ≠ [0x01]) s!"unexpected ChangeCipherSpec payload {Bytes.hex pkt}"
    Act.modify fun s => { s with secureRx := true }
    Act.ret []
  else if t = 0x17 then do
    let s ← Act.get
    Act.bailIf (s.secureRx = false) "application data arrived before the channel was secure"
    let plain ← Act.ofOutcome (decrypt C s pkt)
    Act.ofOutcome (validate C s 0x17 plain)
  else Act.fail s!"unhandled record type {Bytes.hexNumber 2 t.toNat}"

/-- Each record takes at least five bytes off the padded reply. -/
def handleRecords : Nat → Bytes → Bytes → Act String E Tls Bytes
  | _, [], appData => Act.ret appData
  | 0, _ :: _, _ => Act.starve
  | fuel + 1, b :: bs, appData => do
    let padded := Bytes.padTo 5 (b :: bs)
    let t ← Act.ofOutcome (Checked.get padded 0)
    let mj ← Act.ofOutcome (Checked.get padded 1)
    let mn ← Act.ofOutcome (Checked.get padded 2)
    let s0 ← Act.ofOutcome (Checked.get padded 3)
    let s1 ← Act.ofOutcome (Checked.get padded 4)
    let sz := (Bytes.fromBe16 s0 s1).toNat
    let (_, rest) ← Act.ofOutcome (Checked.splitAt padded 5)
    Act.bailIf (mj ≠ 3 ∨ mn ≠ 3) s!"unexpected TLS version {mj}.{mn}"
    Act.bailIf (rest.length < sz)
      s!"record claims {sz} bytes but only {rest.length} remain"
    let (pkt, rest) ← Act.ofOutcome (Checked.splitAt rest sz)
    let data ← handleRecord C t pkt
    handleRecords fuel rest (appData ++ data)

def parseTlsResponse (rsp : Bytes) : Act String E Tls Bytes := handleRecords C rsp.length rsp []

end Records

section Agreement

variable {E : Type} (C : Primitives)

theorem ofOutcome_get {ε E S : Type} (b : Bytes) (i : Nat) :
    (Act.ofOutcome (Checked.get b i) : Act ε E S UInt8) = Bytes.index b i := by
  unfold Checked.get Bytes.index
  cases b[i]? <;> rfl

theorem ofOutcome_slice {ε E S : Type} (b : Bytes) (i j : Nat) :
    (Act.ofOutcome (Checked.slice b i j) : Act ε E S Bytes) = Bytes.slice b i j := by
  unfold Checked.slice Bytes.slice
  split <;> rfl

theorem ofOutcome_copyInto (b : Bytes) :
    (Act.ofOutcome (Checked.copyInto 32 b) : Act String E Tls Bytes32) = Tls.copy32 b := by
  unfold Checked.copyInto Tls.copy32
  split <;> rfl

theorem ofOutcome_ofExcept {ε E S α : Type} (r : Except ε α) :
    (Act.ofOutcome (ofExcept r) : Act ε E S α) = Act.lift r := by
  cases r <;> rfl

theorem handleServerHello_eq (p : Bytes) :
    (handleServerHello p : Act String E Tls Unit) = Tls.handleServerHello p := by
  have session : ∀ n : UInt8,
      (Checked.add 0x23 n.toNat : Outcome String Nat) = .ok (0x23 + n.toNat) := by
    intro n
    have small := n.toNat_lt
    exact Checked.add_eq (by omega)
  have behind : ∀ (n : UInt8) (k : Nat), k ≤ 3 →
      (Checked.add (0x23 + n.toNat) k : Outcome String Nat) = .ok (0x23 + n.toNat + k) := by
    intro n k few
    have small := n.toNat_lt
    exact Checked.add_eq (by omega)
  simp only [handleServerHello, Tls.handleServerHello, ofOutcome_get, ofOutcome_slice,
    ofOutcome_copyInto, session, Act.ofOutcome_ok_bind, behind _ 1 (by decide),
    behind _ 2 (by decide), behind _ 3 (by decide)]

theorem handleMessage_eq (t : UInt8) (p : Bytes) :
    (handleMessage C t p : Act String E Tls Unit) = Tls.handleMessage C t p := by
  rw [handleMessage, Tls.handleMessage, handleServerHello_eq]

theorem handleMessages_eq (fuel : Nat) (hs : Bytes) :
    (handleMessages C fuel hs : Act String E Tls Unit) = Tls.handleMessages C fuel hs := by
  induction fuel generalizing hs with
  | zero => cases hs <;> rfl
  | succ fuel ih =>
    match hs with
    | [] => rfl
    | b :: bs =>
      funext s
      obtain ⟨t, l0, l1, l2, rest, shape⟩ := Tls.padTo_shape4 (b :: bs)
      have header : (Checked.splitAt (t :: l0 :: l1 :: l2 :: rest) 4 : Outcome String _) =
          .ok ([t, l0, l1, l2], rest) := Checked.splitAt_eq (Nat.le_add_left 4 _)
      have kind : (Checked.get [t, l0, l1, l2] 0 : Outcome String UInt8) = .ok t := rfl
      have high : (Checked.get [t, l0, l1, l2] 1 : Outcome String UInt8) = .ok l0 := rfl
      have middle : (Checked.get [t, l0, l1, l2] 2 : Outcome String UInt8) = .ok l1 := rfl
      have low : (Checked.get [t, l0, l1, l2] 3 : Outcome String UInt8) = .ok l2 := rfl
      rw [Tls.handleMessages_step (List.cons_ne_nil b bs) shape, handleMessages, shape, header]
      simp only [Act.ofOutcome_ok_bind, kind, high, middle, low, Act.bailIf_bind]
      split
      · rfl
      · rename_i enough
        rw [Checked.splitAt_eq (Nat.not_lt.mp enough), Act.ofOutcome_ok_bind, handleMessage_eq]
        simp only [ih]

theorem handleHandshake_eq (pkt : Bytes) :
    (handleHandshake C pkt : Act String E Tls Unit) = Tls.handleHandshake C pkt := by
  simp only [handleHandshake, Tls.handleHandshake, decrypt_eq, validate_eq, ofOutcome_ofExcept,
    handleMessages_eq]

theorem handleRecord_eq (t : UInt8) (pkt : Bytes) :
    (handleRecord C t pkt : Act String E Tls Bytes) = Tls.handleRecord C t pkt := by
  simp only [handleRecord, Tls.handleRecord, handleHandshake_eq, decrypt_eq, validate_eq,
    ofOutcome_ofExcept]

theorem handleRecords_eq (fuel : Nat) (raw data : Bytes) :
    (handleRecords C fuel raw data : Act String E Tls Bytes) =
      Tls.handleRecords C fuel raw data := by
  induction fuel generalizing raw data with
  | zero => cases raw <;> rfl
  | succ fuel ih =>
    match raw with
    | [] => rfl
    | b :: bs =>
      funext s
      obtain ⟨t, mj, mn, s0, s1, rest, shape⟩ := Tls.padTo_shape5 (b :: bs)
      have header : (Checked.splitAt (t :: mj :: mn :: s0 :: s1 :: rest) 5 : Outcome String _) =
          .ok ([t, mj, mn, s0, s1], rest) := Checked.splitAt_eq (Nat.le_add_left 5 _)
      have kind : (Checked.get (t :: mj :: mn :: s0 :: s1 :: rest) 0 : Outcome String UInt8) =
          .ok t := rfl
      have major : (Checked.get (t :: mj :: mn :: s0 :: s1 :: rest) 1 : Outcome String UInt8) =
          .ok mj := rfl
      have minor : (Checked.get (t :: mj :: mn :: s0 :: s1 :: rest) 2 : Outcome String UInt8) =
          .ok mn := rfl
      have high : (Checked.get (t :: mj :: mn :: s0 :: s1 :: rest) 3 : Outcome String UInt8) =
          .ok s0 := rfl
      have low : (Checked.get (t :: mj :: mn :: s0 :: s1 :: rest) 4 : Outcome String UInt8) =
          .ok s1 := rfl
      rw [Tls.handleRecords_step (List.cons_ne_nil b bs) shape, handleRecords, shape, header]
      simp only [Act.ofOutcome_ok_bind, kind, major, minor, high, low, Act.bailIf_bind]
      split
      · rfl
      · split
        · rfl
        · rename_i enough
          rw [Checked.splitAt_eq (Nat.not_lt.mp enough), Act.ofOutcome_ok_bind, handleRecord_eq]
          simp only [ih]

theorem parseTlsResponse_eq (rsp : Bytes) :
    (parseTlsResponse C rsp : Act String E Tls Bytes) = Tls.parseTlsResponse C rsp :=
  handleRecords_eq C rsp.length rsp []

end Agreement

end ValidityFprintd.Literal
