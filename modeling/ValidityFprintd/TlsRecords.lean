import ValidityFprintd.Tls
import Mathlib.Data.List.TakeDrop

/-! The record layer as a grammar: which replies a session accepts, what it hears in them
and the session it becomes. `parseTlsResponse` accepts exactly these. -/

namespace ValidityFprintd.Tls
open Effect Crypto

variable {E : Type} {C : Primitives}

/-- Version 3.3, the one suite the firmware takes, no compression. -/
def IsServerHello (p : Bytes) (random : Bytes32) : Prop :=
  ∃ sid rest : Bytes, sid.length < 256 ∧
    p = [3, 3] ++ random.toList ++ [UInt8.ofNat sid.length] ++ sid ++ [0xc0, 0x05, 0] ++ rest

def finishedBody (C : Primitives) (s : Tls) : Bytes :=
  prf C s.masterSecret (serverFinished ++ (transcript C s).toList) 0x0c

def fold (s : Tls) (b : Bytes) : Tls := { s with handshakeHash := s.handshakeHash ++ b }

inductive Message (C : Primitives) : Tls → UInt8 → Bytes → Tls → Prop
  | serverHello {s : Tls} {p : Bytes} {random : Bytes32} :
      IsServerHello p random → Message C s 0x02 p { s with serverRandom := random }
  | certificateRequest {s : Tls} {p : Bytes} : Message C s 0x0d p s
  | serverHelloDone {s : Tls} {p : Bytes} : Message C s 0x0e p s
  | finished {s : Tls} : Message C s 0x14 (finishedBody C s) s

/-- What a session hears. `cover` is the encrypted record a message came in, if it was
not in the clear, and `before` the session that took the message. -/
inductive Event where
  | changeCipherSpec
  | message (cover : Option Bytes) (before : Tls) (t : UInt8) (p : Bytes)
  | appData (b : Bytes)

inductive Messages (C : Primitives) (cover : Option Bytes) : Tls → Bytes → List Event → Tls → Prop
  | nil (s : Tls) : Messages C cover s [] [] s
  | cons {s s1 s2 : Tls} {hs rest p : Bytes} {t l0 l1 l2 : UInt8} {evs : List Event} :
      hs ≠ [] → Bytes.padTo 4 hs = t :: l0 :: l1 :: l2 :: (p ++ rest) →
      p.length = (Bytes.fromBe16 l0 l1).toNat * 256 + l2.toNat → Message C s t p s1 →
      Messages C cover (fold s1 ([t, l0, l1, l2] ++ p)) rest evs s2 →
      Messages C cover s hs (.message cover s t p :: evs) s2

/-- The handshake messages a record's payload stands for. -/
def Opened (C : Primitives) (s : Tls) (pkt : Bytes) : Option Bytes → Bytes → Prop
  | none, hs => s.secureRx = false ∧ hs = pkt
  | some c, hs => s.secureRx = true ∧ c = pkt ∧
      ∃ plain, decrypt C s pkt = .ok plain ∧ validate C s 0x16 plain = .ok hs

def Frame (raw : Bytes) (t : UInt8) (pkt rest : Bytes) : Prop :=
  raw ≠ [] ∧ ∃ s0 s1, Bytes.padTo 5 raw = t :: 3 :: 3 :: s0 :: s1 :: (pkt ++ rest) ∧
    pkt.length = (Bytes.fromBe16 s0 s1).toNat

/-- What one record adds to a session. -/
inductive Record (C : Primitives) : Tls → UInt8 → Bytes → List Event → Tls → Prop
  | changeCipherSpec (s : Tls) : Record C s 0x14 [1] [.changeCipherSpec] { s with secureRx := true }
  | handshake {s s' : Tls} {pkt hs : Bytes} {cover : Option Bytes} {evs : List Event} :
      Opened C s pkt cover hs → Messages C cover s hs evs s' → Record C s 0x16 pkt evs s'
  | appData {s : Tls} {pkt plain b : Bytes} :
      s.secureRx = true → decrypt C s pkt = .ok plain → validate C s 0x17 plain = .ok b →
      Record C s 0x17 pkt [.appData b] s
inductive Records (C : Primitives) : Tls → Bytes → List Event → Tls → Prop
  | nil (s : Tls) : Records C s [] [] s
  | cons {s s1 s2 : Tls} {raw pkt rest : Bytes} {t : UInt8} {evs evs' : List Event} :
      Frame raw t pkt rest → Record C s t pkt evs s1 → Records C s1 rest evs' s2 →
      Records C s raw (evs ++ evs') s2

def Event.data : Event → Bytes
  | .appData b => b
  | _ => []

def appDataOf (evs : List Event) : Bytes := evs.flatMap Event.data

theorem appDataOf_messages {cover : Option Bytes} {s s' : Tls} {hs : Bytes} {evs : List Event}
    (h : Messages C cover s hs evs s') : appDataOf evs = [] := by
  induction h with
  | nil s => rfl
  | cons _ _ _ _ _ ih => simpa [appDataOf, Event.data] using ih

@[simp] theorem copy32_bind {α : Type} (r : Bytes32) (f : Bytes32 → Act String E Tls α) (s : Tls) :
    (copy32 r.toList >>= f) s = f r s := by
  have eta : (⟨r.toList.toArray, by simp⟩ : Bytes32) = r := Vector.toList_inj.mp (by simp)
  have len : r.toList.length = 32 := by simp
  simp only [copy32, len, dif_pos, Act.ret_bind, eta]

theorem exists_append (b : Bytes) (n : Nat) (h : n ≤ b.length) :
    ∃ front back, front.length = n ∧ b = front ++ back :=
  ⟨b.take n, b.drop n, by simp [h], (List.take_append_drop n b).symm⟩

theorem hello_shape {p : Bytes} (h : 35 ≤ p.length) :
    ∃ (a b n : UInt8) (r : Bytes32) (tail : Bytes), p = a :: b :: (r.toList ++ n :: tail) := by
  obtain ⟨front, back, hf, rfl⟩ := exists_append p 34 (by omega)
  match front, back, hf, h with
  | a :: b :: r, n :: tail, hf, _ =>
    have hr : r.length = 32 := by simpa using hf
    exact ⟨a, b, n, ⟨r.toArray, by simp [hr]⟩, tail, by simp⟩
  | _ :: _ :: _, [], hf, h => simp_all

theorem suite_shape {tail : Bytes} {n : Nat} (h : n + 3 ≤ tail.length) :
    ∃ (sid : Bytes) (x y z : UInt8) (rest : Bytes),
      sid.length = n ∧ tail = sid ++ x :: y :: z :: rest := by
  obtain ⟨sid, back, hs, rfl⟩ := exists_append tail n (by omega)
  match back, h with
  | x :: y :: z :: rest, _ => exact ⟨sid, x, y, z, rest, hs, rfl⟩
  | [], h => exact absurd h (by simp [hs])
  | [_], h => exact absurd h (by simp [hs])
  | [_, _], h => exact absurd h (by simp [hs])

theorem suite_eq {x y : UInt8} :
    Bytes.fromBe16 x y = suiteEcdhEcdsaAes256CbcSha ↔ x = 0xc0 ∧ y = 0x05 := by
  have hx := x.toNat_lt
  have hy := y.toNat_lt
  rw [← UInt16.toNat_inj, ← UInt8.toNat_inj, ← UInt8.toNat_inj, Bytes.fromBe16,
    Bytes.fromLe16_toNat]
  simp only [suiteEcdhEcdsaAes256CbcSha, UInt16.reduceToNat, UInt8.reduceToNat]
  omega

theorem hello_run {a b n : UInt8} {r : Bytes32} {tail : Bytes} {s : Tls} :
    (handleServerHello (a :: b :: (r.toList ++ n :: tail)) : Act String E Tls Unit) s =
      (do
        Act.bailIf (a ≠ 3 ∨ b ≠ 3) s!"unexpected TLS version in ServerHello {a}.{b}"
        Act.modify fun s => { s with serverRandom := r }
        Act.bailIf (tail.length < n.toNat + 3) "ServerHello truncated after session ID"
        let hi ← Bytes.index tail n.toNat
        let lo ← Bytes.index tail (n.toNat + 1)
        let suite := Bytes.fromBe16 hi lo
        Act.bailIf (suite ≠ suiteEcdhEcdsaAes256CbcSha)
          s!"sensor selected unsupported cipher suite {Bytes.hexNumber 4 suite.toNat}"
        let compression ← Bytes.index tail (n.toNat + 2)
        Act.bailIf (compression ≠ 0) "sensor selected compression, which is not supported" :
          Act String E Tls Unit) s := by
  have tailAt : ∀ k, (a :: b :: (r.toList ++ n :: tail))[35 + k]? = tail[k]? := by
    intro k
    rw [show 35 + k = (33 + k) + 2 by omega, List.getElem?_cons_succ, List.getElem?_cons_succ,
      List.getElem?_append_right (by simp; omega),
      show 33 + k - r.toList.length = k + 1 by simp; omega, List.getElem?_cons_succ]
  have sidAt : (a :: b :: (r.toList ++ n :: tail))[34]? = some n := by simp
  have random : ((a :: b :: (r.toList ++ n :: tail)).take (2 + 32)).drop 2 = r.toList := by
    simp
  have long : ¬ (a :: b :: (r.toList ++ n :: tail)).length < 2 + 32 + 1 := by simp; omega
  have room : (a :: b :: (r.toList ++ n :: tail)).length < 35 + (n.toNat + 3) ↔
      tail.length < n.toNat + 3 := by simp; omega
  have slicable : 2 ≤ 2 + 32 ∧ 2 + 32 ≤ (a :: b :: (r.toList ++ n :: tail)).length := by
    simp
  simp only [handleServerHello, Act.bailIf_bind, Bytes.index_bind, Bytes.slice_bind,
    Act.modify_bind, long, slicable, random, copy32_bind, sidAt, tailAt, room, Nat.add_assoc,
    if_false, if_true, and_self, List.getElem?_cons_zero, List.getElem?_cons_succ]

theorem hello_run_ok {a b x y z : UInt8} {r : Bytes32} {sid rest : Bytes}
    (hs : sid.length < 256) {s s' : Tls} {l : List E} :
    handleServerHello
      (a :: b :: (r.toList ++ UInt8.ofNat sid.length :: (sid ++ x :: y :: z :: rest))) s =
        ⟨.ok (), s', l⟩ ↔
      (a = 3 ∧ b = 3 ∧ x = 0xc0 ∧ y = 0x05 ∧ z = 0) ∧ s' = { s with serverRandom := r } ∧
        l = [] := by
  have count : (UInt8.ofNat sid.length).toNat = sid.length := by
    simp only [UInt8.toNat_ofNat']
    omega
  have room : ¬ (sid ++ x :: y :: z :: rest).length < sid.length + 3 := by simp
  have at0 : (sid ++ x :: y :: z :: rest)[sid.length]? = some x := by simp
  have at1 : (sid ++ x :: y :: z :: rest)[sid.length + 1]? = some y := by simp
  have at2 : (sid ++ x :: y :: z :: rest)[sid.length + 2]? = some z := by simp
  rw [hello_run]
  simp only [Act.bailIf_bind, Bytes.index_bind, Act.modify_bind, count, room, at0, at1, at2,
    Act.bailIf_run, if_false]
  by_cases hv : a ≠ 3 ∨ b ≠ 3
  · have no : ¬ (a = 3 ∧ b = 3) := by tauto
    simp only [if_pos hv, Result.mk.injEq, reduceCtorEq, false_and, false_iff]
    tauto
  by_cases hx : Bytes.fromBe16 x y ≠ suiteEcdhEcdsaAes256CbcSha
  · rw [ne_eq, suite_eq] at hx
    simp only [if_neg hv, suite_eq, ne_eq, if_pos hx, Result.mk.injEq, reduceCtorEq, false_and,
      false_iff]
    tauto
  by_cases hz : z ≠ 0
  · simp only [if_neg hv, if_neg hx, if_pos hz, Result.mk.injEq, reduceCtorEq, false_and,
      false_iff]
    tauto
  · have suite : x = 0xc0 ∧ y = 0x05 := suite_eq.mp (not_not.mp hx)
    have all : a = 3 ∧ b = 3 ∧ x = 0xc0 ∧ y = 0x05 ∧ z = 0 := by tauto
    simp only [if_neg hv, if_neg hx, if_neg hz]
    simp only [Result.mk.injEq, all, true_and]
    simp [eq_comm]

theorem handleServerHello_ok {p : Bytes} {s s' : Tls} {l : List E} :
    handleServerHello p s = ⟨.ok (), s', l⟩ ↔
      l = [] ∧ ∃ random, IsServerHello p random ∧ s' = { s with serverRandom := random } := by
  constructor
  · intro h
    have long : 35 ≤ p.length := by
      by_contra short
      have hlt : p.length < 2 + 0x20 + 1 := by omega
      simp only [handleServerHello, Act.bailIf_bind, if_pos hlt] at h
      cases h
    obtain ⟨a, b, n, r, tail, rfl⟩ := hello_shape long
    have room : n.toNat + 3 ≤ tail.length := by
      by_contra short
      have hlt : tail.length < n.toNat + 3 := by omega
      rw [hello_run] at h
      simp only [Act.bailIf_bind, Act.modify_bind, if_pos hlt] at h
      split at h <;> cases h
    obtain ⟨sid, x, y, z, rest, hs, rfl⟩ := suite_shape room
    have hn := n.toNat_lt
    have name : n = UInt8.ofNat sid.length := by rw [hs, UInt8.ofNat_toNat]
    rw [name, hello_run_ok (by omega)] at h
    obtain ⟨⟨rfl, rfl, rfl, rfl, rfl⟩, hs', hl⟩ := h
    exact ⟨hl, r, ⟨sid, rest, by omega, by rw [name]; simp⟩, hs'⟩
  · rintro ⟨rfl, random, ⟨sid, rest, hlen, rfl⟩, rfl⟩
    have run : handleServerHello (3 :: 3 :: (random.toList ++ UInt8.ofNat sid.length ::
        (sid ++ 0xc0 :: 0x05 :: 0 :: rest))) s =
          (⟨.ok (), { s with serverRandom := random }, []⟩ : Result String E Tls Unit) :=
      (hello_run_ok hlen).mpr ⟨by simp, rfl, rfl⟩
    simpa using run

theorem handleServerFinish_ok {p : Bytes} {s s' : Tls} {l : List E} :
    handleServerFinish C p s = ⟨.ok (), s', l⟩ ↔ l = [] ∧ p = finishedBody C s ∧ s' = s := by
  simp only [handleServerFinish, Act.get_bind, Act.bailIf_eq_ok, not_not, finishedBody]
  constructor
  · rintro ⟨rfl, rfl, rfl⟩
    exact ⟨rfl, rfl, rfl⟩
  · rintro ⟨rfl, rfl, rfl⟩
    exact ⟨rfl, rfl, rfl⟩

theorem handleMessage_ok {t : UInt8} {p : Bytes} {s s' : Tls} {l : List E} :
    handleMessage C t p s = ⟨.ok (), s', l⟩ ↔ l = [] ∧ Message C s t p s' := by
  unfold handleMessage
  constructor
  · intro h
    split_ifs at h with hello request done finished
    · obtain ⟨rfl, random, hp, rfl⟩ := handleServerHello_ok.mp h
      exact ⟨rfl, hello ▸ .serverHello hp⟩
    · obtain ⟨_, rfl, rfl⟩ := Act.ret_eq_ok.mp h
      exact ⟨rfl, request ▸ .certificateRequest⟩
    · obtain ⟨_, rfl, rfl⟩ := Act.ret_eq_ok.mp h
      exact ⟨rfl, done ▸ .serverHelloDone⟩
    · obtain ⟨rfl, rfl, rfl⟩ := handleServerFinish_ok.mp h
      exact ⟨rfl, finished ▸ .finished⟩
    · cases h
  · rintro ⟨rfl, h⟩
    cases h with
    | serverHello hp =>
      rw [if_pos rfl]
      exact handleServerHello_ok.mpr ⟨rfl, _, hp, rfl⟩
    | certificateRequest => rfl
    | serverHelloDone => rfl
    | finished =>
      rw [if_neg (by decide), if_neg (by decide), if_neg (by decide), if_pos rfl]
      exact handleServerFinish_ok.mpr ⟨rfl, rfl, rfl⟩

theorem padTo_shape4 (hs : Bytes) :
    ∃ t l0 l1 l2 rest, Bytes.padTo 4 hs = t :: l0 :: l1 :: l2 :: rest := by
  have len := Bytes.padTo_length 4 hs
  match h : Bytes.padTo 4 hs with
  | t :: l0 :: l1 :: l2 :: rest => exact ⟨t, l0, l1, l2, rest, rfl⟩
  | [] | [_] | [_, _] | [_, _, _] => simp [h] at len; omega

theorem padTo_shape5 (raw : Bytes) :
    ∃ t mj mn s0 s1 rest, Bytes.padTo 5 raw = t :: mj :: mn :: s0 :: s1 :: rest := by
  have len := Bytes.padTo_length 5 raw
  match h : Bytes.padTo 5 raw with
  | t :: mj :: mn :: s0 :: s1 :: rest => exact ⟨t, mj, mn, s0, s1, rest, rfl⟩
  | [] | [_] | [_, _] | [_, _, _] | [_, _, _, _] => simp [h] at len; omega

theorem padTo_rest_length {n : Nat} {b rest : Bytes} (head : Bytes) (hb : b ≠ [])
    (h : Bytes.padTo n b = head ++ rest) (hh : head.length = n) (hn : 0 < n) :
    rest.length < b.length := by
  have len := Bytes.padTo_length n b
  have pos := List.length_pos_iff.mpr hb
  rw [h, List.length_append] at len
  omega

theorem handleMessages_step {fuel : Nat} {hs rest : Bytes} {t l0 l1 l2 : UInt8} {s : Tls}
    (hne : hs ≠ []) (shape : Bytes.padTo 4 hs = t :: l0 :: l1 :: l2 :: rest) :
    (handleMessages C (fuel + 1) hs : Act String E Tls Unit) s =
      let l := (Bytes.fromBe16 l0 l1).toNat * 256 + l2.toNat
      if rest.length < l then
        ⟨.err s!"handshake message claims {l} bytes but only {rest.length} remain", s, []⟩
      else (do
        handleMessage C t (rest.take l)
        updateNeg ([t, l0, l1, l2] ++ rest.take l)
        handleMessages C fuel (rest.drop l) : Act String E Tls Unit) s := by
  match hs, hne with
  | b :: bs, _ =>
    simp only [handleMessages, shape]
    simp only [Act.bailIf_bind, Bytes.slice_bind, Bytes.sliceFrom_bind]
    split
    · rfl
    · rename_i enough
      rw [if_pos ⟨Nat.zero_le _, by omega⟩, if_pos (by omega), List.drop_zero]

theorem handleMessages_nil (cover : Option Bytes) {fuel : Nat} {s s' : Tls} {l : List E} :
    handleMessages C fuel [] s = ⟨.ok (), s', l⟩ ↔
      l = [] ∧ ∃ evs, Messages C cover s [] evs s' := by
  rw [show handleMessages C fuel [] = (Act.ret () : Act String E Tls Unit) by cases fuel <;> rfl,
    Act.ret_eq_ok]
  constructor
  · rintro ⟨_, rfl, rfl⟩
    exact ⟨rfl, [], .nil s⟩
  · rintro ⟨rfl, evs, h⟩
    cases h with
    | nil s => exact ⟨rfl, rfl, rfl⟩
    | cons hne => exact absurd rfl hne

theorem handleMessages_ok (cover : Option Bytes) {fuel : Nat} {hs : Bytes}
    (hf : hs.length ≤ fuel) {s s' : Tls} {l : List E} :
    handleMessages C fuel hs s = ⟨.ok (), s', l⟩ ↔
      l = [] ∧ ∃ evs, Messages C cover s hs evs s' := by
  induction fuel generalizing hs s l with
  | zero =>
    obtain rfl : hs = [] := List.length_eq_zero_iff.mp (by omega)
    exact handleMessages_nil cover
  | succ fuel ih =>
    by_cases hne : hs = []
    · subst hne
      exact handleMessages_nil cover
    obtain ⟨t, l0, l1, l2, rest, shape⟩ := padTo_shape4 hs
    have shorter : rest.length < hs.length :=
      padTo_rest_length [t, l0, l1, l2] hne shape rfl (by omega)
    rw [handleMessages_step hne shape]
    constructor
    · intro h
      dsimp only at h
      split at h
      · cases h
      · rename_i enough
        obtain ⟨_, s1, k, m, heard, folded, rfl⟩ := Act.bind_eq_ok.mp h
        obtain ⟨rfl, message⟩ := handleMessage_ok.mp heard
        obtain ⟨_, s2, k, m', update, others, rfl⟩ := Act.bind_eq_ok.mp folded
        obtain ⟨rfl, rfl⟩ := Act.modify_eq_ok.mp update
        obtain ⟨rfl, evs, messages⟩ := (ih (by simp; omega)).mp others
        refine ⟨rfl, _, .cons hne ?_ ?_ message messages⟩
        · rw [shape, List.take_append_drop]
        · simp only [List.length_take]
          omega
    · rintro ⟨rfl, evs, h⟩
      cases h with
      | nil s => exact absurd rfl hne
      | cons _ shape' len hm h =>
        rw [shape] at shape'
        cases shape'
        simp only [← len, List.length_append]
        rw [if_neg (by omega), List.take_left, List.drop_left]
        refine Act.bind_eq_ok.mpr ⟨(), _, [], [], handleMessage_ok.mpr ⟨rfl, hm⟩, ?_, rfl⟩
        refine Act.bind_eq_ok.mpr ⟨(), _, [], [], rfl, ?_, rfl⟩
        simp only [List.length_append] at shorter
        exact (ih (by omega)).mpr ⟨rfl, _, h⟩

theorem handleHandshake_ok {pkt : Bytes} {s s' : Tls} {l : List E} :
    handleHandshake C pkt s = ⟨.ok (), s', l⟩ ↔
      l = [] ∧ ∃ cover hs evs, Opened C s pkt cover hs ∧ Messages C cover s hs evs s' := by
  simp only [handleHandshake, Act.get_bind]
  cases hrx : s.secureRx with
  | false =>
    simp only [Bool.false_eq_true, if_false, Act.ret_bind]
    rw [handleMessages_ok none (Nat.le_refl _)]
    constructor
    · rintro ⟨rfl, evs, h⟩
      exact ⟨rfl, none, pkt, evs, ⟨hrx, rfl⟩, h⟩
    · rintro ⟨rfl, cover, hs, evs, opened, h⟩
      cases cover with
      | none =>
        obtain ⟨_, rfl⟩ := opened
        exact ⟨rfl, evs, h⟩
      | some c => exact absurd opened.1 (by simp [hrx])
  | true =>
    simp only [if_true]
    constructor
    · intro h
      obtain ⟨plain, s1, k, m, run, h1, rfl⟩ := Act.bind_eq_ok.mp h
      obtain ⟨hdec, rfl, rfl⟩ := Act.lift_eq_ok.mp run
      obtain ⟨hs, s2, k, m', run', h2, rfl⟩ := Act.bind_eq_ok.mp h1
      obtain ⟨hval, rfl, rfl⟩ := Act.lift_eq_ok.mp run'
      obtain ⟨rfl, evs, h⟩ := (handleMessages_ok (some pkt) (Nat.le_refl _)).mp h2
      exact ⟨rfl, some pkt, hs, evs, ⟨hrx, rfl, plain, hdec, hval⟩, h⟩
    · rintro ⟨rfl, cover, hs, evs, opened, h⟩
      cases cover with
      | none => exact absurd opened.1 (by simp [hrx])
      | some c =>
        obtain ⟨_, rfl, plain, hdec, hval⟩ := opened
        refine Act.bind_eq_ok.mpr ⟨plain, s, [], [], Act.lift_eq_ok.mpr ⟨hdec, rfl, rfl⟩, ?_, rfl⟩
        refine Act.bind_eq_ok.mpr ⟨hs, s, [], [], Act.lift_eq_ok.mpr ⟨hval, rfl, rfl⟩, ?_, rfl⟩
        exact (handleMessages_ok (some c) (Nat.le_refl _)).mpr ⟨rfl, evs, h⟩


theorem handleRecord_ok {t : UInt8} {pkt data : Bytes} {s s' : Tls} {l : List E} :
    handleRecord C t pkt s = ⟨.ok data, s', l⟩ ↔
      l = [] ∧ ∃ evs, Record C s t pkt evs s' ∧ data = appDataOf evs := by
  unfold handleRecord
  constructor
  · intro h
    split_ifs at h with handshake change app
    · obtain ⟨_, s1, k, m, hh, h1, rfl⟩ := Act.bind_eq_ok.mp h
      obtain ⟨rfl, rfl, rfl⟩ := Act.ret_eq_ok.mp h1
      obtain ⟨rfl, cover, hs, evs, opened, messages⟩ := handleHandshake_ok.mp hh
      exact ⟨rfl, evs, handshake ▸ .handshake opened messages, (appDataOf_messages messages).symm⟩
    · simp only [Act.bailIf_bind, Act.modify_bind] at h
      split at h
      · cases h
      · rename_i hp
        obtain ⟨rfl, rfl, rfl⟩ := Act.ret_eq_ok.mp h
        rw [change, not_not.mp hp]
        exact ⟨rfl, _, .changeCipherSpec s, rfl⟩
    · simp only [Act.get_bind, Act.bailIf_bind] at h
      split at h
      · cases h
      · rename_i secure
        obtain ⟨plain, s1, k, m, run, h1, rfl⟩ := Act.bind_eq_ok.mp h
        obtain ⟨hdec, rfl, rfl⟩ := Act.lift_eq_ok.mp run
        obtain ⟨hval, rfl, rfl⟩ := Act.lift_eq_ok.mp h1
        rw [app]
        exact ⟨rfl, _, .appData (by simpa using secure) hdec hval,
          by simp [appDataOf, Event.data]⟩
    · cases h
  · rintro ⟨rfl, evs, record, rfl⟩
    cases record with
    | changeCipherSpec =>
      rw [if_neg (by decide), if_pos rfl]
      rfl
    | handshake opened messages =>
      rw [if_pos rfl, appDataOf_messages messages]
      exact Act.bind_eq_ok.mpr ⟨(), s', [], [],
        handleHandshake_ok.mpr ⟨rfl, _, _, _, opened, messages⟩, rfl, rfl⟩
    | appData secure hdec hval =>
      rw [if_neg (by decide), if_neg (by decide), if_pos rfl]
      simp only [Act.get_bind, Act.bailIf_bind, secure, Bool.true_eq_false, if_false,
        Act.lift_bind, hdec]
      exact Act.lift_eq_ok.mpr ⟨by simpa [appDataOf, Event.data] using hval, rfl, rfl⟩

theorem handleRecords_step {fuel : Nat} {raw rest data : Bytes} {t mj mn s0 s1 : UInt8} {s : Tls}
    (hne : raw ≠ []) (shape : Bytes.padTo 5 raw = t :: mj :: mn :: s0 :: s1 :: rest) :
    (handleRecords C (fuel + 1) raw data : Act String E Tls Bytes) s =
      let sz := (Bytes.fromBe16 s0 s1).toNat
      if mj ≠ 3 ∨ mn ≠ 3 then ⟨.err s!"unexpected TLS version {mj}.{mn}", s, []⟩
      else if rest.length < sz then
        ⟨.err s!"record claims {sz} bytes but only {rest.length} remain", s, []⟩
      else (do
        let more ← handleRecord C t (rest.take sz)
        handleRecords C fuel (rest.drop sz) (data ++ more) : Act String E Tls Bytes) s := by
  match raw, hne with
  | b :: bs, _ =>
    simp only [handleRecords, shape]
    simp only [Act.bailIf_bind, Bytes.slice_bind, Bytes.sliceFrom_bind]
    split
    · rfl
    split
    · rfl
    · rename_i enough
      rw [if_pos ⟨Nat.zero_le _, by omega⟩, if_pos (by omega), List.drop_zero]

theorem appDataOf_append (evs evs' : List Event) :
    appDataOf (evs ++ evs') = appDataOf evs ++ appDataOf evs' := List.flatMap_append

theorem handleRecords_nil {fuel : Nat} {before data : Bytes} {s s' : Tls} {l : List E} :
    handleRecords C fuel [] before s = ⟨.ok data, s', l⟩ ↔
      l = [] ∧ ∃ evs, Records C s [] evs s' ∧ data = before ++ appDataOf evs := by
  rw [show handleRecords C fuel [] before = (Act.ret before : Act String E Tls Bytes) by
    cases fuel <;> rfl, Act.ret_eq_ok]
  constructor
  · rintro ⟨rfl, rfl, rfl⟩
    exact ⟨rfl, [], .nil s, by simp [appDataOf]⟩
  · rintro ⟨rfl, evs, h, rfl⟩
    cases h with
    | nil s => exact ⟨by simp [appDataOf], rfl, rfl⟩
    | cons frame => exact absurd rfl frame.1

theorem handleRecords_ok {fuel : Nat} {raw before data : Bytes} (hf : raw.length ≤ fuel)
    {s s' : Tls} {l : List E} :
    handleRecords C fuel raw before s = ⟨.ok data, s', l⟩ ↔
      l = [] ∧ ∃ evs, Records C s raw evs s' ∧ data = before ++ appDataOf evs := by
  induction fuel generalizing raw before s l with
  | zero =>
    obtain rfl : raw = [] := List.length_eq_zero_iff.mp (by omega)
    exact handleRecords_nil
  | succ fuel ih =>
    by_cases hne : raw = []
    · subst hne
      exact handleRecords_nil
    obtain ⟨t, mj, mn, s0, s1, rest, shape⟩ := padTo_shape5 raw
    have shorter : rest.length < raw.length :=
      padTo_rest_length [t, mj, mn, s0, s1] hne shape rfl (by omega)
    rw [handleRecords_step hne shape]
    constructor
    · intro h
      dsimp only at h
      split at h
      · cases h
      rename_i version
      split at h
      · cases h
      rename_i enough
      obtain ⟨more, s2, k, m, hr, h1, rfl⟩ := Act.bind_eq_ok.mp h
      obtain ⟨rfl, evs, record, rfl⟩ := handleRecord_ok.mp hr
      obtain ⟨rfl, evs', records, rfl⟩ := (ih (by simp; omega)).mp h1
      have frame : Frame raw t (rest.take (Bytes.fromBe16 s0 s1).toNat)
          (rest.drop (Bytes.fromBe16 s0 s1).toNat) := by
        refine ⟨hne, s0, s1, ?_, ?_⟩
        · rw [shape, List.take_append_drop]
          simp only [List.cons.injEq, true_and, and_true]
          tauto
        · simp only [List.length_take]
          omega
      refine ⟨rfl, _, .cons frame record records, ?_⟩
      rw [appDataOf_append, List.append_assoc]
    · rintro ⟨rfl, evs, h, rfl⟩
      cases h with
      | nil s => exact absurd rfl hne
      | cons frame record records =>
        obtain ⟨_, c0, c1, shape', len⟩ := frame
        rw [shape] at shape'
        cases shape'
        simp only [← len, List.length_append]
        rw [if_neg (by simp), if_neg (by omega), List.take_left, List.drop_left]
        refine Act.bind_eq_ok.mpr ⟨_, _, [], [],
          handleRecord_ok.mpr ⟨rfl, _, record, rfl⟩, ?_, rfl⟩
        simp only [List.length_append] at shorter
        exact (ih (by omega)).mpr ⟨rfl, _, records, by rw [appDataOf_append, List.append_assoc]⟩

/-- `parseTlsResponse` accepts the replies of the grammar, returns the application data in
them and leaves the session they lead to. -/
theorem parseTlsResponse_ok {rsp data : Bytes} {s s' : Tls} {l : List E} :
    parseTlsResponse C rsp s = ⟨.ok data, s', l⟩ ↔
      l = [] ∧ ∃ evs, Records C s rsp evs s' ∧ data = appDataOf evs := by
  rw [parseTlsResponse, handleRecords_ok (Nat.le_refl _)]
  simp only [List.nil_append]

theorem parseTlsResponse_yields {rsp data : Bytes} {s s' : Tls} :
    Yields (parseTlsResponse C rsp : Act String E Tls Bytes) s data s' ↔
      ∃ evs, Records C s rsp evs s' ∧ data = appDataOf evs := by
  simp [Yields.iff_run, parseTlsResponse_ok]

/-! The grammar leaves one reading of a reply. -/

theorem IsServerHello.det {p : Bytes} {r r' : Bytes32} (h : IsServerHello p r)
    (h' : IsServerHello p r') : r = r' := by
  obtain ⟨sid, rest, _, rfl⟩ := h
  obtain ⟨sid', rest', _, h'⟩ := h'
  have cut := congrArg (fun b => (b.drop 2).take 32) h'
  simpa [List.take_append, Vector.toList_inj] using cut

theorem Message.det {s s1 s2 : Tls} {t : UInt8} {p : Bytes} (h : Message C s t p s1)
    (h' : Message C s t p s2) : s1 = s2 := by
  cases h with
  | serverHello hp =>
    cases h' with
    | serverHello hp' => rw [hp.det hp']
  | certificateRequest | serverHelloDone | finished =>
    cases h'
    rfl

theorem Messages.det {cover : Option Bytes} {s s1 s2 : Tls} {hs : Bytes}
    {evs1 evs2 : List Event} (h : Messages C cover s hs evs1 s1)
    (h' : Messages C cover s hs evs2 s2) : evs1 = evs2 ∧ s1 = s2 := by
  induction h generalizing evs2 s2 with
  | nil s =>
    cases h' with
    | nil s => exact ⟨rfl, rfl⟩
    | cons hne => exact absurd rfl hne
  | cons hne shape len message _ ih =>
    cases h' with
    | nil s => exact absurd rfl hne
    | cons hne' shape' len' message' others' =>
      rw [shape] at shape'
      obtain ⟨rfl, rfl, rfl, rfl, tail⟩ : _ ∧ _ ∧ _ ∧ _ ∧ _ := by simpa using shape'
      obtain ⟨rfl, rfl⟩ := List.append_inj tail (by rw [len, len'])
      obtain rfl := message.det message'
      obtain ⟨rfl, rfl⟩ := ih others'
      exact ⟨rfl, rfl⟩

theorem Opened.det {s : Tls} {pkt hs hs' : Bytes} {cover cover' : Option Bytes}
    (h : Opened C s pkt cover hs) (h' : Opened C s pkt cover' hs') : cover = cover' ∧ hs = hs' := by
  match cover, cover', h, h' with
  | none, none, ⟨_, e⟩, ⟨_, e'⟩ => exact ⟨rfl, e.trans e'.symm⟩
  | none, some _, ⟨rx, _⟩, ⟨rx', _⟩ => simp [rx] at rx'
  | some _, none, ⟨rx, _⟩, ⟨rx', _⟩ => simp [rx] at rx'
  | some _, some _, ⟨_, e, plain, hd, hv⟩, ⟨_, e', plain', hd', hv'⟩ =>
    rw [hd] at hd'
    obtain rfl := Except.ok.inj hd'
    rw [hv] at hv'
    exact ⟨by rw [e, e'], Except.ok.inj hv'⟩

theorem Record.det {s s1 s2 : Tls} {t : UInt8} {pkt : Bytes} {evs1 evs2 : List Event}
    (h : Record C s t pkt evs1 s1) (h' : Record C s t pkt evs2 s2) : evs1 = evs2 ∧ s1 = s2 := by
  cases h with
  | changeCipherSpec =>
    cases h'
    exact ⟨rfl, rfl⟩
  | handshake opened messages =>
    cases h' with
    | handshake opened' messages' =>
      obtain ⟨rfl, rfl⟩ := opened.det opened'
      exact messages.det messages'
  | appData _ hd hv =>
    cases h' with
    | appData _ hd' hv' =>
      rw [hd] at hd'
      obtain rfl := Except.ok.inj hd'
      rw [hv] at hv'
      obtain rfl := Except.ok.inj hv'
      exact ⟨rfl, rfl⟩

theorem Records.nothing {s s' : Tls} {evs : List Event} (h : Records C s [] evs s') :
    evs = [] := by
  cases h with
  | nil s => rfl
  | cons frame => exact absurd rfl frame.1

theorem Records.det {s s1 s2 : Tls} {raw : Bytes} {evs1 evs2 : List Event}
    (h : Records C s raw evs1 s1) (h' : Records C s raw evs2 s2) : evs1 = evs2 ∧ s1 = s2 := by
  induction h generalizing evs2 s2 with
  | nil s =>
    cases h' with
    | nil s => exact ⟨rfl, rfl⟩
    | cons frame => exact absurd rfl frame.1
  | cons frame record _ ih =>
    cases h' with
    | nil s => exact absurd rfl frame.1
    | cons frame' record' others' =>
      obtain ⟨_, c0, c1, shape, len⟩ := frame
      obtain ⟨_, d0, d1, shape', len'⟩ := frame'
      rw [shape] at shape'
      obtain ⟨rfl, rfl, rfl, tail⟩ : _ ∧ _ ∧ _ ∧ _ := by simpa using shape'
      obtain ⟨rfl, rfl⟩ := List.append_inj tail (by rw [len, len'])
      obtain ⟨rfl, rfl⟩ := record.det record'
      obtain ⟨rfl, rfl⟩ := ih others'
      exact ⟨rfl, rfl⟩

end ValidityFprintd.Tls
