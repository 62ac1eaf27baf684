import ValidityFprintd.Machine
import ValidityFprintd.Partition
import ValidityFprintd.TlsOpen
import ValidityFprintd.Enroll

/-! What is left in the partition when the write of a baseline is cut off. `persist` takes a
record's header for the record, and the tool will not replace what it cannot re-encode; both
go wrong on a header over a body that is not its own. -/

namespace ValidityFprintd.Baseline
open Effect Crypto Flash

variable {S : Type} {C : Primitives} {w : Usb.World S} {part : S → Partition}

/-- The candidate's header over other content. -/
def HeaderOnly (p : Partition) (candidate : Bytes) : Prop :=
  p.read 0 0x44 = candidate.take 0x44 ∧ ¬ candidate <+: p.bytes

section Persist

variable {blob : WriteEnable} {s t : S}

/-- What `compare` makes of a header. -/
def judged (head candidate : Bytes) : BaselineState :=
  if head.all (fun b => b = 0xff) then .blank
  else if bodyOffset.toNat ≤ candidate.length ∧ head = candidate.take bodyOffset.toNat then .matched
  else .differs

theorem compare_eq (candidate : Bytes) : compare w candidate =
    (readFlash w 6 0 0x44 >>= fun head => Act.ret (judged head candidate)) := by
  unfold compare
  congr 1
  funext head
  unfold judged
  split
  · rfl
  · split <;> rfl

theorem compare_yields (honest : Honest w 6 part) {candidate : Bytes} {state : BaselineState} :
    Yields (compare w candidate) s state t ↔
      Answered w 6 0 0x44 s t ∧ state = judged ((part s).read 0 0x44) candidate := by
  rw [compare_eq, Yields.bind_iff]
  constructor
  · rintro ⟨head, u, read, judges⟩
    obtain ⟨rfl, rfl⟩ := Yields.ret_iff.mp judges
    obtain ⟨answered, rfl⟩ := (readFlash_yields honest).mp read
    exact ⟨answered, rfl⟩
  · rintro ⟨answered, rfl⟩
    exact ⟨_, t, (readFlash_yields honest).mpr ⟨answered, rfl⟩, Yields.ret_iff.mpr ⟨rfl, rfl⟩⟩

/-- What a persist that returns leaves, unless it took a header for a record. -/
theorem persist_stores_record (honest : Honest w 6 part) {candidate : Bytes} {written : Bool}
    (sound : ¬ HeaderOnly (part s) candidate)
    (h : Yields (persist w blob candidate) s written t) : candidate <+: (part t).bytes := by
  obtain ⟨state, u, compared, h⟩ := Yields.bind_iff.mp h
  obtain ⟨answered, judged_⟩ := (compare_yields honest).mp compared
  cases state with
  | matched =>
    obtain ⟨_, rfl⟩ := Yields.ret_iff.mp h
    rw [answered.keeps honest]
    have same : (part s).read 0 0x44 = candidate.take 0x44 := by
      unfold judged at judged_
      split at judged_
      · cases judged_
      · split at judged_
        · rename_i both
          exact both.2
        · cases judged_
    by_contra other
    exact sound ⟨same, other⟩
  | blank =>
    obtain ⟨_, v, wrote, h⟩ := Yields.bind_iff.mp h
    obtain ⟨_, rfl⟩ := Yields.ret_iff.mp h
    exact writeFlashAll_yields honest wrote
  | differs =>
    obtain ⟨_, _, _, h⟩ := Yields.bind_iff.mp h
    obtain ⟨_, v, wrote, h⟩ := Yields.bind_iff.mp h
    obtain ⟨_, rfl⟩ := Yields.ret_iff.mp h
    exact writeFlashAll_yields honest wrote

theorem judged_header (body : Bytes) :
    judged ((encodeRecord C body).take 0x44) (encodeRecord C body) = .matched := by
  have long : bodyOffset.toNat ≤ (encodeRecord C body).length := by
    rw [encodeRecord_length]
    exact Nat.le_add_right _ _
  have written : ((encodeRecord C body).take 0x44).all (fun b => b = 0xff) = false := rfl
  rw [judged, written, if_neg Bool.false_ne_true, if_pos ⟨long, rfl⟩]

/-- A header over other content is taken for the record. -/
theorem persist_header (honest : Honest w 6 part) {body : Bytes}
    (answered : Answered w 6 0 0x44 s t) (header : HeaderOnly (part s) (encodeRecord C body)) :
    Yields (persist w blob (encodeRecord C body)) s false t ∧
      ¬ encodeRecord C body <+: (part t).bytes := by
  have compared : Yields (compare w (encodeRecord C body)) s
      (judged ((part s).read 0 0x44) (encodeRecord C body)) t :=
    (compare_yields honest).mpr ⟨answered, rfl⟩
  rw [header.1, judged_header] at compared
  rw [answered.keeps honest]
  exact ⟨Yields.bind_iff.mpr ⟨_, t, compared, Yields.ret_iff.mpr ⟨rfl, rfl⟩⟩, header.2⟩

end Persist

section Runs

variable (C w part) (blob : WriteEnable)

/-- Calls of `persist`, one after the other, each with the record of some body. -/
def persisting (s : S) : Machine S Bytes (Usb.Entry S) where
  init := s
  step s body := some ((persist w blob (encodeRecord C body) s).state,
    (persist w blob (encodeRecord C body) s).log)

/-- If the call returns, the partition begins with its record. -/
def Stores (move : Machine.Move S Bytes (Usb.Entry S)) : Prop :=
  ∀ written, (persist w blob (encodeRecord C move.label) move.before).out = .ok written →
    encodeRecord C move.label <+: (part move.after).bytes

/-- The call can read the header, and it is that of its record, over other content. -/
def Misled (s : S) (body : Bytes) : Prop :=
  (∃ t, Answered w 6 0 0x44 s t) ∧ HeaderOnly (part s) (encodeRecord C body)

variable {C w part blob} {s last : S} {moves : List (Machine.Move S Bytes (Usb.Entry S))}

/-- Every call that returns has stored its record if and only if none is misled. -/
theorem persist_stores (honest : Honest w 6 part) (run : (persisting C w blob s).Run moves last) :
    (∀ move ∈ moves, Stores C w part blob move) ↔
      ∀ move ∈ moves, ¬ Misled C w part move.before move.label := by
  refine forall₂_congr fun move mem => ?_
  obtain ⟨front, back, rfl⟩ := List.append_of_mem mem
  obtain ⟨after, _⟩ := Prod.mk.inj (Option.some.inj run.move.2)
  constructor
  · rintro stores ⟨⟨t, answered⟩, header⟩
    have misled : Yields (persist w blob (encodeRecord C move.label)) move.before false t ∧ _ :=
      persist_header honest answered header
    obtain ⟨⟨returned, state⟩, other⟩ := misled
    rw [← state, after] at other
    exact other (stores false returned)
  · intro sound written returned
    have yields : Yields (persist w blob (encodeRecord C move.label)) move.before written
        move.after := ⟨returned, after⟩
    refine persist_stores_record honest (fun header => ?_) yields
    obtain ⟨_, u, compared, _⟩ := Yields.bind_iff.mp yields
    exact sound ⟨⟨u, ((compare_yields honest).mp compared).1⟩, header⟩

variable (C w blob) in
theorem persisting_once (s : S) (body : Bytes) : (persisting C w blob s).Run
    [⟨s, body, (persist w blob (encodeRecord C body) s).state,
      (persist w blob (encodeRecord C body) s).log⟩]
    (persist w blob (encodeRecord C body) s).state :=
  .step .init rfl

theorem persisting_again {s t : S} {body : Bytes} {move : Machine.Move S Bytes (Usb.Entry S)}
    (first : (persisting C w blob s).Run [move] t)
    (returned : ∃ written, (persist w blob (encodeRecord C body) t).out = .ok written)
    (other : ¬ encodeRecord C body <+:
      (part (persist w blob (encodeRecord C body) t).state).bytes) :
    ∃ moves last, (persisting C w blob s).Run moves last ∧
      ¬ ∀ move ∈ moves, Stores C w part blob move := by
  obtain ⟨written, returned⟩ := returned
  refine ⟨[move] ++ [⟨t, body, (persist w blob (encodeRecord C body) t).state,
    (persist w blob (encodeRecord C body) t).log⟩], _, .step first rfl, fun stores => ?_⟩
  have last := stores _ (List.mem_append_right _ (List.mem_singleton_self _)) written
  dsimp only at last
  exact other (last returned)

end Runs

section Cut

/-- A hash that tells bodies apart by their last byte. -/
def lastByte : Primitives :=
  { Tls.plainPrimitives with sha256 := fun b => Vector.replicate 32 (b.getLastD 0) }

def longBody : Bytes := encodeBody (List.replicate 0x1000 7)

theorem unlockBlob_head : ([0x06, 0x02, 0x00, 0x00, 0x01] : Bytes).head? = some 0x06 := rfl

def unlockBlob : WriteEnable := ⟨[0x06, 0x02, 0x00, 0x00, 0x01], unlockBlob_head⟩

theorem erased_not_header (body : Bytes) : ¬ HeaderOnly .erased (encodeRecord C body) := by
  rintro ⟨same, _⟩
  have first : some 0xff = some (2 : UInt8) := congrArg List.head? same
  cases first

theorem persist_stores_once : ∃ moves last,
    (persisting lastByte (steady 6) unlockBlob .erased).Run moves last ∧ moves ≠ [] ∧
      ∀ move ∈ moves, Stores lastByte (steady 6) id unlockBlob move := by
  have run := persisting_once lastByte (steady 6) unlockBlob .erased longBody
  refine ⟨_, _, run, List.cons_ne_nil _ _, (persist_stores (steady_honest 6) run).mpr ?_⟩
  intro move mem
  rw [List.mem_singleton.mp mem]
  rintro ⟨_, header⟩
  exact erased_not_header _ header

/-- What is left where the sixth command fails: the second of two writes. -/
def afterCut : Partition × Nat :=
  (persist (flaky 6) unlockBlob (encodeRecord lastByte longBody) (.erased, 6)).state

/-- The write of a long record is cut off, and its retry finds nothing to do. -/
theorem persist_not_stored : ∃ moves last,
    (persisting lastByte (flaky 6) unlockBlob (.erased, 6)).Run moves last ∧
      ¬ ∀ move ∈ moves, Stores lastByte (flaky 6) Prod.fst unlockBlob move := by
  have first : (persisting lastByte (flaky 6) unlockBlob (.erased, 6)).Run [_] afterCut :=
    persisting_once lastByte (flaky 6) unlockBlob (.erased, 6) longBody
  have returned : (persist (flaky 6) unlockBlob (encodeRecord lastByte longBody) afterCut).out =
      .ok false := by decide +kernel
  have inside : (encodeRecord lastByte longBody)[0x1000]? = some 7 := by decide +kernel
  have found : ((persist (flaky 6) unlockBlob (encodeRecord lastByte longBody)
      afterCut).state.1.bytes)[0x1000]? = some 0xff := by decide +kernel
  refine persisting_again first ⟨false, returned⟩ ?_
  rintro ⟨tail, whole⟩
  have expected : (encodeRecord lastByte longBody ++ tail)[0x1000]? =
      (encodeRecord lastByte longBody)[0x1000]? :=
    List.getElem?_append_left (List.getElem?_eq_some_iff.mp inside).1
  rw [whole, inside, found] at expected
  cases expected

end Cut

section Tool

/-- The partition begins with the record of a body. -/
def Recorded (C : Primitives) (p : Partition) : Prop :=
  ∃ body : Bytes, body.length < 65536 ∧ encodeRecord C body <+: p.bytes

def BeginsWithMagic (p : Partition) : Prop := Bytes.le16 cleanSlateMagic <+: p.bytes

/-- What `read_stored` finds. -/
def storedRecord (p : Partition) : Option Bytes :=
  match p.bytes with
  | m0 :: m1 :: l0 :: l1 :: _ =>
    if Bytes.fromLe16 m0 m1 = cleanSlateMagic then
      some (p.read 0 (0x44 + (Bytes.fromLe16 l0 l1).toNat))
    else none
  | _ => none

theorem partition_head (p : Partition) :
    ∃ m0 m1 l0 l1 tail, p.bytes = m0 :: m1 :: l0 :: l1 :: tail := by
  have size := p.size
  match h : p.bytes with
  | m0 :: m1 :: l0 :: l1 :: tail => exact ⟨m0, m1, l0, l1, tail, rfl⟩
  | [] | [_] | [_, _] | [_, _, _] =>
    rw [h] at size
    cases size

theorem le16_prefix_iff {n : UInt16} {a b : UInt8} {tail : Bytes} :
    Bytes.le16 n <+: a :: b :: tail ↔ Bytes.fromLe16 a b = n := by
  have bytes : Bytes.le16 n = [UInt8.ofNat n.toNat, UInt8.ofNat (n.toNat / 256)] := rfl
  rw [bytes]
  constructor
  · rintro ⟨rest, whole⟩
    injection whole with first whole
    injection whole with second _
    rw [← first, ← second, Bytes.fromLe16_le16]
  · intro value
    have first : UInt8.ofNat n.toNat = a := by
      apply UInt8.toNat_inj.mp
      rw [← value, UInt8.toNat_ofNat', Bytes.fromLe16_toNat]
      have ha := a.toNat_lt
      omega
    have second : UInt8.ofNat (n.toNat / 256) = b := by
      apply UInt8.toNat_inj.mp
      rw [← value, UInt8.toNat_ofNat', Bytes.fromLe16_toNat]
      have ha := a.toNat_lt
      have hb := b.toNat_lt
      omega
    rw [first, second]
    exact ⟨tail, rfl⟩

theorem storedRecord_none {p : Partition} : storedRecord p = none ↔ ¬ BeginsWithMagic p := by
  obtain ⟨m0, m1, l0, l1, tail, bytes⟩ := partition_head p
  unfold storedRecord BeginsWithMagic
  rw [bytes, le16_prefix_iff]
  dsimp only
  split
  · rename_i magic
    simp [magic]
  · rename_i other
    simp [other]

theorem storedRecord_matches {p : Partition} {record : Bytes}
    (stored : storedRecord p = some record) :
    encodeRecord C (record.drop 0x44) = record ↔ Recorded C p := by
  obtain ⟨m0, m1, l0, l1, tail, bytes⟩ := partition_head p
  unfold storedRecord at stored
  rw [bytes] at stored
  dsimp only at stored
  split at stored
  · obtain rfl := Option.some.inj stored
    have front : p.read 0 (0x44 + (Bytes.fromLe16 l0 l1).toNat) =
        p.bytes.take (0x44 + (Bytes.fromLe16 l0 l1).toNat) := rfl
    rw [front]
    constructor
    · intro same
      refine ⟨_, ?_, same ▸ List.take_prefix _ _⟩
      have small := (Bytes.fromLe16 l0 l1).toNat_lt
      rw [List.length_drop, List.length_take]
      omega
    · rintro ⟨body, small, rest, whole⟩
      have length : (Bytes.fromLe16 l0 l1).toNat = body.length := by
        rw [bytes] at whole
        have header : encodeRecord C body ++ rest = 2 :: 0x50 ::
            UInt8.ofNat (Bytes.len16 body).toNat :: UInt8.ofNat ((Bytes.len16 body).toNat / 256) ::
              ((C.sha256 body).toList ++ List.replicate 0x20 0 ++ body ++ rest) := by
          simp only [encodeRecord, Bytes.le16, List.append_assoc, List.cons_append, List.nil_append]
          rfl
        rw [header] at whole
        injection whole with _ whole
        injection whole with _ whole
        injection whole with h0 whole
        injection whole with h1 _
        rw [← h0, ← h1, Bytes.fromLe16_le16, Bytes.len16_toNat small]
      have taken : p.bytes.take (0x44 + (Bytes.fromLe16 l0 l1).toNat) = encodeRecord C body := by
        rw [← whole, length, ← encodeRecord_length (C := C), List.take_left]
      have dropped : (encodeRecord C body).drop 0x44 = body := by
        have head : (Bytes.le16 cleanSlateMagic ++ Bytes.le16 (Bytes.len16 body) ++
            (C.sha256 body).toList ++ List.replicate 0x20 0).length = 0x44 := by
          simp only [List.length_append, Bytes.le16_length, Vector.length_toList,
            List.length_replicate]
        rw [encodeRecord, List.drop_left' head]
      rw [taken, dropped]
  · cases stored

/-- A sensor that works: it is honest, answers every read, calibrates and delivers a frame. -/
structure Working (C : Primitives) (w : Usb.World S) (part : S → Partition) (cfg : SensorConfig)
    (iterations : UInt32) : Prop where
  honest : Honest w 6 part
  answers : ∀ addr size s, ∃ t, Answered w 6 addr size s t
  calibrates : ∀ s, ∃ calib t candidate u,
    Yields (Calibration.calibrate w cfg iterations ⟨[]⟩) s calib t ∧
      Yields (build C w calib cfg) t candidate u

/-- With `--write` and `--force`, the tool comes to its call of `persist`. -/
def Repairs (C : Primitives) (w : Usb.World S) (cfg : SensorConfig) (iterations : UInt32) (s : S) :
    Prop :=
  ∃ candidate t, Yields (candidateFor C w cfg iterations true true) s (some candidate) t

variable {cfg : SensorConfig} {iterations : UInt32} {s : S}

theorem Working.reads (working : Working C w part cfg iterations) (addr size : UInt32) (s : S) :
    ∃ t, Yields (readFlash w 6 addr size) s ((part s).read addr.toNat size.toNat) t ∧
      part t = part s := by
  obtain ⟨t, answered⟩ := working.answers addr size s
  exact ⟨t, (readFlash_yields working.honest).mpr ⟨answered, rfl⟩, answered.keeps working.honest⟩

theorem Working.readsBlocks (working : Working C w part cfg iterations) (n : Nat) (addr : UInt32)
    (s : S) : ∃ b t, Yields (readBlocks w 6 n addr) s b t := by
  induction n generalizing addr s with
  | zero => exact ⟨_, _, Yields.ret_iff.mpr ⟨rfl, rfl⟩⟩
  | succ n ih =>
    obtain ⟨t, first, _⟩ := working.reads addr 0x1000 s
    obtain ⟨rest, u, others⟩ := ih (addr + 0x1000) t
    exact ⟨_, u, Yields.bind_iff.mpr ⟨_, t, first, Yields.bind_iff.mpr
      ⟨_, u, others, Yields.ret_iff.mpr ⟨rfl, rfl⟩⟩⟩⟩

theorem Working.readsAll (working : Working C w part cfg iterations) (len : UInt16) (s : S) :
    ∃ t, Yields (readFlashAll w 6 bodyOffset len.toUInt32) s ((part s).read 0x44 len.toNat) t ∧
      part t = part s := by
  obtain ⟨b, t, blocks⟩ := working.readsBlocks ((len.toUInt32.toNat + 0xfff) / 0x1000) bodyOffset s
  have all : Yields (readFlashAll w 6 bodyOffset len.toUInt32) s (b.take len.toUInt32.toNat) t :=
    Yields.bind_iff.mpr ⟨b, t, blocks, Yields.ret_iff.mpr ⟨rfl, rfl⟩⟩
  have small := len.toNat_lt
  have room : bodyOffset.toNat + len.toUInt32.toNat + 0x1000 < 4294967296 := by
    rw [UInt16.toNat_toUInt32]
    have start : bodyOffset.toNat = 0x44 := rfl
    omega
  obtain ⟨same, kept⟩ := readFlashAll_yields working.honest room all
  rw [same] at all
  exact ⟨t, all, kept⟩

theorem head_length (p : Partition) : (p.read 0 0x44).length = 0x44 := by
  rw [Partition.read, List.length_take, List.length_drop, p.size, partitionSize]
  rfl

theorem head_fields (p : Partition) : ∃ magic len : UInt16,
    (Bytes.rd16 (p.read 0 0x44) 0 : Outcome String UInt16) = .ok magic ∧
      (Bytes.rd16 (p.read 0 0x44) 2 : Outcome String UInt16) = .ok len ∧
      storedRecord p =
        if magic = cleanSlateMagic then some (p.read 0 (0x44 + len.toNat)) else none := by
  obtain ⟨m0, m1, l0, l1, tail, bytes⟩ := partition_head p
  have front : p.read 0 0x44 = m0 :: m1 :: l0 :: l1 :: tail.take 0x40 := by
    rw [Partition.read, bytes]
    rfl
  refine ⟨Bytes.fromLe16 m0 m1, Bytes.fromLe16 l0 l1, ?_, ?_, ?_⟩
  · rw [front]
    rfl
  · rw [front]
    rfl
  · unfold storedRecord
    rw [bytes]

theorem Working.readStored (working : Working C w part cfg iterations) (s : S) :
    ∃ t, Yields (readStored w) s (storedRecord (part s)) t ∧ part t = part s := by
  obtain ⟨t, head, kept⟩ := working.reads 0 bodyOffset s
  obtain ⟨magic, len, magicField, lenField, stored⟩ := head_fields (part s)
  have whole : ¬ ((part s).read 0 0x44).length < 0x44 := by
    rw [head_length]
    exact Nat.lt_irrefl _
  by_cases ours : magic = cleanSlateMagic
  · obtain ⟨u, body, kept'⟩ := working.readsAll len t
    refine ⟨u, Yields.bind_iff.mpr ⟨_, t, head, ?_⟩, kept'.trans kept⟩
    rw [show (0 : UInt32).toNat = 0 from rfl, show bodyOffset.toNat = 0x44 from rfl, if_neg whole,
      magicField]
    refine Yields.bind_iff.mpr ⟨_, t, Yields.ofOutcome_iff.mpr ⟨rfl, rfl⟩, ?_⟩
    rw [if_neg (not_not.mpr ours), lenField]
    refine Yields.bind_iff.mpr ⟨_, t, Yields.ofOutcome_iff.mpr ⟨rfl, rfl⟩, ?_⟩
    refine Yields.bind_iff.mpr ⟨_, u, body, Yields.ret_iff.mpr ⟨?_, rfl⟩⟩
    rw [stored, if_pos ours, kept]
    simp only [Partition.read, List.drop_zero, List.take_add]
  · refine ⟨t, Yields.bind_iff.mpr ⟨_, t, head, ?_⟩, kept⟩
    rw [show (0 : UInt32).toNat = 0 from rfl, show bodyOffset.toNat = 0x44 from rfl, if_neg whole,
      magicField]
    refine Yields.bind_iff.mpr ⟨_, t, Yields.ofOutcome_iff.mpr ⟨rfl, rfl⟩, ?_⟩
    rw [if_pos ours, stored, if_neg ours]
    exact Yields.ret_iff.mpr ⟨rfl, rfl⟩

theorem Working.checksCleanSlate (working : Working C w part cfg iterations) (s : S) :
    ∃ ok t, Yields (checkCleanSlate C w) s ok t ∧ part t = part s := by
  obtain ⟨t, head, kept⟩ := working.reads 0 0x44 s
  obtain ⟨magic, len, magicField, lenField, _⟩ := head_fields (part s)
  have whole : ¬ ((part s).read 0 0x44).length < 0x44 := by
    rw [head_length]
    exact Nat.lt_irrefl _
  have rest : ∃ ok u, Yields (if magic ≠ cleanSlateMagic then Act.ret false
      else if (((((part s).read 0 0x44).take 0x44).drop 0x24).any fun b => b ≠ 0) = true then
        Act.ret false
      else do
        let img ← readFlashAll w 6 0x44 len.toUInt32
        Act.ret ((C.sha256 img).toList = (((part s).read 0 0x44).take 0x24).drop 4) :
          Usb.Drv S Bool) t ok u ∧ part u = part t := by
    split
    · exact ⟨_, t, Yields.ret_iff.mpr ⟨rfl, rfl⟩, rfl⟩
    · split
      · exact ⟨_, t, Yields.ret_iff.mpr ⟨rfl, rfl⟩, rfl⟩
      · obtain ⟨u, body, kept'⟩ := working.readsAll len t
        exact ⟨_, u, Yields.bind_iff.mpr ⟨_, u, body, Yields.ret_iff.mpr ⟨rfl, rfl⟩⟩, kept'⟩
  obtain ⟨ok, u, rest, kept'⟩ := rest
  refine ⟨ok, u, Yields.bind_iff.mpr ⟨_, t, head, ?_⟩, kept'.trans kept⟩
  rw [show (0 : UInt32).toNat = 0 from rfl, show (0x44 : UInt32).toNat = 0x44 from rfl,
    if_neg whole, magicField]
  refine Yields.bind_iff.mpr ⟨_, t, Yields.ofOutcome_iff.mpr ⟨rfl, rfl⟩, ?_⟩
  rw [lenField]
  exact Yields.bind_iff.mpr ⟨_, t, Yields.ofOutcome_iff.mpr ⟨rfl, rfl⟩, rest⟩

theorem Working.checksEncoder (working : Working C w part cfg iterations) (s : S) :
    (∃ t, Yields (checkEncoder C w true (storedRecord (part s))) s () t) ↔
      (BeginsWithMagic (part s) → Recorded C (part s)) := by
  obtain ⟨t, read, _⟩ := working.readStored s
  cases stored : storedRecord (part s) with
  | none =>
    have blank := storedRecord_none.mp stored
    exact iff_of_true ⟨s, Yields.ret_iff.mpr ⟨rfl, rfl⟩⟩ fun magic => absurd magic blank
  | some record =>
    have magic : BeginsWithMagic (part s) := by
      by_contra blank
      rw [storedRecord_none.mpr blank] at stored
      cases stored
    rw [stored] at read
    have trip : Yields (verifyRoundtrip C w) s (roundTrip C record) t :=
      Yields.bind_iff.mpr ⟨_, t, read, Yields.ret_iff.mpr ⟨rfl, rfl⟩⟩
    have passes : (roundTrip C record).recordMatches = true ↔ Recorded C (part s) := by
      rw [← storedRecord_matches stored]
      exact decide_eq_true_iff
    rw [imp_iff_right magic, ← passes]
    constructor
    · rintro ⟨u, checked⟩
      obtain ⟨rt, v, verified, bail⟩ := Yields.bind_iff.mp checked
      obtain ⟨rfl, rfl⟩ := trip.det verified
      obtain ⟨sound, _⟩ := Yields.bailIf_iff.mp bail
      simpa using sound
    · intro matched
      refine ⟨t, Yields.bind_iff.mpr ⟨_, t, trip, Yields.bailIf_iff.mpr ⟨?_, rfl⟩⟩⟩
      simp [matched]

/-- The tool reads the record and checks its hash before it looks at its encoder. -/
theorem Working.comesToCheck (working : Working C w part cfg iterations) (s : S) :
    ∃ ok t u, Yields (Baseline.readStored w) s (storedRecord (part s)) t ∧
      Yields (checkCleanSlate C w) t ok u ∧ part u = part s := by
  obtain ⟨t, stored, kept⟩ := working.readStored s
  obtain ⟨ok, u, checked, kept'⟩ := working.checksCleanSlate t
  exact ⟨ok, t, u, stored, checked, kept'.trans kept⟩

theorem Working.repairs_sound (working : Working C w part cfg iterations)
    (repairs : Repairs C w cfg iterations s) (magic : BeginsWithMagic (part s)) :
    Recorded C (part s) := by
  obtain ⟨ok, t, u, stored, checked, same⟩ := working.comesToCheck s
  obtain ⟨candidate, last, run⟩ := repairs
  obtain ⟨_, _, stored', run⟩ := Yields.bind_iff.mp run
  obtain ⟨rfl, rfl⟩ := stored.det stored'
  obtain ⟨_, _, checked', run⟩ := Yields.bind_iff.mp run
  obtain ⟨rfl, rfl⟩ := checked.det checked'
  obtain ⟨_, v, passed, _⟩ := Yields.bind_iff.mp run
  rw [← same] at passed magic ⊢
  exact (working.checksEncoder u).mp ⟨v, passed⟩ magic

theorem Working.repairs_of (working : Working C w part cfg iterations)
    (sound : BeginsWithMagic (part s) → Recorded C (part s)) : Repairs C w cfg iterations s := by
  obtain ⟨ok, t, u, stored, checked, same⟩ := working.comesToCheck s
  rw [← same] at sound
  obtain ⟨v, passed⟩ := (working.checksEncoder u).mpr sound
  rw [same] at passed
  obtain ⟨calib, x, candidate, last, calibrated, built⟩ := working.calibrates v
  refine ⟨candidate, last, Yields.bind_iff.mpr ⟨_, t, stored, ?_⟩⟩
  refine Yields.bind_iff.mpr ⟨_, u, checked, Yields.bind_iff.mpr ⟨(), v, passed, ?_⟩⟩
  rw [if_neg (by simp)]
  exact Yields.bind_iff.mpr ⟨calib, x, calibrated, Yields.bind_iff.mpr
    ⟨candidate, last, built, Yields.ret_iff.mpr ⟨rfl, rfl⟩⟩⟩

/-- The tool comes to write over what is left in the partition if and only if that does not begin
with the magic word or is the record of a body. -/
theorem interrupted_write_repaired (working : Working C w part cfg iterations) (s : S) :
    Repairs C w cfg iterations s ↔ (BeginsWithMagic (part s) → Recorded C (part s)) :=
  ⟨working.repairs_sound, working.repairs_of⟩

end Tool

section Left

variable {blob : WriteEnable} {p : Partition}

/-- The first chunks of the record over an erased partition, and not all of them. -/
def PartlyWritten (candidate : Bytes) (q : Partition) : Prop :=
  ∃ k, 0 < k ∧ k * 0x1000 < candidate.length ∧
    q.bytes = Partition.splice Partition.erased.bytes 0 (candidate.take (k * 0x1000))

theorem erased_magic : ¬ BeginsWithMagic .erased := by
  rintro ⟨rest, whole⟩
  have first : some (2 : UInt8) = some 0xff := congrArg List.head? whole
  cases first

/-- What the writing of a record over an erased partition leaves can be repaired, unless it was
cut off in the middle. -/
theorem splice_left {body : Bytes} {q : Partition} {k : Nat}
    (left : q.bytes = Partition.splice Partition.erased.bytes 0
      ((encodeRecord C body).take (k * 0x1000))) :
    (BeginsWithMagic q → Recorded C q) ∨ PartlyWritten (encodeRecord C body) q := by
  by_cases begun : k = 0
  · refine .inl fun magic => absurd magic ?_
    have blank : q.bytes = Partition.erased.bytes := by
      rw [left, begun, Nat.zero_mul, List.take_zero, Partition.splice_nil]
    rw [BeginsWithMagic, blank]
    exact erased_magic
  · by_cases ended : (encodeRecord C body).length ≤ k * 0x1000
    · refine .inl fun _ => ⟨body, ?_, ?_⟩
      · have fits : (encodeRecord C body).length ≤ q.bytes.length := by
          rw [left, List.take_of_length_le ended]
          simp only [Partition.splice, List.length_append]
          omega
        rw [q.size, partitionSize, encodeRecord_length] at fits
        omega
      · rw [left, List.take_of_length_le ended]
        exact ⟨Partition.erased.bytes.drop (0 + (encodeRecord C body).length),
          by simp [Partition.splice]⟩
    · exact .inr ⟨k, Nat.pos_of_ne_zero begun, Nat.lt_of_not_le ended, left⟩

/-- Wherever a write of a baseline is cut off, on a partition that was erased or recorded, only a
record that is partly written can keep the tool from writing it again. -/
theorem persist_left (whole : Whole w 6 part) (start : p = .erased ∨ Recorded C p) (body : Bytes) :
    Leaves part p (persist w blob (encodeRecord C body)) (fun _ _ => True) fun q =>
      (BeginsWithMagic q → Recorded C q) ∨ PartlyWritten (encodeRecord C body) q := by
  have sound : (BeginsWithMagic p → Recorded C p) ∨ PartlyWritten (encodeRecord C body) p := by
    obtain rfl | recorded := start
    · exact .inl fun magic => absurd magic erased_magic
    · exact .inl fun _ => recorded
  have writes : Leaves part .erased (Flash.writeFlashAll w blob 6 0 (encodeRecord C body) >>=
      fun _ => (Act.ret true : Usb.Drv S Bool)) (fun _ _ => True) fun q =>
        (BeginsWithMagic q → Recorded C q) ∨ PartlyWritten (encodeRecord C body) q := by
    refine (writeFlashAll_leaves whole (encodeRecord C body)).bind ?_ ?_
    · intro _ q all
      have last : (encodeRecord C body).take ((encodeRecord C body).length * 0x1000) =
          encodeRecord C body := List.take_of_length_le (by omega)
      rw [← last] at all
      exact .ret trivial (splice_left all)
    · rintro q ⟨k, left⟩
      exact splice_left left
  rw [persist]
  have compared : Leaves part p (compare w (encodeRecord C body))
      (fun state q => q = p ∧ state = judged (p.read 0 0x44) (encodeRecord C body))
      fun q => q = p := by
    rw [compare_eq]
    refine (readFlash_leaves whole 0 0x44).bind ?_ fun _ same => same
    rintro head _ ⟨rfl, rfl⟩
    exact .ret ⟨rfl, rfl⟩ rfl
  refine compared.bind ?_ (by rintro _ rfl; exact sound)
  rintro state q ⟨rfl, found⟩
  cases state with
  | matched => exact .ret trivial sound
  | blank =>
    obtain rfl | ⟨body', _, rest, recorded⟩ := start
    · exact writes
    · -- a record's first byte is that of the magic word
      obtain ⟨m0, m1, l0, l1, tail, bytes⟩ := partition_head q
      have first : some m0 = some (2 : UInt8) := by
        rw [← List.head?_cons (l := m1 :: l0 :: l1 :: tail), ← bytes, ← recorded]
        rfl
      have head : q.read 0 0x44 = 2 :: (m1 :: l0 :: l1 :: tail).take 0x43 := by
        rw [Partition.read, bytes, Option.some.inj first]
        rfl
      rw [head, judged, if_neg (by simp)] at found
      split at found <;> cases found
  | differs =>
    refine (eraseFlash_leaves whole).bind ?_ ?_
    · rintro _ _ rfl
      exact writes
    · rintro _ (rfl | rfl)
      · exact sound
      · exact .inl fun magic => absurd magic erased_magic

/-- The sensor whose command after a few fails, and so cuts the write off. -/
example : Leaves Prod.fst .erased (persist (flaky 6) unlockBlob (encodeRecord lastByte longBody))
    (fun _ _ => True) fun q => (BeginsWithMagic q → Recorded lastByte q) ∨
      PartlyWritten (encodeRecord lastByte longBody) q :=
  persist_left (flaky_whole 6) (.inl rfl) longBody

end Left

section Repair

theorem steady_working : Working lastByte (steady 6) id Enroll.smallConfig 0 where
  honest := steady_honest 6
  answers addr size p := by
    refine ⟨p, _, rfl, ?_⟩
    rw [serve_read]
    exact (Usb.checkStatus_ok_iff _).mpr ⟨_, rfl⟩
  calibrates p := by
    have averaged : Calibration.average [0x80, 0x80, 0x80] Enroll.smallConfig = .ok [0x80] := by
      decide +kernel
    have builds : ((Calibration.buildCmd02 ⟨[]⟩ .calibrate Enroll.smallConfig).kind = .value) := by
      decide +kernel
    cases built : Calibration.buildCmd02 ⟨[]⟩ .calibrate Enroll.smallConfig with
    | ok cmd =>
      obtain ⟨rest, rfl⟩ := Calibration.buildCmd02_head built
      have frame := Calibration.blankFrame_yields (steady 6) Enroll.smallConfig (s := p)
        (c := "requesting a blank frame") built rfl rfl rfl averaged
      exact ⟨_, p, _, p, Yields.ret_iff.mpr ⟨rfl, rfl⟩,
        Yields.bind_iff.mpr ⟨_, p, frame, Yields.ret_iff.mpr ⟨rfl, rfl⟩⟩⟩
    | err e | panic | stuck =>
      rw [built] at builds
      cases builds

theorem interrupted_write_repaired_erased :
    Repairs lastByte (steady 6) Enroll.smallConfig 0 .erased := by
  refine (interrupted_write_repaired steady_working .erased).mpr fun magic => ?_
  obtain ⟨rest, whole⟩ := magic
  have first : some (2 : UInt8) = some 0xff := congrArg List.head? whole
  cases first

/-- After a write is cut off between its two chunks, the tool refuses to write. -/
theorem interrupted_write_refused :
    (persist (flaky 6) unlockBlob (encodeRecord lastByte longBody) (.erased, 6)).out.kind = .error ∧
      Working lastByte (steady 6) id Enroll.smallConfig 0 ∧
      ¬ Repairs lastByte (steady 6) Enroll.smallConfig 0 afterCut.1 := by
  refine ⟨by decide +kernel, steady_working, ?_⟩
  intro repairs
  have differs : (storedRecord afterCut.1).map (fun record =>
      decide (encodeRecord lastByte (record.drop 0x44) = record)) = some false := by
    decide +kernel
  obtain ⟨record, stored, other⟩ := Option.map_eq_some_iff.mp differs
  have magic : BeginsWithMagic afterCut.1 := by
    by_contra blank
    rw [storedRecord_none.mpr blank] at stored
    cases stored
  have recorded := steady_working.repairs_sound repairs magic
  exact of_decide_eq_false other ((storedRecord_matches stored).mpr recorded)

end Repair

end ValidityFprintd.Baseline
