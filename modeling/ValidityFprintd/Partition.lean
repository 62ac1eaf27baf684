import ValidityFprintd.Baseline
import ValidityFprintd.Traffic

/-! A flash partition as the bytes it holds, and a sensor that reads, writes and erases it
honestly. A command that fails may have done anything to it. -/

namespace ValidityFprintd

/-- `0x8000`, as the layouts have it for partition 6. -/
def partitionSize : Nat := 0x8000

structure Partition where
  bytes : Bytes
  size : bytes.length = partitionSize

namespace Partition

def erased : Partition := ⟨List.replicate partitionSize 0xff, List.length_replicate⟩

def read (p : Partition) (addr size : Nat) : Bytes := (p.bytes.drop addr).take size

def splice (b : Bytes) (addr : Nat) (buf : Bytes) : Bytes :=
  b.take addr ++ buf ++ b.drop (addr + buf.length)

theorem splice_length {b buf : Bytes} {addr : Nat} (room : addr + buf.length ≤ b.length) :
    (splice b addr buf).length = b.length := by
  simp only [splice, List.length_append, List.length_take, List.length_drop]
  omega

theorem splice_nil {b : Bytes} {addr : Nat} : splice b addr [] = b := by
  simp [splice]

theorem splice_splice {b front back : Bytes} {addr : Nat}
    (room : addr + front.length ≤ b.length) :
    splice (splice b addr front) (addr + front.length) back = splice b addr (front ++ back) := by
  have head : (b.take addr ++ front).length = addr + front.length := by
    rw [List.length_append, List.length_take]
    omega
  have past : (b.take addr ++ front).drop (addr + front.length + back.length) = [] :=
    List.drop_eq_nil_of_le (by omega)
  have first : (splice b addr front).take (addr + front.length) = b.take addr ++ front := by
    rw [splice, List.take_left' head]
  have last : (splice b addr front).drop (addr + front.length + back.length) =
      b.drop (addr + (front ++ back).length) := by
    rw [splice, List.drop_append, past, List.nil_append, head, List.drop_drop,
      List.length_append]
    congr 1
    omega
  rw [splice, first, last, splice, List.append_assoc (b.take addr) front back]

def write (p : Partition) (addr : Nat) (buf : Bytes) (room : addr + buf.length ≤ partitionSize) :
    Partition :=
  ⟨splice p.bytes addr buf, (splice_length (by rw [p.size]; exact room)).trans p.size⟩

theorem read_length_le (p : Partition) (addr size : Nat) : (p.read addr size).length ≤ size := by
  rw [read, List.length_take]
  exact Nat.min_le_left _ _

end Partition

namespace Flash
open Effect

variable {S : Type}

def readCommand (partition : UInt8) (addr size : UInt32) : Bytes :=
  [0x40, partition, 1] ++ Bytes.le16 0 ++ Bytes.le32 addr ++ Bytes.le32 size

def writeCommand (partition : UInt8) (addr : UInt32) (buf : Bytes) : Bytes :=
  [0x41, partition, 1] ++ Bytes.le16 0 ++ Bytes.le32 addr ++ Bytes.le32 (Bytes.len32 buf) ++ buf

/-- The reply that carries the content read. -/
def ReadReply (rsp content : Bytes) : Prop :=
  ∃ x y, rsp = [0, 0] ++ Bytes.le32 (Bytes.len32 content) ++ [x, y] ++ content

/-- A sensor whose partition is `part`. What it accepts, it has done. -/
structure Honest (w : Usb.World S) (partition : UInt8) (part : S → Partition) : Prop where
  reads : ∀ {addr size s rsp t}, w (.cmd (readCommand partition addr size)) s = (.ok rsp, t) →
    Usb.checkStatus rsp = .ok () →
      part t = part s ∧ ReadReply rsp ((part s).read addr.toNat size.toNat)
  writes : ∀ {addr buf s rsp t}, w (.cmd (writeCommand partition addr buf)) s = (.ok rsp, t) →
    Usb.checkStatus rsp = .ok () →
      ∃ room, part t = (part s).write addr.toNat buf room
  erases : ∀ {s rsp t}, w (.cmd [0x3f, partition]) s = (.ok rsp, t) →
    Usb.checkStatus rsp = .ok () → part t = .erased
  /-- The brackets of a write leave the partition alone. -/
  unlocks : ∀ (blob : WriteEnable) s, part (w (.cmd blob.val) s).2 = part s
  commits : ∀ s, part (w (.cmd [0x1a]) s).2 = part s

section Reading

variable {w : Usb.World S} {partition : UInt8} {part : S → Partition} {s t : S}

/-- The read is answered, and not with an error. -/
def Answered (w : Usb.World S) (partition : UInt8) (addr size : UInt32) (s t : S) : Prop :=
  ∃ rsp, w (.cmd (readCommand partition addr size)) s = (.ok rsp, t) ∧
    Usb.checkStatus rsp = .ok ()

theorem readFlash_reply {addr size : UInt32} {rsp content : Bytes}
    (answered : w (.cmd (readCommand partition addr size)) s = (.ok rsp, t))
    (reply : ReadReply rsp content) (le : content.length ≤ size.toNat) :
    Yields (readFlash w partition addr size) s content t := by
  obtain ⟨x, y, shape⟩ := reply
  have lt := size.toNat_lt
  have accepted : Usb.checkStatus rsp = .ok () :=
    (Usb.checkStatus_ok_iff rsp).mpr ⟨_, shape⟩
  have field : (Bytes.len32 content).toNat = content.length := by
    rw [Bytes.len32, UInt32.toNat_ofNat']
    exact Nat.mod_eq_of_lt (by omega)
  have sz : (Bytes.rd32 rsp 2 : Outcome String UInt32) = .ok (Bytes.len32 content) :=
    Bytes.rd32_at [0, 0] ([x, y] ++ content) (by rw [shape]; simp) rfl
  have long : rsp.length = 8 + content.length := by
    rw [shape]
    simp only [List.length_append, Bytes.le32_length, List.length_cons, List.length_nil]
  have payload : (rsp.take (8 + content.length)).drop 8 = content := by
    rw [← long, List.take_length, shape]
    rfl
  refine Yields.bind_iff.mpr ⟨rsp, t, Usb.request_yields.mpr ⟨answered, accepted⟩, ?_⟩
  rw [Yields]
  simp only [Act.bailIf_bind, sz, Act.ofOutcome_bind, field, long, Bytes.slice, payload]
  rw [if_neg (by omega), if_neg (by omega), if_pos (by omega)]
  exact ⟨rfl, rfl⟩

theorem readFlash_answered (honest : Honest w partition part) {addr size : UInt32} {rsp : Bytes}
    (answered : w (.cmd (readCommand partition addr size)) s = (.ok rsp, t))
    (accepted : Usb.checkStatus rsp = .ok ()) :
    Yields (readFlash w partition addr size) s ((part s).read addr.toNat size.toNat) t :=
  readFlash_reply answered (honest.reads answered accepted).2 ((part s).read_length_le _ _)

theorem readFlash_yields (honest : Honest w partition part) {addr size : UInt32} {b : Bytes} :
    Yields (readFlash w partition addr size) s b t ↔
      Answered w partition addr size s t ∧ b = (part s).read addr.toNat size.toNat := by
  constructor
  · intro yields
    obtain ⟨rsp, u, request, _⟩ := Yields.bind_iff.mp yields
    obtain ⟨answered, accepted⟩ := Usb.request_yields.mp request
    obtain ⟨rfl, rfl⟩ := yields.det (readFlash_answered honest answered accepted)
    exact ⟨⟨rsp, answered, accepted⟩, rfl⟩
  · rintro ⟨⟨rsp, answered, accepted⟩, rfl⟩
    exact readFlash_answered honest answered accepted

theorem Answered.keeps (honest : Honest w partition part) {addr size : UInt32}
    (h : Answered w partition addr size s t) : part t = part s := by
  obtain ⟨rsp, answered, accepted⟩ := h
  exact (honest.reads answered accepted).1

theorem readBlocks_yields (honest : Honest w partition part) {n : Nat} {addr : UInt32} {b : Bytes}
    (room : addr.toNat + n * 0x1000 < 4294967296)
    (h : Yields (readBlocks w partition n addr) s b t) :
    b = (part s).read addr.toNat (n * 0x1000) ∧ part t = part s := by
  induction n generalizing addr s b with
  | zero =>
    obtain ⟨rfl, rfl⟩ := Yields.ret_iff.mp h
    exact ⟨by simp [Partition.read], rfl⟩
  | succ n ih =>
    obtain ⟨block, u, first, h⟩ := Yields.bind_iff.mp h
    obtain ⟨rest, v, second, h⟩ := Yields.bind_iff.mp h
    obtain ⟨rfl, rfl⟩ := Yields.ret_iff.mp h
    obtain ⟨answered, rfl⟩ := (readFlash_yields honest).mp first
    have next : (addr + 0x1000).toNat = addr.toNat + 0x1000 := by
      rw [UInt32.toNat_add]
      exact Nat.mod_eq_of_lt (by simp only [UInt32.reduceToNat]; omega)
    obtain ⟨rfl, kept⟩ := ih (by rw [next]; omega) second
    rw [answered.keeps honest] at kept ⊢
    refine ⟨?_, kept⟩
    have width : (0x1000 : UInt32).toNat = 0x1000 := rfl
    simp only [Partition.read, next, width]
    rw [Nat.succ_mul, Nat.add_comm (n * 0x1000), List.take_add, List.drop_drop]

theorem readFlashAll_yields (honest : Honest w partition part) {start size : UInt32} {b : Bytes}
    (room : start.toNat + size.toNat + 0x1000 < 4294967296)
    (h : Yields (readFlashAll w partition start size) s b t) :
    b = (part s).read start.toNat size.toNat ∧ part t = part s := by
  obtain ⟨out, u, blocks, h⟩ := Yields.bind_iff.mp h
  obtain ⟨rfl, rfl⟩ := Yields.ret_iff.mp h
  obtain ⟨rfl, kept⟩ := readBlocks_yields honest (by omega) blocks
  refine ⟨?_, kept⟩
  rw [Partition.read, List.take_take, Partition.read]
  congr 1
  omega

end Reading

section Writing

variable {w : Usb.World S} {partition : UInt8} {part : S → Partition} {blob : WriteEnable} {s t : S}

theorem commitAfterReply_yields {out : Bytes} {c : String}
    (h : Yields (commitAfterReply w blob out c) s () t) :
    ∃ u rsp, w (.cmd out) (w (.cmd blob.val) s).2 = (.ok rsp, u) ∧
      Usb.checkStatus rsp = .ok () ∧ t = (w (.cmd [0x1a]) u).2 := by
  obtain ⟨_, s1, unlock, h⟩ := Yields.bind_iff.mp h
  obtain ⟨_, _, unlocked, h1⟩ := Yields.bind_iff.mp unlock
  obtain ⟨_, rfl⟩ := Yields.ret_iff.mp h1
  obtain ⟨answered, _⟩ := Usb.request_yields.mp unlocked
  obtain ⟨rsp, u, sent, h⟩ := Yields.bind_iff.mp h
  have replied := Usb.cmd_yields.mp sent
  obtain ⟨cleanup, v, attempted, h⟩ := Yields.bind_iff.mp h
  obtain ⟨_, v', result, h⟩ := Yields.bind_iff.mp h
  obtain ⟨status, rfl⟩ := Yields.lift_iff.mp result
  obtain ⟨_, v', committed, h⟩ := Yields.bind_iff.mp h
  obtain ⟨closed, rfl⟩ := Yields.lift_iff.mp committed
  obtain ⟨_, rfl⟩ := Yields.ret_iff.mp h
  rw [closed] at attempted
  obtain ⟨reply, v', commit, rest⟩ := Yields.bind_iff.mp (Yields.attempt_ok_iff.mp attempted)
  have closing := Usb.cmd_yields.mp commit
  have same : v' = v := by
    split at rest
    · exact (Yields.ret_iff.mp rest).2
    · exact (Yields.lift_iff.mp (Yields.mapErr_iff.mp rest)).2
  refine ⟨u, rsp, by rw [answered]; exact replied, ?_, by rw [closing, same]⟩
  cases accepted : Usb.checkStatus rsp with
  | ok x => rfl
  | error e =>
    rw [accepted] at status
    cases status

theorem writeFlash_yields (honest : Honest w partition part) {addr : UInt32} {buf : Bytes}
    (h : Yields (writeFlash w blob partition addr buf) s () t) :
    ∃ room, part t = (part s).write addr.toNat buf room := by
  obtain ⟨u, rsp, answered, accepted, rfl⟩ := commitAfterReply_yields h
  obtain ⟨room, written⟩ := honest.writes answered accepted
  rw [honest.unlocks] at written
  exact ⟨room, by rw [honest.commits, written]⟩

/-- Chunks written one after another are one write. -/
theorem writeChunks_yields (honest : Honest w partition part) {chunks : List Bytes} {addr : UInt32}
    (h : Yields (writeChunks w blob partition addr chunks) s () t) :
    (part t).bytes = Partition.splice (part s).bytes addr.toNat chunks.flatten := by
  induction chunks generalizing addr s with
  | nil =>
    obtain ⟨_, rfl⟩ := Yields.ret_iff.mp h
    exact Partition.splice_nil.symm
  | cons chunk chunks ih =>
    obtain ⟨_, u, first, h⟩ := Yields.bind_iff.mp h
    obtain ⟨room, written⟩ := writeFlash_yields honest first
    have next : (addr + Bytes.len32 chunk).toNat = addr.toNat + chunk.length := by
      have small : addr.toNat + chunk.length ≤ 0x8000 := room
      rw [UInt32.toNat_add, Bytes.len32, UInt32.toNat_ofNat']
      omega
    have fits : addr.toNat + chunk.length ≤ (part s).bytes.length := by
      rw [(part s).size]
      exact room
    rw [ih h, next, written, List.flatten_cons]
    exact Partition.splice_splice fits

theorem writeFlashAll_yields (honest : Honest w partition part) {buf : Bytes}
    (h : Yields (writeFlashAll w blob partition 0 buf) s () t) : buf <+: (part t).bytes := by
  rw [writeChunks_yields honest h, Bytes.chunks_flatten (by omega)]
  exact ⟨(part s).bytes.drop (0 + buf.length), by simp [Partition.splice]⟩

end Writing

/-- A command that fails has done all it was to do, or nothing. -/
structure Whole (w : Usb.World S) (partition : UInt8) (part : S → Partition) : Prop
    extends Honest w partition part where
  quietReads : ∀ addr size s, part (w (.cmd (readCommand partition addr size)) s).2 = part s
  wholeWrites : ∀ addr buf s, part (w (.cmd (writeCommand partition addr buf)) s).2 = part s ∨
    ∃ room, part (w (.cmd (writeCommand partition addr buf)) s).2 =
      (part s).write addr.toNat buf room
  wholeErases : ∀ s, part (w (.cmd [0x3f, partition]) s).2 = part s ∨
    part (w (.cmd [0x3f, partition]) s).2 = .erased

section Leaving

variable {w : Usb.World S} {partition : UInt8} {part : S → Partition} {blob : WriteEnable}
  {p : Partition}

theorem readFlash_leaves (whole : Whole w partition part) (addr size : UInt32) :
    Leaves part p (readFlash w partition addr size)
      (fun b q => q = p ∧ b = p.read addr.toNat size.toNat) fun q => q = p := by
  have slice : ∀ rsp : Bytes, ∀ n, Respects (Still part)
      (Bytes.slice rsp 8 n : Usb.Drv S Bytes) := by
    intro rsp n
    unfold Bytes.slice
    split
    · exact .ret _
    · exact .crash
  have asked : Respects (Still part) (readFlash w partition addr size) := by
    refine .bind
      (Traffic.request_respects (ask_still w (whole.quietReads addr size)) _) fun rsp => ?_
    refine .bind (.bailIf _ _) fun _ => .bind (.ofOutcome _) fun sz => ?_
    exact .bind (.bailIf _ _) fun _ => slice rsp _
  refine (Leaves.still asked).mono ?_ fun _ same => same
  rintro b q ⟨rfl, s, t, rfl, run⟩
  exact ⟨rfl, ((readFlash_yields whole.toHonest).mp run).2⟩

theorem commitAfterReply_leaves (honest : Honest w partition part) {out : Bytes} {c : String}
    {J K : Partition → Prop} (before : K p) (after : ∀ s, part s = p → K (part (w (.cmd out) s).2))
    (answer : ∀ s rsp, part s = p → (w (.cmd out) s).1 = .ok rsp → Usb.checkStatus rsp = .ok () →
      J (part (w (.cmd out) s).2)) :
    Leaves part p (commitAfterReply w blob out c) (fun _ q => J q) K := by
  have unlock : Respects (Still part) (writeEnable w blob) :=
    Traffic.exchange_respects (ask_still w (honest.unlocks blob)) _
  have commit : Respects (Still part) (callCleanups w) := by
    refine .bind (Traffic.cmd_respects (ask_still w honest.commits)) fun rsp => ?_
    exact .ite (.ret _) (.mapErr _ (.lift _))
  refine (Leaves.still unlock).bind ?_ (by rintro _ rfl; exact before)
  rintro _ p ⟨rfl, _⟩
  have asked : Leaves part p (Usb.cmd w out)
      (fun rsp q => K q ∧ (Usb.checkStatus rsp = .ok () → J q)) K :=
    Usb.cmd_leaves before after fun s rsp seen sent => ⟨after s seen, answer s rsp seen sent⟩
  refine asked.bind ?_ fun _ cut => cut
  rintro rsp q ⟨cut, done⟩
  have still : Respects (Still part)
      (closing w ((Usb.checkStatus rsp).mapError (Usb.context c))) :=
    .bind (.attempt commit) fun _ => .bind (.lift _) fun _ => .bind (.lift _) fun _ => .ret _
  refine (Leaves.still still).mono ?_ (by rintro _ rfl; exact cut)
  rintro _ _ ⟨rfl, s, t, _, run⟩
  obtain ⟨_, _, _, run⟩ := Yields.bind_iff.mp run
  obtain ⟨_, _, lifted, _⟩ := Yields.bind_iff.mp run
  refine done ?_
  have status := (Yields.lift_iff.mp lifted).1
  cases accepted : Usb.checkStatus rsp with
  | ok _ => rfl
  | error e =>
    rw [accepted] at status
    cases status

theorem eraseFlash_leaves (whole : Whole w partition part) :
    Leaves part p (eraseFlash w blob partition) (fun _ q => q = .erased)
      fun q => q = p ∨ q = .erased := by
  refine commitAfterReply_leaves whole.toHonest (.inl rfl) ?_ ?_
  · rintro s rfl
    exact whole.wholeErases s
  · rintro s rsp rfl sent accepted
    exact whole.erases (Prod.ext sent rfl) accepted

theorem writeFlash_leaves (whole : Whole w partition part) (addr : UInt32) (buf : Bytes) :
    Leaves part p (writeFlash w blob partition addr buf)
      (fun _ q => ∃ room, q = p.write addr.toNat buf room)
      fun q => q = p ∨ ∃ room, q = p.write addr.toNat buf room := by
  refine commitAfterReply_leaves whole.toHonest (.inl rfl) ?_ ?_
  · rintro s rfl
    exact whole.wholeWrites addr buf s
  · rintro s rsp rfl sent accepted
    exact whole.writes (Prod.ext sent rfl) accepted

theorem writeChunks_leaves (whole : Whole w partition part) (addr : UInt32) (chunks : List Bytes) :
    Leaves part p (writeChunks w blob partition addr chunks)
      (fun _ q => q.bytes = Partition.splice p.bytes addr.toNat chunks.flatten)
      fun q => ∃ k, q.bytes = Partition.splice p.bytes addr.toNat (chunks.take k).flatten := by
  induction chunks generalizing addr p with
  | nil => exact .ret Partition.splice_nil.symm ⟨0, Partition.splice_nil.symm⟩
  | cons chunk chunks ih =>
    have wrote : ∀ {q : Partition} {room}, q = p.write addr.toNat chunk room →
        q.bytes = Partition.splice p.bytes addr.toNat chunk := by
      rintro q room rfl
      rfl
    refine (writeFlash_leaves whole addr chunk).bind ?_ ?_
    · rintro _ q ⟨room, written⟩
      have next : (addr + Bytes.len32 chunk).toNat = addr.toNat + chunk.length := by
        have small : addr.toNat + chunk.length ≤ 0x8000 := room
        rw [UInt32.toNat_add, Bytes.len32, UInt32.toNat_ofNat']
        omega
      have fits : addr.toNat + chunk.length ≤ p.bytes.length := by
        rw [p.size]
        exact room
      refine (ih (addr + Bytes.len32 chunk)).mono ?_ ?_
      · intro _ r rest
        rw [rest, next, wrote written, List.flatten_cons, Partition.splice_splice fits]
      · rintro r ⟨k, rest⟩
        refine ⟨k + 1, ?_⟩
        rw [rest, next, wrote written, List.take_succ_cons, List.flatten_cons,
          Partition.splice_splice fits]
    · rintro q (rfl | ⟨room, written⟩)
      · exact ⟨0, Partition.splice_nil.symm⟩
      · refine ⟨1, ?_⟩
        rw [wrote written]
        simp

theorem writeFlashAll_leaves (whole : Whole w partition part) (buf : Bytes) :
    Leaves part p (writeFlashAll w blob partition 0 buf)
      (fun _ q => q.bytes = Partition.splice p.bytes 0 buf)
      fun q => ∃ k, q.bytes = Partition.splice p.bytes 0 (buf.take (k * 0x1000)) := by
  refine (writeChunks_leaves whole 0 _).mono ?_ ?_
  · intro _ q all
    rwa [Bytes.chunks_flatten (by decide)] at all
  · rintro q ⟨k, some'⟩
    rw [Bytes.chunks_take_flatten (by decide)] at some'
    exact ⟨k, some'⟩

end Leaving

section Sensors

/-- What an honest sensor answers to a command, and what it does to its partition. -/
def serve (partition : UInt8) (p : Partition) : Bytes → Bytes × Partition
  | 0x40 :: q :: 1 :: _ :: _ :: a0 :: a1 :: a2 :: a3 :: s0 :: s1 :: s2 :: s3 :: [] =>
    if q = partition then
      let content := p.read (Bytes.fromLe32 a0 a1 a2 a3).toNat (Bytes.fromLe32 s0 s1 s2 s3).toNat
      ([0, 0] ++ Bytes.le32 (Bytes.len32 content) ++ [0, 0] ++ content, p)
    else ([0x04, 0x04], p)
  | 0x41 :: q :: 1 :: _ :: _ :: a0 :: a1 :: a2 :: a3 :: _ :: _ :: _ :: _ :: buf =>
    if q = partition then
      if room : (Bytes.fromLe32 a0 a1 a2 a3).toNat + buf.length ≤ partitionSize then
        ([0, 0], p.write (Bytes.fromLe32 a0 a1 a2 a3).toNat buf room)
      else ([0x04, 0x04], p)
    else ([0x04, 0x04], p)
  | [0x3f, q] => if q = partition then ([0, 0], .erased) else ([0x04, 0x04], p)
  | _ => ([0, 0], p)

/-- A world of such a sensor that never fails, and whose image data is three samples. -/
def steady (partition : UInt8) : Usb.World Partition
  | .cmd out, p => (.ok (serve partition p out).1, (serve partition p out).2)
  | .pollInterrupt, p => (.ok none, p)
  | .readData, p => (.ok [0x80, 0x80, 0x80], p)
  | .now, p => (0, p)
  | .current, p => (0, p)
  | .onStage _ _, p => ((), p)

/-- A world of such a sensor in which the command counted down to fails, without effect. -/
def flaky (partition : UInt8) : Usb.World (Partition × Nat)
  | .cmd _, (p, 1) => (.error "timed out", (p, 0))
  | .cmd out, (p, n) => (.ok (serve partition p out).1, ((serve partition p out).2, n - 1))
  | .pollInterrupt, d => (.ok none, d)
  | .readData, d => (.ok [], d)
  | .now, d => (0, d)
  | .current, d => (0, d)
  | .onStage _ _, d => ((), d)

variable (partition : UInt8) (p : Partition)

theorem serve_read (addr size : UInt32) : serve partition p (readCommand partition addr size) =
    ([0, 0] ++ Bytes.le32 (Bytes.len32 (p.read addr.toNat size.toNat)) ++ [0, 0] ++
      p.read addr.toNat size.toNat, p) := by
  have shape : serve partition p (readCommand partition addr size) =
      if partition = partition then
        ([0, 0] ++ Bytes.le32 (Bytes.len32 (p.read
          (Bytes.fromLe32 _ _ _ _).toNat (Bytes.fromLe32 _ _ _ _).toNat)) ++ [0, 0] ++
          p.read (Bytes.fromLe32 _ _ _ _).toNat (Bytes.fromLe32 _ _ _ _).toNat, p)
      else ([0x04, 0x04], p) := rfl
  rw [shape, if_pos rfl, Bytes.fromLe32_le32, Bytes.fromLe32_le32]

theorem serve_write (addr : UInt32) (buf : Bytes) :
    serve partition p (writeCommand partition addr buf) =
      if room : addr.toNat + buf.length ≤ partitionSize then ([0, 0], p.write addr.toNat buf room)
      else ([0x04, 0x04], p) := by
  have shape : serve partition p (writeCommand partition addr buf) =
      if partition = partition then
        if room : (Bytes.fromLe32 _ _ _ _).toNat + buf.length ≤ partitionSize then
          ([0, 0], p.write (Bytes.fromLe32 _ _ _ _).toNat buf room)
        else ([0x04, 0x04], p)
      else ([0x04, 0x04], p) := rfl
  rw [shape, if_pos rfl]
  simp only [Bytes.fromLe32_le32]

theorem serve_erase : serve partition p [0x3f, partition] = ([0, 0], .erased) := by
  show (if partition = partition then _ else _) = _
  rw [if_pos rfl]

theorem serve_blob (blob : WriteEnable) : (serve partition p blob.val).2 = p := by
  obtain ⟨out, head⟩ := blob
  cases out with
  | nil => rfl
  | cons b rest =>
    obtain rfl := Option.some.inj head
    rfl

theorem serve_commit : (serve partition p [0x1a]).2 = p := rfl

/-- Whatever lets its partition be served so, where it answers at all, is honest. -/
theorem honest_of_serve {S : Type} {w : Usb.World S} {part : S → Partition}
    (served : ∀ out s, ∃ answer t, w (.cmd out) s = (answer, t) ∧
      ((answer = .ok (serve partition (part s) out).1 ∧ part t = (serve partition (part s) out).2) ∨
        ((∃ e, answer = .error e) ∧ part t = part s))) : Honest w partition part where
  reads {addr size s rsp t} answered _ := by
    obtain ⟨answer, t', run, ⟨value, kept⟩ | ⟨⟨e, value⟩, _⟩⟩ := served (readCommand _ addr size) s
    · rw [answered] at run
      cases run
      rw [serve_read] at value kept
      exact ⟨kept, 0, 0, Except.ok.inj value⟩
    · rw [answered, value] at run
      cases run
  writes {addr buf s rsp t} answered accepted := by
    obtain ⟨answer, t', run, ⟨value, done⟩ | ⟨⟨e, value⟩, _⟩⟩ := served (writeCommand _ addr buf) s
    · rw [answered] at run
      cases run
      rw [serve_write] at value done
      split at value
      · rename_i room
        rw [dif_pos room] at done
        exact ⟨room, done⟩
      · cases value
        cases accepted
    · rw [answered, value] at run
      cases run
  erases {s rsp t} answered _ := by
    obtain ⟨answer, t', run, ⟨value, done⟩ | ⟨⟨e, value⟩, _⟩⟩ := served [0x3f, partition] s
    · rw [answered] at run
      cases run
      rw [done, serve_erase]
    · rw [answered, value] at run
      cases run
  unlocks blob s := by
    obtain ⟨answer, t, run, ⟨_, done⟩ | ⟨_, kept⟩⟩ := served blob.val s
    · rw [run, done, serve_blob]
    · rw [run, kept]
  commits s := by
    obtain ⟨answer, t, run, ⟨_, done⟩ | ⟨_, kept⟩⟩ := served [0x1a] s
    · rw [run, done, serve_commit]
    · rw [run, kept]

theorem steady_honest : Honest (steady partition) partition id :=
  honest_of_serve partition fun _ _ => ⟨_, _, rfl, .inl ⟨rfl, rfl⟩⟩

theorem flaky_honest : Honest (flaky partition) partition Prod.fst :=
  honest_of_serve partition fun _ d => match d with
    | (_, 0) => ⟨_, _, rfl, .inl ⟨rfl, rfl⟩⟩
    | (_, 1) => ⟨_, _, rfl, .inr ⟨⟨_, rfl⟩, rfl⟩⟩
    | (_, _ + 2) => ⟨_, _, rfl, .inl ⟨rfl, rfl⟩⟩

theorem serve_whole {S : Type} {w : Usb.World S} {part : S → Partition}
    (honest : Honest w partition part)
    (served : ∀ out s, part (w (.cmd out) s).2 = part s ∨
      part (w (.cmd out) s).2 = (serve partition (part s) out).2) : Whole w partition part where
  toHonest := honest
  quietReads addr size s := by
    obtain same | done := served (readCommand partition addr size) s
    · exact same
    · rw [done, serve_read]
  wholeWrites addr buf s := by
    obtain same | done := served (writeCommand partition addr buf) s
    · exact .inl same
    · rw [serve_write] at done
      split at done
      · rename_i room
        exact .inr ⟨room, done⟩
      · exact .inl done
  wholeErases s := by
    obtain same | done := served [0x3f, partition] s
    · exact .inl same
    · rw [done, serve_erase]
      exact .inr rfl

theorem flaky_whole : Whole (flaky partition) partition Prod.fst :=
  serve_whole partition (flaky_honest partition) fun _ d => match d with
    | (_, 0) => .inr rfl
    | (_, 1) => .inl rfl
    | (_, _ + 2) => .inr rfl

end Sensors

end Flash

end ValidityFprintd
