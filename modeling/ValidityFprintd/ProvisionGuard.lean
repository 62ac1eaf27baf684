import ValidityFprintd.PairingRecord
import ValidityFprintd.Returns

/-! Provisioning must not format a sensor that is partitioned. The guard looks at the parsed
rows of the partition table, so it holds exactly where the first row is all there; a table
cut off before that passes for a blank one. -/

namespace ValidityFprintd

namespace Provision
open Effect Crypto Flash

variable {S : Type}

/-- What a reply to `0x3e` says of the chip and of its partition table. -/
structure DeclaredFlash where
  jid0 : UInt16
  jid1 : UInt16
  blocks : UInt16
  blocksize : UInt16
  pcnt : UInt16
  table : Bytes

/-- A reply too short for the count declares nothing. -/
def declaredFlash : Bytes → Option DeclaredFlash
  | _ :: _ :: j0 :: j1 :: k0 :: k1 :: b0 :: b1 :: _ :: _ ::
      z0 :: z1 :: _ :: _ :: p0 :: p1 :: table =>
    some ⟨Bytes.fromLe16 j0 j1, Bytes.fromLe16 k0 k1, Bytes.fromLe16 b0 b1, Bytes.fromLe16 z0 z1,
      Bytes.fromLe16 p0 p1, table⟩
  | _ => none

def DeclaredFlash.ic (f : DeclaredFlash) : Option FlashIcInfo :=
  flashIcLookup f.jid0.toUInt32 f.jid1.toUInt32 (f.blocks.toUInt32 * f.blocksize.toUInt32)

def sentCommand : Sent S → Option Bytes
  | .inl e => (Usb.exchanged e).map Prod.fst
  | .inr e => (Usb.exchanged e).map Prod.fst

/-- The reset blob, or a command to partition, erase or write the flash. -/
def Destructive (resetBlob : ResetBlob) (e : Sent S) : Prop :=
  ∃ out, sentCommand e = some out ∧
    (out = resetBlob.val ∨ out.head? = some 0x4f ∨ out.head? = some 0x3f ∨ out.head? = some 0x41)

/-- Nothing destructive was sent, and the call ended in `false` or in an error. -/
structure LeftAlone (resetBlob : ResetBlob) (r : Result String (Sent S) S Bool) : Prop where
  spared : ∀ e ∈ r.log, ¬ Destructive resetBlob e
  declined : r.out = .ok false ∨ ∃ e, r.out = .err e

theorem partitionRows_eq_nil {n : Nat} {table : Bytes} :
    partitionRows n table = [] ↔ n = 0 ∨ table.length < 12 := by
  cases n with
  | zero => simp [partitionRows]
  | succ n =>
    match table with
    | _ :: _ :: _ :: _ :: _ :: _ :: _ :: _ :: _ :: _ :: _ :: _ :: _ => simp [partitionRows]
    | [] | [_] | [_, _] | [_, _, _] | [_, _, _, _] | [_, _, _, _, _] | [_, _, _, _, _, _]
    | [_, _, _, _, _, _, _] | [_, _, _, _, _, _, _, _] | [_, _, _, _, _, _, _, _, _]
    | [_, _, _, _, _, _, _, _, _, _] | [_, _, _, _, _, _, _, _, _, _, _] => simp [partitionRows]

section Info

variable {w : Usb.World S} {s t : S} {rsp : Bytes} {f : DeclaredFlash}

theorem getFlashInfo_run (answered : w (.cmd [0x3e]) s = (.ok rsp, t))
    (accepted : Usb.checkStatus rsp = .ok ()) (declared : declaredFlash rsp = some f) :
    getFlashInfo w s = ⟨.ok ⟨(f.jid0, f.jid1), f.blocks, f.blocksize,
      partitionRows f.pcnt.toNat f.table⟩, t, [⟨s, .cmd [0x3e], .ok rsp⟩]⟩ := by
  unfold getFlashInfo
  rw [Act.bind_run, Usb.request_ok _ answered accepted, Act.follow_ok]
  unfold declaredFlash at declared
  split at declared
  · obtain rfl := Option.some.inj declared
    rfl
  · cases declared

variable {C : Primitives} {P : Curve} {vid pid : UInt16} {blob : WriteEnable}
  {resetBlob : ResetBlob} {name serial : String} {rng : Rng}

theorem info_spared : ¬ Destructive resetBlob
    (.inl ⟨s, .cmd [0x3e], .ok rsp⟩ : Sent S) := by
  rintro ⟨out, sent, bad⟩
  obtain rfl : [0x3e] = out := Option.some.inj sent
  rcases bad with same | bad | bad | bad
  · have head := resetBlob.property
    rw [← same] at head
    cases head
  · cases bad
  · cases bad
  · cases bad

/-- The first thing the formatting does is to send the reset blob. -/
theorem exchange_destructive (w : Usb.World S) (resetBlob : ResetBlob) (c : String) (u : S) :
    ∃ e ∈ (probe (Usb.exchange w resetBlob.val c) u).log, Destructive resetBlob e := by
  obtain ⟨e, v, ⟨answer, sent⟩, ⟨_, run⟩ | ⟨_, err, run⟩⟩ := Usb.exchange_run w resetBlob.val c u
  · refine ⟨.inl e, ?_, resetBlob.val, by simp [sentCommand, sent], .inl rfl⟩
    simp [probe, Act.mapLog, run]
  · refine ⟨.inl e, ?_, resetBlob.val, by simp [sentCommand, sent], .inl rfl⟩
    simp [probe, Act.mapLog, run]

def DeclaredFlash.info (f : DeclaredFlash) : FlashInfo :=
  ⟨(f.jid0, f.jid1), f.blocks, f.blocksize, partitionRows f.pcnt.toNat f.table⟩

theorem initFlash_probed (answered : w (.cmd [0x3e]) s = (.ok rsp, t))
    (accepted : Usb.checkStatus rsp = .ok ()) (declared : declaredFlash rsp = some f) :
    initFlash C w P vid pid blob resetBlob name serial rng s =
      Act.follow ⟨.ok f.info, t, [.inl ⟨s, .cmd [0x3e], .ok rsp⟩]⟩ fun info =>
        if info.partitions ≠ [] then Act.ret false
        else formatFlash C w P vid pid blob resetBlob name serial rng info := by
  have probed : probe (getFlashInfo w) s = ⟨.ok f.info, t, [.inl ⟨s, .cmd [0x3e], .ok rsp⟩]⟩ := by
    rw [probe, Act.mapLog, getFlashInfo_run answered accepted declared]
    rfl
  rw [initFlash, Act.bind_run, probed]

theorem leftAlone_of (answered : w (.cmd [0x3e]) s = (.ok rsp, t))
    (accepted : Usb.checkStatus rsp = .ok ()) (declared : declaredFlash rsp = some f)
    (refused : f.info.partitions ≠ [] ∨ f.ic = none) :
    LeftAlone resetBlob (initFlash C w P vid pid blob resetBlob name serial rng s) := by
  rw [initFlash_probed answered accepted declared, Act.follow_ok]
  by_cases rows : f.info.partitions = []
  · have unknown := refused.resolve_left (not_not.mpr rows)
    have stops : formatFlash C w P vid pid blob resetBlob name serial rng f.info t =
        ⟨.err "unrecognised flash IC; refusing to partition", t, []⟩ := by
      have lookup : flashIcLookup f.info.jedecId.1.toUInt32 f.info.jedecId.2.toUInt32
          (f.info.blocks.toUInt32 * f.info.blocksize.toUInt32) = none := unknown
      rw [formatFlash, lookup]
      rfl
    rw [if_neg (not_not.mpr rows), stops]
    refine ⟨fun e mem => ?_, .inr ⟨_, rfl⟩⟩
    obtain rfl := List.mem_singleton.mp mem
    exact info_spared
  · rw [if_pos rows]
    refine ⟨fun e mem => ?_, .inl rfl⟩
    obtain rfl := List.mem_singleton.mp mem
    exact info_spared

theorem not_leftAlone_of (answered : w (.cmd [0x3e]) s = (.ok rsp, t))
    (accepted : Usb.checkStatus rsp = .ok ()) (declared : declaredFlash rsp = some f)
    (rows : f.info.partitions = []) {ic : FlashIcInfo} (known : f.ic = some ic) :
    ¬ LeftAlone resetBlob (initFlash C w P vid pid blob resetBlob name serial rng s) := by
  intro alone
  obtain ⟨e, mem, bad⟩ := exchange_destructive w resetBlob "sending the reset blob" t
  refine alone.spared e ?_ bad
  rw [initFlash_probed answered accepted declared, Act.follow_ok, if_neg (not_not.mpr rows)]
  refine List.mem_append_right _ ?_
  have lookup : flashIcLookup f.info.jedecId.1.toUInt32 f.info.jedecId.2.toUInt32
      (f.info.blocks.toUInt32 * f.info.blocksize.toUInt32) = some ic := known
  rw [formatFlash, lookup]
  exact Act.mem_bind_log.mpr (.inr ⟨ic, t, ⟨rfl, rfl⟩, Act.mem_bind_log.mpr (.inl mem)⟩)

/-- A sensor that declares partitions is left alone if and only if the first row of its table is
all there or its chip is not a known one. -/
theorem partitioned_left_alone (answered : w (.cmd [0x3e]) s = (.ok rsp, t))
    (accepted : Usb.checkStatus rsp = .ok ()) (declared : declaredFlash rsp = some f)
    (partitioned : f.pcnt ≠ 0) :
    LeftAlone resetBlob (initFlash C w P vid pid blob resetBlob name serial rng s) ↔
      12 ≤ f.table.length ∨ f.ic = none := by
  have count : f.pcnt.toNat ≠ 0 := fun zero => partitioned (UInt16.toNat_inj.mp zero)
  have rows : f.info.partitions ≠ [] ↔ 12 ≤ f.table.length := by
    rw [ne_eq, show f.info.partitions = partitionRows f.pcnt.toNat f.table from rfl,
      partitionRows_eq_nil, not_or, Nat.not_lt]
    exact and_iff_right count
  rw [← rows]
  constructor
  · intro alone
    by_contra formats
    rw [not_or, not_not] at formats
    obtain ⟨ic, known⟩ := Option.ne_none_iff_exists'.mp formats.2
    exact not_leftAlone_of answered accepted declared formats.1 known alone
  · exact leftAlone_of answered accepted declared

end Info

/-- What a sensor with a 1 MiB flash of five partitions says, of whose rows it sends `table`. -/
def fivePartitions (table : Bytes) : Bytes :=
  [0, 0] ++ Bytes.le16 0xef ++ Bytes.le16 0x40 ++ Bytes.le16 0x100 ++ [0, 0] ++
    Bytes.le16 0x1000 ++ [0, 0] ++ Bytes.le16 5 ++ table

/-- It refuses every other command. -/
def declaring (table : Bytes) : Usb.World Unit
  | .cmd [0x3e], s => (.ok (fivePartitions table), s)
  | .cmd _, s => (.ok [0x04, 0x04], s)
  | .pollInterrupt, s => (.error "", s)
  | .readData, s => (.error "", s)
  | .now, s => (0, s)
  | .current, s => (0, s)
  | .onStage _ _, s => ((), s)

theorem shortBlob_head : ([0x06, 0x02, 0x00, 0x00, 0x01] : Bytes).head? = some 0x06 := rfl

theorem partitioned_left_alone_row :
    LeftAlone ⟨[0x06, 0x02, 0x00, 0x00, 0x01], shortBlob_head⟩
      (initFlash Tls.plainPrimitives (declaring ([1, 4, 7, 0, 0, 0x10, 0, 0, 0, 0x10, 0, 0]))
        Pairing.vendorCurve 0x138a 0x0097 ⟨[0x06, 0x02, 0x00, 0x00, 0x01], shortBlob_head⟩
        ⟨[0x06, 0x02, 0x00, 0x00, 0x01], shortBlob_head⟩ "20HRCTO1WW" "PF0XKNNA" (fun _ => 7) ()) :=
  (partitioned_left_alone rfl (by decide) rfl (by decide)).mpr (.inl (by decide))

/-- The table is cut off within its first row, and the reset blob goes out. -/
theorem partitioned_not_left_alone :
    (declaredFlash (fivePartitions [1, 4, 7, 0])).map (·.pcnt) = some 5 ∧
    ¬ LeftAlone ⟨[0x06, 0x02, 0x00, 0x00, 0x01], shortBlob_head⟩
      (initFlash Tls.plainPrimitives (declaring [1, 4, 7, 0])
        Pairing.vendorCurve 0x138a 0x0097 ⟨[0x06, 0x02, 0x00, 0x00, 0x01], shortBlob_head⟩
        ⟨[0x06, 0x02, 0x00, 0x00, 0x01], shortBlob_head⟩ "20HRCTO1WW" "PF0XKNNA" (fun _ => 7) ()) := by
  have known : DeclaredFlash.ic ⟨0xef, 0x40, 0x100, 0x1000, 5, [1, 4, 7, 0]⟩ =
      some ⟨1048576, 0xef, 0x40, 0x1000, 0x20⟩ := by decide +kernel
  exact ⟨rfl, not_leftAlone_of rfl (by decide) rfl rfl known⟩

end Provision

end ValidityFprintd
