import ValidityFprintd.Usb

/-! Flash partition access: the reads, and the writes in their bracket of the vendor's
write-enable blob and a commit. -/

namespace ValidityFprintd
open Effect

/-- The signed unlock command of a device model, one of the tables under `blobs`. -/
def WriteEnable := { blob : Bytes // blob.head? = some 0x06 }

namespace Flash

variable {S : Type}

structure PartitionInfo where
  id : UInt8
  kind : UInt8
  accessLvl : UInt16
  offset : UInt32
  size : UInt32
  deriving DecidableEq

structure FlashInfo where
  jedecId : UInt16 × UInt16
  blocks : UInt16
  blocksize : UInt16
  partitions : List PartitionInfo

/-- The rows of a partition table, up to the first that is not all there. -/
def partitionRows : Nat → Bytes → List PartitionInfo
  | n + 1, id :: kind :: a0 :: a1 :: o0 :: o1 :: o2 :: o3 :: z0 :: z1 :: z2 :: z3 :: table =>
    ⟨id, kind, Bytes.fromLe16 a0 a1, Bytes.fromLe32 o0 o1 o2 o3, Bytes.fromLe32 z0 z1 z2 z3⟩ ::
      partitionRows n table
  | _, _ => []

def getFlashInfo (w : Usb.World S) : Usb.Drv S FlashInfo := do
  let rsp ← Usb.request w [0x3e] "flash info command (0x3e)"
  let body ← Bytes.sliceFrom rsp 2
  Act.bailIf (body.length < 0xe) s!"flash info reply too short: {body.length} bytes"
  let jid0 ← Act.ofOutcome (Bytes.rd16 body 0)
  let jid1 ← Act.ofOutcome (Bytes.rd16 body 2)
  let blocks ← Act.ofOutcome (Bytes.rd16 body 4)
  let blocksize ← Act.ofOutcome (Bytes.rd16 body 8)
  let pcnt ← Act.ofOutcome (Bytes.rd16 body 12)
  let table ← Bytes.sliceFrom body 0xe
  Act.ret ⟨(jid0, jid1), blocks, blocksize, partitionRows pcnt.toNat table⟩

def readFlash (w : Usb.World S) (partition : UInt8) (addr size : UInt32) : Usb.Drv S Bytes := do
  let rsp ← Usb.request w
    ([0x40, partition, 1] ++ Bytes.le16 0 ++ Bytes.le32 addr ++ Bytes.le32 size)
    "flash read command (0x40)"
  Act.bailIf (rsp.length < 8) s!"flash read reply too short: {rsp.length} bytes"
  let sz ← Act.ofOutcome (Bytes.rd32 rsp 2)
  Act.bailIf (rsp.length < 8 + sz.toNat)
    s!"flash read claimed {sz} bytes but reply holds {rsp.length - 8}"
  Bytes.slice rsp 8 (8 + sz.toNat)

def readBlocks (w : Usb.World S) (partition : UInt8) : Nat → UInt32 → Usb.Drv S Bytes
  | 0, _ => Act.ret []
  | n + 1, addr => do
    let block ← readFlash w partition addr 0x1000
    let rest ← readBlocks w partition n (addr + 0x1000)
    Act.ret (block ++ rest)

def readFlashAll (w : Usb.World S) (partition : UInt8) (start size : UInt32) : Usb.Drv S Bytes := do
  let out ← readBlocks w partition ((size.toNat + 0xfff) / 0x1000) start
  Act.ret (out.take size.toNat)

def statusNothingToCommit : UInt16 := 0x0491

def writeEnable (w : Usb.World S) (blob : WriteEnable) : Usb.Drv S Unit :=
  Usb.exchange w blob.val "enabling database writes"

def callCleanups (w : Usb.World S) : Usb.Drv S Unit := do
  let rsp ← Usb.cmd w [0x1a]
  if Usb.statusIs statusNothingToCommit rsp then Act.ret ()
  else Act.mapErr (Usb.context "committing database writes") (Usb.check rsp)

/-- Commit, and only then look at how the write went. -/
def closing {α : Type} (w : Usb.World S) (result : Except String α) : Usb.Drv S α := do
  let cleanup ← Act.attempt (callCleanups w)
  let a ← Act.lift result
  Act.lift cleanup
  Act.ret a

/-- Unlock, write, commit: the commit follows however the write ended. -/
def commitAfter {α : Type} (w : Usb.World S) (blob : WriteEnable) (write : Usb.Drv S α) :
    Usb.Drv S α := do
  writeEnable w blob
  let result ← Act.attempt write
  closing w result

/-- Unlock, write, commit, as the flash writes do it: a failed transfer of the write
returns before the commit. -/
def commitAfterReply (w : Usb.World S) (blob : WriteEnable) (out : Bytes) (c : String) :
    Usb.Drv S Unit := do
  writeEnable w blob
  let rsp ← Usb.cmd w out
  closing w ((Usb.checkStatus rsp).mapError (Usb.context c))

def eraseFlash (w : Usb.World S) (blob : WriteEnable) (partition : UInt8) : Usb.Drv S Unit :=
  commitAfterReply w blob [0x3f, partition] "erasing partition"

def writeFlash (w : Usb.World S) (blob : WriteEnable) (partition : UInt8) (addr : UInt32)
    (buf : Bytes) : Usb.Drv S Unit :=
  commitAfterReply w blob ([0x41, partition, 1] ++ Bytes.le16 0 ++ Bytes.le32 addr ++
    Bytes.le32 (Bytes.len32 buf) ++ buf) "writing flash"

def writeChunks (w : Usb.World S) (blob : WriteEnable) (partition : UInt8) :
    UInt32 → List Bytes → Usb.Drv S Unit
  | _, [] => Act.ret ()
  | addr, chunk :: chunks => do
    writeFlash w blob partition addr chunk
    writeChunks w blob partition (addr + Bytes.len32 chunk) chunks

def writeFlashAll (w : Usb.World S) (blob : WriteEnable) (partition : UInt8) (start : UInt32)
    (buf : Bytes) : Usb.Drv S Unit :=
  writeChunks w blob partition start (Bytes.chunks 0x1000 buf)

end Flash

end ValidityFprintd
