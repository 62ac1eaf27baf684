import ValidityFprintd.Bytes

/-! The sensor's capture-program format: type-length-value chunks, one of them a stream
of timeslot instructions. -/

namespace ValidityFprintd.Timeslot
open Effect

def chunkTimeslotTable : UInt16 := 0x34

def opRegisterWrite : UInt8 := 13

structure Chunk where
  kind : UInt16
  body : Bytes
  deriving DecidableEq

/-- Each chunk takes at least four bytes off. -/
def splitFrom : Nat → Bytes → Outcome String (List Chunk)
  | _, [] => .ok []
  | 0, _ :: _ => .stuck
  | fuel + 1, rest =>
    match rest with
    | k0 :: k1 :: s0 :: s1 :: tail => do
      let kind := Bytes.fromLe16 k0 k1
      let sz := (Bytes.fromLe16 s0 s1).toNat
      let body ← Outcome.ofOption
        s!"chunk {Bytes.hexNumber 4 kind.toNat} claims {sz} bytes, too few remain"
        (Bytes.range? tail 0 sz)
      let chunks ← splitFrom fuel (tail.drop sz)
      .ok (⟨kind, body⟩ :: chunks)
    | _ => .err s!"trailing bytes in capture program: {Bytes.hex rest}"

def splitChunks (b : Bytes) : Outcome String (List Chunk) := splitFrom b.length b

def mergeChunks (cs : List Chunk) : Bytes :=
  cs.flatMap fun c => Bytes.le16 c.kind ++ Bytes.le16 (Bytes.len16 c.body) ++ c.body

/-- A decoded instruction: opcode index, encoded size, operands. -/
structure Insn where
  op : UInt8
  size : Nat
  operands : List UInt32
  deriving DecidableEq

def orWhole (x : UInt8) : UInt32 := if x = 0 then 0x100 else x.toUInt32

/-- The bytes after the opcode of an instruction `n` bytes long. -/
def need (b : Bytes) (b0 : UInt8) (n : Nat) : Outcome String Unit :=
  Outcome.bailIf (b.length < n)
    s!"truncated instruction {Bytes.hexNumber 2 b0.toNat}: need {n} bytes, have {b.length}"

def decodeInsn (b : Bytes) : Outcome String Insn :=
  match b with
  | [] => .err "cannot decode an instruction from an empty buffer"
  | b0 :: _ =>
    if b0 ≤ 4 then .ok ⟨b0, 1, []⟩
    else if b0 = 5 then do
      need b b0 2
      let b1 ← Bytes.byteAt b 1
      .ok ⟨5, 2, [b1.toUInt32]⟩
    else if b0 = 6 then do
      need b b0 2
      let b1 ← Bytes.byteAt b 1
      .ok ⟨6, 2, [b1.toUInt32]⟩
    else if b0 = 7 then do
      need b b0 2
      let b1 ← Bytes.byteAt b 1
      .ok ⟨7, 2, [orWhole b1]⟩
    else if b0 &&& 0xfe = 0x08 then do
      need b b0 2
      let b1 ← Bytes.byteAt b 1
      .ok ⟨8, 2, [(b0.toUInt32 &&& 1) <<< 8 ||| b1.toUInt32]⟩
    else if b0 &&& 0xfe = 0x0a then do
      need b b0 2
      let b1 ← Bytes.byteAt b 1
      .ok ⟨9, 2, [(b0.toUInt32 &&& 1) <<< 8 ||| b1.toUInt32]⟩
    else if b0 &&& 0xfc = 0x0c then .ok ⟨10, 1, [b0.toUInt32 &&& 3]⟩
    else if b0 &&& 0xf8 = 0x10 then do
      need b b0 3
      let b1 ← Bytes.byteAt b 1
      let b2 ← Bytes.byteAt b 2
      .ok ⟨11, 3, [b0.toUInt32 &&& 7, b1.toUInt32 <<< 2, orWhole b2]⟩
    else if b0 &&& 0xe0 = 0x20 then .ok ⟨12, 1, [b0.toUInt32 &&& 0x1f]⟩
    else if b0 &&& 0xc0 = 0x40 then do
      need b b0 3
      let b1 ← Bytes.byteAt b 1
      let b2 ← Bytes.byteAt b 2
      .ok ⟨opRegisterWrite, 3,
        [(b0.toUInt32 &&& 0x3f) * 4 + 0x80002000, b1.toUInt32 ||| b2.toUInt32 <<< 8]⟩
    else if b0 &&& 0xc0 = 0x80 then
      .ok ⟨14, 1, [(b0.toUInt32 &&& 0x38) >>> 3, b0.toUInt32 &&& 7]⟩
    else do
      need b b0 2
      let b1 ← Bytes.byteAt b 1
      .ok ⟨15, 2, [(b0.toUInt32 &&& 0x38) >>> 3, b0.toUInt32 &&& 7, orWhole b1]⟩

/-- Every instruction takes at least a byte, so a table's length is fuel enough. -/
def findNth (p : Insn → Bool) (b : Bytes) : Nat → Nat → Nat → Outcome String (Option (Nat × Nat))
  | 0, pc, _ => if pc < b.length then .stuck else .ok none
  | fuel + 1, pc, n =>
    if pc < b.length then do
      let insn ← decodeInsn (b.drop pc)
      if p insn then
        if n - 1 = 0 then .ok (some (pc, insn.size))
        else findNth p b fuel (pc + insn.size) (n - 1)
      else findNth p b fuel (pc + insn.size) n
    else .ok none

def findNthInsn (b : Bytes) (opcode : UInt8) (n : Nat) : Outcome String (Option (Nat × Nat)) :=
  findNth (fun insn => insn.op = opcode) b b.length 0 n

def findNthRegwrite (b : Bytes) (regAddr : UInt32) (n : Nat) :
    Outcome String (Option (Nat × Nat)) :=
  findNth (fun insn => insn.op = opRegisterWrite ∧ insn.operands.head? = some regAddr) b
    b.length 0 n

end ValidityFprintd.Timeslot
