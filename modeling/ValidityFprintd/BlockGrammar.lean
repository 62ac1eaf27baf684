import ValidityFprintd.Codec
import ValidityFprintd.PairingRecord

/-! The grammar of the pairing record: blocks one after another, up to a remainder too short
for a header or one that begins with the end marker. -/

namespace ValidityFprintd.Pairing
open Effect Crypto Provision

variable (C : Primitives)

/-- A remainder that holds no block header, or the end marker. -/
def RecordEnd (data : Bytes) : Prop := data.length < 36 ∨ [0xff, 0xff] <+: data

theorem tlsFlashBlock_front {b b' : FlashBlock} {r r' : Bytes} (fits : b.body.length < 65536)
    (fits' : b'.body.length < 65536)
    (whole : tlsFlashBlock C b.id b.body ++ r = tlsFlashBlock C b'.id b'.body ++ r') : b = b' := by
  obtain ⟨id, body⟩ := b
  obtain ⟨id', body'⟩ := b'
  simp only [tlsFlashBlock, List.append_assoc] at whole
  obtain ⟨ids, whole⟩ := List.append_inj whole rfl
  obtain ⟨sizes, whole⟩ := List.append_inj whole rfl
  obtain ⟨_, whole⟩ := List.append_inj whole
    (Vector.length_toList.trans Vector.length_toList.symm)
  have size : body.length = body'.length := by
    rw [← Bytes.len16_toNat fits, ← Bytes.len16_toNat fits', Bytes.le16_inj sizes]
  rw [Bytes.le16_inj ids, (List.append_inj whole size).1]

theorem tlsFlashBlock_apart {b : FlashBlock} {r : Bytes} (live : b.id ≠ blockEnd) :
    ¬ RecordEnd (tlsFlashBlock C b.id b.body ++ r) := by
  rintro (short | ⟨rest, marked⟩)
  · simp only [tlsFlashBlock, List.length_append, Bytes.le16_length, Vector.length_toList]
      at short
    omega
  · simp only [tlsFlashBlock, List.append_assoc] at marked
    have ids : Bytes.le16 blockEnd = Bytes.le16 b.id := (List.append_inj marked rfl).1
    exact live (Bytes.le16_inj ids.symm)

/-- Blocks as `tlsFlashBlock` writes them. -/
def blockFormat : Codec.Format UInt8 FlashBlock where
  encode b := tlsFlashBlock C b.id b.body
  Valid b := b.id ≠ blockEnd ∧ b.body.length < 65536
  Tail := RecordEnd
  front valid valid' whole := tlsFlashBlock_front C valid.2 valid'.2 whole
  apart valid := tlsFlashBlock_apart C valid.1

variable {C} {data : Bytes} {blocks : List FlashBlock}

theorem recordEnd_header {i0 i1 s0 s1 : UInt8} {tail : Bytes} :
    RecordEnd (i0 :: i1 :: s0 :: s1 :: tail) ↔
      tail.length < 32 ∨ Bytes.fromLe16 i0 i1 = blockEnd := by
  have marked : [0xff, 0xff] <+: i0 :: i1 :: s0 :: s1 :: tail ↔
      Bytes.fromLe16 i0 i1 = blockEnd := by
    have ids : Bytes.le16 blockEnd = [0xff, 0xff] := rfl
    rw [← ids]
    constructor
    · rintro ⟨rest, whole⟩
      have front : Bytes.le16 blockEnd = [i0, i1] :=
        (List.append_inj (show _ ++ rest = [i0, i1] ++ s0 :: s1 :: tail from whole) rfl).1
      rw [← Bytes.le16_fromLe16] at front
      exact (Bytes.le16_inj front).symm
    · rintro id
      rw [← id, Bytes.le16_fromLe16]
      exact ⟨s0 :: s1 :: tail, rfl⟩
  have size : (i0 :: i1 :: s0 :: s1 :: tail).length < 36 ↔ tail.length < 32 := by
    simp only [List.length_cons]
    omega
  rw [RecordEnd, marked, size]

theorem parseFlashBlocks_end (stop : RecordEnd data) : parseFlashBlocks C data = .ok [] := by
  match data, stop with
  | [], _ | [_], _ | [_, _], _ | [_, _, _], _ => rw [parseFlashBlocks]; simp
  | i0 :: i1 :: s0 :: s1 :: tail, stop =>
    rw [parseFlashBlocks]
    exact if_pos (recordEnd_header.mp stop)

theorem tlsFlashBlock_of_header {i0 i1 s0 s1 : UInt8} {tail : Bytes}
    (long : (Bytes.fromLe16 s0 s1).toNat ≤ (tail.drop 32).length)
    (digest : (C.sha256 ((tail.drop 32).take (Bytes.fromLe16 s0 s1).toNat)).toList = tail.take 32) :
    i0 :: i1 :: s0 :: s1 :: tail =
      tlsFlashBlock C (Bytes.fromLe16 i0 i1) ((tail.drop 32).take (Bytes.fromLe16 s0 s1).toNat) ++
        (tail.drop 32).drop (Bytes.fromLe16 s0 s1).toNat := by
  have size : Bytes.len16 ((tail.drop 32).take (Bytes.fromLe16 s0 s1).toNat) =
      Bytes.fromLe16 s0 s1 := by
    rw [Bytes.len16, List.length_take, Nat.min_eq_left long, UInt16.ofNat_toNat]
  rw [tlsFlashBlock, size, digest, Bytes.le16_fromLe16, Bytes.le16_fromLe16]
  simp only [List.append_assoc, List.cons_append, List.nil_append, List.take_append_drop]

theorem header_of_long (long : 4 ≤ data.length) :
    ∃ i0 i1 s0 s1 tail, data = i0 :: i1 :: s0 :: s1 :: tail := by
  rcases data with _ | ⟨i0, _ | ⟨i1, _ | ⟨s0, _ | ⟨s1, tail⟩⟩⟩⟩
  · exact absurd long (show ¬ 4 ≤ 0 by decide)
  · exact absurd long (show ¬ 4 ≤ 1 by decide)
  · exact absurd long (show ¬ 4 ≤ 2 by decide)
  · exact absurd long (show ¬ 4 ≤ 3 by decide)
  · exact ⟨i0, i1, s0, s1, tail, rfl⟩

/-- Either the record ends here, or its first block is one that was written. -/
theorem parseFlashBlocks_cases (parsed : parseFlashBlocks C data = .ok blocks) :
    RecordEnd data ∧ blocks = [] ∨
      ∃ b rest later, blocks = b :: later ∧ (b.id ≠ blockEnd ∧ b.body.length < 65536) ∧
        data = tlsFlashBlock C b.id b.body ++ rest ∧ parseFlashBlocks C rest = .ok later := by
  by_cases stop : RecordEnd data
  · rw [parseFlashBlocks_end stop] at parsed
    exact .inl ⟨stop, (Except.ok.inj parsed).symm⟩
  · have header : 36 ≤ data.length := Nat.not_lt.mp fun short => stop (.inl short)
    obtain ⟨i0, i1, s0, s1, tail, rfl⟩ := header_of_long (Nat.le_trans (by decide) header)
    rw [parseFlashBlocks, if_neg (mt recordEnd_header.mpr stop)] at parsed
    dsimp only at parsed
    split at parsed
    · cases parsed
    · rename_i long
      split at parsed
      · cases parsed
      · rename_i digest
        have fits : ((tail.drop 32).take (Bytes.fromLe16 s0 s1).toNat).length < 65536 := by
          have bound := (Bytes.fromLe16 s0 s1).toNat_lt
          rw [List.length_take]
          omega
        cases next : parseFlashBlocks C ((tail.drop 32).drop (Bytes.fromLe16 s0 s1).toNat) with
        | error e =>
          rw [next] at parsed
          cases parsed
        | ok later =>
          rw [next] at parsed
          exact .inr ⟨⟨_, _⟩, _, later, (Except.ok.inj parsed).symm,
            ⟨fun id => stop (recordEnd_header.mpr (.inr id)), fits⟩,
            tlsFlashBlock_of_header (Nat.not_lt.mp long) (not_not.mp digest), next⟩

theorem parseFlashBlocks_reads : parseFlashBlocks C data = .ok blocks ↔
    (blockFormat C).Reads data blocks := by
  constructor
  · intro parsed
    induction blocks generalizing data with
    | nil =>
      obtain ⟨stop, _⟩ | ⟨_, _, _, more, _⟩ := parseFlashBlocks_cases parsed
      · exact .tail stop
      · cases more
    | cons b later ih =>
      obtain ⟨_, none⟩ | ⟨_, rest, _, same, valid, rfl, next⟩ := parseFlashBlocks_cases parsed
      · cases none
      · cases same
        exact .item (F := blockFormat C) valid (ih next)
  · intro reads
    induction reads with
    | tail stop => exact parseFlashBlocks_end stop
    | item valid _ ih => exact parseFlashBlocks_block valid.1 valid.2 ih

/-- A well-formed pairing record, and its blocks. -/
def Record (C : Primitives) (data : Bytes) (blocks : List FlashBlock) : Prop :=
  (∀ b ∈ blocks, b.id ≠ 0xffff ∧ b.body.length ≤ 65535) ∧
    ∃ tail, (tail.length < 36 ∨ [0xff, 0xff] <+: tail) ∧
      data = (blocks.flatMap fun b => tlsFlashBlock C b.id b.body) ++ tail

theorem record_iff_reads : Record C data blocks ↔ (blockFormat C).Reads data blocks := by
  have sizes : (∀ b ∈ blocks, b.id ≠ 0xffff ∧ b.body.length ≤ 65535) ↔
      ∀ b ∈ blocks, (blockFormat C).Valid b :=
    forall₂_congr fun b _ => and_congr_right fun _ => Nat.lt_succ_iff.symm
  rw [Record, sizes, Codec.Format.reads_iff]
  rfl

/-- The parser accepts the well-formed records and nothing else, and gives the only blocks such
a record can hold. -/
theorem parseFlashBlocks_grammar (C : Primitives) (data : Bytes) :
    (∀ blocks, parseFlashBlocks C data = .ok blocks ↔ Record C data blocks) ∧
    (∀ blocks blocks', Record C data blocks → Record C data blocks' → blocks = blocks') ∧
    ((¬ ∃ blocks, Record C data blocks) ↔ ∃ e, parseFlashBlocks C data = .error e) := by
  have accepts : ∀ blocks, parseFlashBlocks C data = .ok blocks ↔ Record C data blocks :=
    fun blocks => parseFlashBlocks_reads.trans record_iff_reads.symm
  refine ⟨accepts, fun blocks blocks' h h' => ?_, ?_⟩
  · exact (record_iff_reads.mp h).unique (record_iff_reads.mp h')
  · cases parsed : parseFlashBlocks C data with
    | ok blocks => simpa using ⟨blocks, (accepts blocks).mp parsed⟩
    | error e =>
      have none : ¬ ∃ blocks, Record C data blocks := by
        rintro ⟨blocks, held⟩
        rw [(accepts blocks).mpr held] at parsed
        cases parsed
      exact ⟨fun _ => ⟨e, rfl⟩, fun _ => none⟩

end ValidityFprintd.Pairing
