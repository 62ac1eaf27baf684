import ValidityFprintd.Codec
import ValidityFprintd.Timeslot

/-! Capture programs read back: splitting undoes merging, for bodies that a 16-bit length can
announce. -/

namespace ValidityFprintd.Timeslot
open Effect

def Chunk.encode (c : Chunk) : Bytes :=
  Bytes.le16 c.kind ++ Bytes.le16 (Bytes.len16 c.body) ++ c.body

theorem mergeChunks_eq (cs : List Chunk) : mergeChunks cs = cs.flatMap Chunk.encode := rfl

theorem Chunk.encode_length (c : Chunk) : c.encode.length = c.body.length + 4 := by
  simp only [encode, List.length_append, Bytes.le16_length]
  omega

theorem Chunk.encode_front {c c' : Chunk} {r r' : Bytes} (fits : c.body.length < 65536)
    (fits' : c'.body.length < 65536) (whole : c.encode ++ r = c'.encode ++ r') : c = c' := by
  obtain ⟨kind, body⟩ := c
  obtain ⟨kind', body'⟩ := c'
  simp only [Chunk.encode, List.append_assoc] at whole
  obtain ⟨kinds, whole⟩ := List.append_inj whole rfl
  obtain ⟨sizes, whole⟩ := List.append_inj whole rfl
  have size : body.length = body'.length := by
    rw [← Bytes.len16_toNat fits, ← Bytes.len16_toNat fits', Bytes.le16_inj sizes]
  rw [Bytes.le16_inj kinds, (List.append_inj whole size).1]

theorem Chunk.encode_append_ne_nil (c : Chunk) (r : Bytes) : c.encode ++ r ≠ [] := by
  intro none
  have size := congrArg List.length none
  rw [List.length_append, c.encode_length, List.length_nil] at size
  omega

def chunkFormat : Codec.Format UInt8 Chunk where
  encode := Chunk.encode
  Valid c := c.body.length < 65536
  Tail b := b = []
  front := Chunk.encode_front
  apart {c r} _ := c.encode_append_ne_nil r

variable {b : Bytes} {cs : List Chunk} {fuel : Nat}

theorem splitFrom_cases (split : splitFrom fuel b = .ok cs) :
    b = [] ∧ cs = [] ∨
      ∃ fuel' c rest later, fuel = fuel' + 1 ∧ cs = c :: later ∧ c.body.length < 65536 ∧
        b = c.encode ++ rest ∧ splitFrom fuel' rest = .ok later := by
  match fuel, b, split with
  | _, [], split =>
    rw [splitFrom] at split
    exact .inl ⟨rfl, (Outcome.ok.inj split).symm⟩
  | 0, _ :: _, split => cases split
  | fuel + 1, [_], split | fuel + 1, [_, _], split | fuel + 1, [_, _, _], split => cases split
  | fuel + 1, k0 :: k1 :: s0 :: s1 :: tail, split =>
    rw [splitFrom] at split
    obtain ⟨body, got, split⟩ := Outcome.bind_eq_ok.mp split
    obtain ⟨later, next, split⟩ := Outcome.bind_eq_ok.mp split
    obtain ⟨inside, same⟩ := Option.ite_none_right_eq_some.mp (Outcome.ofOption_eq_ok.mp got)
    obtain rfl := Option.some.inj same
    have size : (tail.take (Bytes.fromLe16 s0 s1).toNat).length =
        (Bytes.fromLe16 s0 s1).toNat := by
      rw [List.length_take, Nat.min_eq_left inside.2]
    refine .inr ⟨fuel, _, _, later, rfl, (Outcome.ok.inj split).symm, ?_, ?_, next⟩
    · rw [List.drop_zero, size]
      exact (Bytes.fromLe16 s0 s1).toNat_lt
    · rw [Chunk.encode, List.drop_zero, Bytes.len16, size, UInt16.ofNat_toNat,
        Bytes.le16_fromLe16, Bytes.le16_fromLe16]
      simp only [List.cons_append, List.nil_append, List.take_append_drop]

theorem splitFrom_chunk {c : Chunk} (fits : c.body.length < 65536) {rest : Bytes}
    (next : splitFrom fuel rest = .ok cs) :
    splitFrom (fuel + 1) (c.encode ++ rest) = .ok (c :: cs) := by
  have size : (Bytes.fromLe16 (UInt8.ofNat (Bytes.len16 c.body).toNat)
      (UInt8.ofNat ((Bytes.len16 c.body).toNat / 256))).toNat = c.body.length := by
    rw [Bytes.fromLe16_le16, Bytes.len16_toNat fits]
  have body : Bytes.range? (c.body ++ rest) 0 c.body.length = some c.body :=
    Bytes.range?_at [] rest rfl rfl (Nat.zero_add _).symm
  simp only [Chunk.encode, Bytes.le16, List.cons_append, List.nil_append, splitFrom, size]
  rw [body, List.drop_left, next, Bytes.fromLe16_le16]
  rfl

theorem splitFrom_reads (h : chunkFormat.Reads b cs) (enough : b.length ≤ fuel) :
    splitFrom fuel b = .ok cs := by
  induction h generalizing fuel with
  | tail stop =>
    cases stop
    rw [splitFrom]
  | @item c r later valid rest ih =>
    have size : (c.encode ++ r).length = c.body.length + 4 + r.length := by
      rw [List.length_append, c.encode_length]
    replace enough : c.body.length + 4 + r.length ≤ fuel := size ▸ enough
    obtain ⟨fuel, rfl⟩ := Nat.exists_eq_add_one_of_ne_zero (show fuel ≠ 0 by omega)
    exact splitFrom_chunk valid (ih (by omega))

/-- The programs that split are the strings of chunks. -/
theorem splitChunks_reads : splitChunks b = .ok cs ↔ chunkFormat.Reads b cs := by
  constructor
  · rw [splitChunks]
    generalize b.length = fuel
    intro split
    induction cs generalizing b fuel with
    | nil =>
      obtain ⟨rfl, _⟩ | ⟨_, _, _, _, _, more, _⟩ := splitFrom_cases split
      · exact .tail rfl
      · cases more
    | cons c later ih =>
      obtain ⟨_, none⟩ | ⟨_, _, rest, _, _, same, fits, rfl, next⟩ := splitFrom_cases split
      · cases none
      · cases same
        exact .item (F := chunkFormat) fits (ih _ next)
  · intro reads
    exact splitFrom_reads reads (Nat.le_refl _)

theorem splitChunks_fit (split : splitChunks b = .ok cs) : ∀ c ∈ cs, c.body.length < 65536 :=
  (Codec.Format.reads_iff.mp (splitChunks_reads.mp split)).1

/-- Splitting undoes merging exactly when every length fits its field. -/
theorem splitChunks_mergeChunks :
    splitChunks (mergeChunks cs) = .ok cs ↔ ∀ c ∈ cs, c.body.length < 65536 := by
  rw [splitChunks_reads, mergeChunks_eq]
  exact Codec.Format.reads_encoded (F := chunkFormat) Iff.rfl

/-- A program: for each chunk a kind, a length and a body of that length. -/
inductive Program : Bytes → List Chunk → Prop
  | done : Program [] []
  | chunk {kind size : UInt16} {body rest : Bytes} {cs : List Chunk}
      (length : body.length = size.toNat) (later : Program rest cs) :
      Program (Bytes.le16 kind ++ Bytes.le16 size ++ body ++ rest) (⟨kind, body⟩ :: cs)

theorem program_reads : Program b cs ↔ chunkFormat.Reads b cs := by
  constructor
  · intro program
    induction program with
    | done => exact .tail rfl
    | @chunk kind size body rest cs length _ ih =>
      have same : Bytes.len16 body = size := by
        rw [Bytes.len16, length, UInt16.ofNat_toNat]
      have fits : body.length < 65536 := length ▸ size.toNat_lt
      have item : Chunk.encode ⟨kind, body⟩ = Bytes.le16 kind ++ Bytes.le16 size ++ body := by
        rw [Chunk.encode, same]
      rw [← item]
      exact .item (F := chunkFormat) (a := ⟨kind, body⟩) fits ih
  · intro reads
    induction reads with
    | tail stop =>
      cases stop
      exact .done
    | @item c r later valid _ ih => exact .chunk (Bytes.len16_toNat valid).symm ih

theorem splitFrom_returned (enough : b.length ≤ fuel) : Returned (splitFrom fuel b).kind := by
  induction fuel generalizing b with
  | zero =>
    obtain rfl := List.length_eq_zero_iff.mp (Nat.le_zero.mp enough)
    exact .value
  | succ fuel ih =>
    match b with
    | [] => exact .value
    | [_] | [_, _] | [_, _, _] => exact .error
    | k0 :: k1 :: s0 :: s1 :: tail =>
      have size : (k0 :: k1 :: s0 :: s1 :: tail).length = tail.length + 4 := rfl
      refine Outcome.bind_returned (Outcome.ofOption_returned _ _) fun body _ => ?_
      refine Outcome.bind_returned (ih ?_) fun later _ => .value
      rw [List.length_drop]
      omega

theorem mergeChunks_append (cs ds : List Chunk) :
    mergeChunks (cs ++ ds) = mergeChunks cs ++ mergeChunks ds := List.flatMap_append

/-- Splitting accepts the programs and nothing else, and merging is its inverse. -/
theorem split_merge_inverse :
    (∀ b cs, (splitChunks b = .ok cs ↔ Program b cs) ∧
      (splitChunks b = .ok cs → mergeChunks cs = b)) ∧
    (∀ b, (¬ ∃ cs, Program b cs) → ∃ e, splitChunks b = .err e) ∧
    (∀ cs : List Chunk, (∀ c ∈ cs, c.body.length ≤ 65535) →
      splitChunks (mergeChunks cs) = .ok cs) ∧
    ∀ cs ds, mergeChunks (cs ++ ds) = mergeChunks cs ++ mergeChunks ds := by
  have accepts : ∀ b cs, splitChunks b = .ok cs ↔ Program b cs := fun b cs =>
    splitChunks_reads.trans program_reads.symm
  refine ⟨fun b cs => ⟨accepts b cs, fun split => ?_⟩, fun b none => ?_, fun cs fit => ?_,
    mergeChunks_append⟩
  · obtain ⟨_, tail, rfl, whole⟩ := Codec.Format.reads_iff.mp (splitChunks_reads.mp split)
    rw [mergeChunks_eq, whole, List.append_nil]
    rfl
  · have returned : Returned (splitChunks b).kind := splitFrom_returned (Nat.le_refl _)
    obtain ⟨cs, split⟩ | failed := Outcome.eq_of_returned returned
    · exact absurd ⟨cs, (accepts b cs).mp split⟩ none
    · exact failed
  · exact splitChunks_mergeChunks.mpr fun c mem => Nat.lt_succ_of_le (fit c mem)

end ValidityFprintd.Timeslot
