import ValidityFprintd.FlashReader
import ValidityFprintd.Returns

/-! Transfers of a whole buffer to and from a partition of any size: the chunks a write cuts it
into and the blocks a read asks for cover the same span. -/

namespace ValidityFprintd.Flash
open Effect

variable {S : Type} {w : Usb.World S} {partition : UInt8} {size : UInt32} {part : S → Bytes}

/-- A sensor whose partition is the bytes `part`. It reads any span inside them, and what it
accepts it has written; a write that fails may have done anything to its own span. -/
structure Stores (w : Usb.World S) (partition : UInt8) (size : UInt32) (part : S → Bytes) :
    Prop where
  length : ∀ s, (part s).length = size.toNat
  reads : ∀ {addr n : UInt32} s, addr.toNat + n.toNat ≤ size.toNat → ∃ rsp t,
    w (.cmd (readCommand partition addr n)) s = (.ok rsp, t) ∧
      ReadReply rsp (((part s).drop addr.toNat).take n.toNat) ∧ part t = part s
  writes : ∀ {addr : UInt32} {buf rsp : Bytes} {s t}, addr.toNat + buf.length ≤ size.toNat →
    w (.cmd (writeCommand partition addr buf)) s = (.ok rsp, t) → Usb.checkStatus rsp = .ok () →
      part t = Partition.splice (part s) addr.toNat buf
  spans : ∀ (addr : UInt32) (buf : Bytes) s i, i < addr.toNat ∨ addr.toNat + buf.length ≤ i →
    (part (w (.cmd (writeCommand partition addr buf)) s).2)[i]? = (part s)[i]?
  unlocks : ∀ (blob : WriteEnable) s, part (w (.cmd blob.val) s).2 = part s
  commits : ∀ s, part (w (.cmd [0x1a]) s).2 = part s

theorem Stores.reader (h : Stores w partition size part) :
    Reader w partition (fun s i => (part s).getD i 0) fun addr n => addr + n ≤ size.toNat where
  answers {addr n} s ok := by
    obtain ⟨rsp, t, answered, reply, kept⟩ := h.reads s ok
    refine ⟨rsp, t, answered, ?_, by rw [kept]⟩
    rw [window_eq (b := part s) (by rw [h.length]; exact ok) fun i hi => by simp [hi]]
    exact reply

theorem Stores.readFlashAll (h : Stores w partition size part) {start n : UInt32} {s : S}
    (room : start.toNat + (n.toNat + 0xfff) / 0x1000 * 0x1000 ≤ size.toNat) :
    ∃ t, Yields (readFlashAll w partition start n) s
      (((part s).drop start.toNat).take n.toNat) t := by
  have small := size.toNat_lt
  have inside : Spans (fun addr n => addr + n ≤ size.toNat) start.toNat n.toNat := by
    intro k hk
    omega
  obtain ⟨t, all, _⟩ := h.reader.readFlashAll (s := s) (by omega) inside
  rw [window_eq (b := part s) (by rw [h.length]; omega) fun i hi => by simp [hi]] at all
  exact ⟨t, all⟩

/-! The writes a run sent, in the order it sent them. -/

def wrote (e : Usb.Entry S) : Option Bytes :=
  match Usb.exchanged e with
  | some (0x41 :: rest, _) => some (0x41 :: rest)
  | _ => none

def writesIn (l : List (Usb.Entry S)) : List Bytes := l.filterMap wrote

/-- Nothing is written, and the partition stays as it is. -/
def Quiet (part : S → Bytes) (s : S) (l : List (Usb.Entry S)) (t : S) : Prop :=
  part t = part s ∧ writesIn l = []

instance quiet_composes (part : S → Bytes) : Composes (Quiet part) where
  nil := fun _ => ⟨rfl, rfl⟩
  append := by
    intro s t u l m first second
    refine ⟨second.1.trans first.1, ?_⟩
    rw [writesIn, List.filterMap_append]
    exact List.append_eq_nil_iff.mpr ⟨first.2, second.2⟩

theorem ask_quiet {c : UInt8} {rest : Bytes} (other : c ≠ 0x41)
    (keeps : ∀ s, part (w (.cmd (c :: rest)) s).2 = part s) :
    Traffic.Asking w (Quiet part) (.cmd (c :: rest)) := by
  intro s
  refine ⟨keeps s, ?_⟩
  have none : wrote (⟨s, .cmd (c :: rest), (w (.cmd (c :: rest)) s).1⟩ : Usb.Entry S) = none := by
    unfold wrote Usb.exchanged
    split
    · rename_i same
      cases same
      exact absurd rfl other
    · rfl
  rw [World.ask_run, writesIn, List.filterMap_cons, none]
  rfl

section Writing

variable (h : Stores w partition size part) (blob : WriteEnable)

include h

theorem Stores.unlock_quiet : Respects (Quiet part) (writeEnable w blob) := by
  refine Traffic.exchange_respects ?_ _
  obtain ⟨out, head⟩ := blob
  match out, head with
  | c :: rest, head =>
    obtain rfl := Option.some.inj head
    exact ask_quiet (by decide) fun s => h.unlocks ⟨_, head⟩ s

theorem Stores.closing_quiet (result : Except String Unit) :
    Respects (Quiet part) (closing w result) := by
  have commit : Respects (Quiet part) (callCleanups w) := by
    refine .bind (Traffic.cmd_respects (ask_quiet (by decide) h.commits)) fun rsp => ?_
    exact .ite (.ret _) (.mapErr _ (.lift _))
  exact .bind (.attempt commit) fun _ => .bind (.lift _) fun _ => .bind (.lift _) fun _ => .ret _

omit h in
theorem writeFlash_returned (addr : UInt32) (buf : Bytes) :
    Within Returned (writeFlash w blob partition addr buf) := by
  refine .bind (Returns.exchange_returned w _ _) fun _ => ?_
  refine .bind (Returns.cmd_returned w _) fun _ => ?_
  refine .bind (Returns.attempt_returned (Returns.callCleanups_returned w)) fun _ => ?_
  exact .bind (.lift .value .error _) fun _ => .bind (.lift .value .error _) fun _ =>
    .ret .value _

omit h in
theorem cmd_traffic (out : Bytes) (s : S) : (Usb.cmd w out s).state = (w (.cmd out) s).2 ∧
    (Usb.cmd w out s).log = [⟨s, .cmd out, (w (.cmd out) s).1⟩] := by
  have run : Usb.cmd w out s = Act.follow (w.ask (.cmd out) s) Act.lift := rfl
  rw [run, World.ask_run, Act.follow_ok]
  cases (w (.cmd out) s).1 <;> exact ⟨rfl, rfl⟩

omit h in
theorem writesIn_command {addr : UInt32} {buf : Bytes} {s t u : S}
    (answer : Usb.Query.Answer (.cmd (writeCommand partition addr buf)))
    {l : List (Usb.Entry S)} (rest : Quiet part t l u) :
    writesIn (⟨s, .cmd (writeCommand partition addr buf), answer⟩ :: l) =
      [writeCommand partition addr buf] := by
  have head : wrote (⟨s, .cmd (writeCommand partition addr buf), answer⟩ : Usb.Entry S) =
      some (writeCommand partition addr buf) := rfl
  rw [writesIn, List.filterMap_cons, head]
  exact congrArg _ rest.2

theorem Stores.writeFlash_traffic (addr : UInt32) (buf : Bytes) (s : S) :
    ((∀ u, (writeFlash w blob partition addr buf s).out ≠ .ok u) ∧
      Quiet part s (writeFlash w blob partition addr buf s).log
        (writeFlash w blob partition addr buf s).state) ∨
    (writesIn (writeFlash w blob partition addr buf s).log = [writeCommand partition addr buf] ∧
      ∀ i, i < addr.toNat ∨ addr.toNat + buf.length ≤ i →
        (part (writeFlash w blob partition addr buf s).state)[i]? = (part s)[i]?) := by
  let send : Usb.Drv S Unit := Usb.cmd w (writeCommand partition addr buf) >>= fun rsp =>
    closing w ((Usb.checkStatus rsp).mapError (Usb.context "writing flash"))
  have unlock := h.unlock_quiet blob s
  have sent : ∀ u, part u = part s → writesIn (send u).log = [writeCommand partition addr buf] ∧
      ∀ i, i < addr.toNat ∨ addr.toNat + buf.length ≤ i →
        (part (send u).state)[i]? = (part s)[i]? := by
    intro u same
    obtain ⟨state, log⟩ := cmd_traffic (w := w) (writeCommand partition addr buf) u
    have outside := h.spans addr buf u
    rw [same] at outside
    rcases Act.bind_cases (x := Usb.cmd w (writeCommand partition addr buf)) (f := fun rsp =>
        closing w ((Usb.checkStatus rsp).mapError (Usb.context "writing flash"))) u with
      ⟨rsp, v, m, run, whole⟩ | ⟨_, _, state', log', _⟩
    · rw [run] at state log
      obtain ⟨rfl, rfl⟩ : v = _ ∧ m = _ := ⟨state, log⟩
      have quiet := h.closing_quiet ((Usb.checkStatus rsp).mapError (Usb.context "writing flash"))
        (w (.cmd (writeCommand partition addr buf)) u).2
      simp only [send, whole]
      refine ⟨writesIn_command _ quiet, fun i out => ?_⟩
      rw [quiet.1]
      exact outside i out
    · simp only [send, state', log', state, log]
      exact ⟨writesIn_command _ (Composes.nil (R := Quiet part) u), outside⟩
  rcases Act.bind_cases (x := writeEnable w blob) (f := fun _ => send) s with
    ⟨_, t, l, unlocked, whole⟩ | ⟨_, fails, state, log, _⟩
  · rw [unlocked] at unlock
    obtain ⟨writes, outside⟩ := sent t unlock.1
    refine .inr ?_
    show writesIn ((writeEnable w blob >>= fun _ => send) s).log = _ ∧ ∀ i, _ →
      (part ((writeEnable w blob >>= fun _ => send) s).state)[i]? = _
    rw [whole]
    refine ⟨?_, outside⟩
    rw [writesIn, List.filterMap_append]
    exact congrArg₂ (· ++ ·) unlock.2 writes
  · refine .inl ⟨fails, ?_⟩
    show Quiet part s ((writeEnable w blob >>= fun _ => send) s).log
      ((writeEnable w blob >>= fun _ => send) s).state
    rw [state, log]
    exact unlock

/-- What one write leaves: the chunk stored where it returns, and else nothing changed but its
own span. -/
theorem Stores.writeFlash_cases {addr : UInt32} {buf : Bytes} {s t : S} {out : Outcome String Unit}
    {l : List (Usb.Entry S)} (room : addr.toNat + buf.length ≤ size.toNat)
    (run : writeFlash w blob partition addr buf s = ⟨out, t, l⟩) :
    (out = .ok () ∧ writesIn l = [writeCommand partition addr buf] ∧
      part t = Partition.splice (part s) addr.toNat buf) ∨
    ((∃ e, out = .err e) ∧ (writesIn l = [] ∨ writesIn l = [writeCommand partition addr buf]) ∧
      ∀ i, i < addr.toNat ∨ addr.toNat + buf.length ≤ i → (part t)[i]? = (part s)[i]?) := by
  have traffic := h.writeFlash_traffic blob addr buf s
  have returned : Returned (writeFlash w blob partition addr buf s).out.kind :=
    writeFlash_returned blob addr buf s
  rw [run] at traffic returned
  cases out with
  | ok u =>
    obtain ⟨fails, _⟩ | ⟨writes, _⟩ := traffic
    · exact absurd rfl (fails u)
    · have yields : Yields (commitAfterReply w blob (writeCommand partition addr buf)
          "writing flash") s () t := Yields.iff_run.mpr ⟨l, run⟩
      obtain ⟨v, rsp, answered, accepted, rfl⟩ := commitAfterReply_yields yields
      have stored := h.writes room answered accepted
      rw [h.unlocks] at stored
      exact .inl ⟨rfl, writes, by rw [h.commits, stored]⟩
  | err e =>
    refine .inr ⟨⟨e, rfl⟩, ?_⟩
    obtain ⟨_, same, none⟩ | ⟨writes, outside⟩ := traffic
    · exact ⟨.inl none, fun i _ => by rw [same]⟩
    · exact ⟨.inr writes, outside⟩
  | panic => rcases returned with fails | fails <;> cases fails
  | stuck => rcases returned with fails | fails <;> cases fails

end Writing

/-! Chunks one after another. -/

/-- Writes that follow one another from an address on, none empty and none above 4 KiB, and that
put together are the buffer. -/
inductive Tiles : Nat → List (UInt32 × Bytes) → Bytes → Prop
  | nil {start} : Tiles start [] []
  | cons {start addr chunk tiles buf} (here : addr.toNat = start) (some' : chunk ≠ [])
      (small : chunk.length ≤ 0x1000) (rest : Tiles (start + chunk.length) tiles buf) :
      Tiles start ((addr, chunk) :: tiles) (chunk ++ buf)

/-- The spans that `writeChunks` writes. -/
def tiles : UInt32 → List Bytes → List (UInt32 × Bytes)
  | _, [] => []
  | addr, chunk :: chunks => (addr, chunk) :: tiles (addr + Bytes.len32 chunk) chunks

def command (partition : UInt8) (tile : UInt32 × Bytes) : Bytes :=
  writeCommand partition tile.1 tile.2

theorem writesIn_append (l m : List (Usb.Entry S)) : writesIn (l ++ m) = writesIn l ++ writesIn m :=
  List.filterMap_append

theorem tiles_next {addr : UInt32} {chunk : Bytes}
    (room : addr.toNat + chunk.length ≤ size.toNat) :
    (addr + Bytes.len32 chunk).toNat = addr.toNat + chunk.length := by
  have small := size.toNat_lt
  rw [UInt32.toNat_add, Bytes.len32, UInt32.toNat_ofNat']
  omega

theorem tiles_tile {chunks : List Bytes} {addr : UInt32}
    (room : addr.toNat + chunks.flatten.length ≤ size.toNat)
    (sound : ∀ c ∈ chunks, c ≠ [] ∧ c.length ≤ 0x1000) :
    Tiles addr.toNat (tiles addr chunks) chunks.flatten := by
  induction chunks generalizing addr with
  | nil => exact .nil
  | cons chunk chunks ih =>
    rw [List.flatten_cons, List.length_append] at room
    have next := tiles_next (show addr.toNat + chunk.length ≤ size.toNat by omega)
    obtain ⟨some', small⟩ := sound chunk List.mem_cons_self
    refine .cons rfl some' small ?_
    rw [← next]
    exact ih (by rw [next]; omega) fun c mem => sound c (List.mem_cons_of_mem _ mem)

section Chunks

variable (h : Stores w partition size part) (blob : WriteEnable)

include h

/-- Where the writes of some chunks end: all are stored, or those before the one that failed. -/
theorem Stores.writeChunks_cases {chunks : List Bytes} {addr : UInt32} {s t : S}
    {out : Outcome String Unit} {l : List (Usb.Entry S)}
    (room : addr.toNat + chunks.flatten.length ≤ size.toNat)
    (run : writeChunks w blob partition addr chunks s = ⟨out, t, l⟩) :
    (out = .ok () ∧ writesIn l = (tiles addr chunks).map (command partition) ∧
      part t = Partition.splice (part s) addr.toNat chunks.flatten) ∨
    ((∃ e, out = .err e) ∧ ∃ done failed rest, tiles addr chunks = done ++ failed :: rest ∧
      (writesIn l = done.map (command partition) ∨
        writesIn l = (done ++ [failed]).map (command partition)) ∧
      ∀ i, i < failed.1.toNat ∨ failed.1.toNat + failed.2.length ≤ i → (part t)[i]? =
        (Partition.splice (part s) addr.toNat (done.flatMap Prod.snd))[i]?) := by
  induction chunks generalizing addr s t out l with
  | nil =>
    cases run
    exact .inl ⟨rfl, rfl, Partition.splice_nil.symm⟩
  | cons chunk chunks ih =>
    rw [List.flatten_cons, List.length_append] at room
    have inside : addr.toNat + chunk.length ≤ size.toNat := by omega
    have next := tiles_next inside
    have step : writeChunks w blob partition addr (chunk :: chunks) s =
        Act.follow (writeFlash w blob partition addr chunk s) fun _ =>
          writeChunks w blob partition (addr + Bytes.len32 chunk) chunks := rfl
    rw [step] at run
    rcases first : writeFlash w blob partition addr chunk s with ⟨out1, u, l1⟩
    rw [first] at run
    obtain ⟨rfl, writes, stored⟩ | ⟨⟨e, rfl⟩, writes, outside⟩ :=
      h.writeFlash_cases blob inside first
    · rcases later : writeChunks w blob partition (addr + Bytes.len32 chunk) chunks u with
        ⟨out2, t2, l2⟩
      rw [Act.follow_ok, later] at run
      cases run
      have fits : addr.toNat + chunk.length ≤ (part s).length := by rw [h.length]; exact inside
      obtain ⟨rfl, writes', stored'⟩ | ⟨failed, done, at', rest, split, writes', outside⟩ :=
        ih (by rw [next]; omega) later
      · refine .inl ⟨rfl, ?_, ?_⟩
        · rw [writesIn_append, writes, writes']
          rfl
        · rw [stored', stored, next, Partition.splice_splice fits, List.flatten_cons]
      · refine .inr ⟨failed, (addr, chunk) :: done, at', rest, ?_, ?_, fun i out => ?_⟩
        · rw [tiles, split]
          rfl
        · rw [writesIn_append, writes]
          rcases writes' with writes' | writes'
          · exact .inl (by rw [writes']; rfl)
          · exact .inr (by rw [writes']; rfl)
        · rw [outside i out, stored, next, Partition.splice_splice fits, List.flatMap_cons]
    · rw [Act.follow_err] at run
      cases run
      refine .inr ⟨⟨e, rfl⟩, [], (addr, chunk), _, rfl, ?_, fun i out => ?_⟩
      · rcases writes with writes | writes
        · exact .inl writes
        · exact .inr writes
      · rw [List.flatMap_nil, Partition.splice_nil]
        exact outside i out

end Chunks

/-! What a splice holds. -/

section Splice

variable {b buf : Bytes} {addr : Nat}

theorem splice_outside (room : addr + buf.length ≤ b.length) {i : Nat}
    (out : i < addr ∨ addr + buf.length ≤ i) : (Partition.splice b addr buf)[i]? = b[i]? := by
  have front : (b.take addr ++ buf).length = addr + buf.length := by
    rw [List.length_append, List.length_take]
    omega
  rw [Partition.splice]
  rcases out with before | behind
  · rw [List.append_assoc, List.getElem?_append_left (by rw [List.length_take]; omega),
      List.getElem?_take_of_lt before]
  · rw [List.getElem?_append_right (by omega), front, List.getElem?_drop]
    congr 1
    omega

theorem splice_inside (room : addr + buf.length ≤ b.length) {i : Nat} (low : addr ≤ i)
    (high : i < addr + buf.length) : (Partition.splice b addr buf)[i]? = buf[i - addr]? := by
  have front : (b.take addr).length = addr := by
    rw [List.length_take]
    omega
  rw [Partition.splice, List.append_assoc, List.getElem?_append_right (by omega), front,
    List.getElem?_append_left (by omega)]

theorem splice_read (room : addr + buf.length ≤ b.length) :
    ((Partition.splice b addr buf).drop addr).take buf.length = buf := by
  have front : (b.take addr).length = addr := by
    rw [List.length_take]
    omega
  rw [Partition.splice, List.append_assoc, List.drop_left' front, List.take_left]

end Splice

theorem Tiles.split {start : Nat} {done rest : List (UInt32 × Bytes)} {tile : UInt32 × Bytes}
    {buf : Bytes} (h : Tiles start (done ++ tile :: rest) buf) :
    tile.1.toNat = start + (done.flatMap Prod.snd).length ∧
      done.flatMap Prod.snd ++ tile.2 <+: buf := by
  induction done generalizing start buf with
  | nil =>
    cases h with
    | cons here _ _ later => exact ⟨here, List.prefix_append _ _⟩
  | cons first done ih =>
    cases h with
    | cons here _ _ later =>
      obtain ⟨at', front⟩ := ih later
      rw [List.flatMap_cons, List.length_append, List.append_assoc]
      exact ⟨at'.trans (Nat.add_assoc _ _ _), (List.prefix_append_right_inj _).mpr front⟩

/-- A buffer written to a partition that has room for its blocks is stored as it is and read back,
in consecutive writes of 4 KiB at most. A failed write stores what comes before it, and nothing
behind it is sent. -/
theorem writeFlashAll_exact (h : Stores w partition size part) (blob : WriteEnable)
    {start : UInt32} {buf : Bytes}
    (room : start.toNat + (buf.length + 0xfff) / 0x1000 * 0x1000 ≤ size.toNat) {s t : S}
    {out : Outcome String Unit} {l : List (Usb.Entry S)}
    (run : writeFlashAll w blob partition start buf s = ⟨out, t, l⟩) :
    ∃ tiles, Tiles start.toNat tiles buf ∧
      ((out = .ok () ∧ writesIn l = tiles.map (command partition) ∧
        (∃ u, Yields (readFlashAll w partition start (Bytes.len32 buf)) t buf u) ∧
        ∀ i, i < start.toNat ∨ start.toNat + buf.length ≤ i → (part t)[i]? = (part s)[i]?) ∨
      ((∃ e, out = .err e) ∧ ∃ done failed rest, tiles = done ++ failed :: rest ∧
        (writesIn l = done.map (command partition) ∨
          writesIn l = (done ++ [failed]).map (command partition)) ∧
        (∀ i, start.toNat ≤ i → i < failed.1.toNat → (part t)[i]? = buf[i - start.toNat]?) ∧
        ∀ i, i < start.toNat ∨ failed.1.toNat + failed.2.length ≤ i →
          (part t)[i]? = (part s)[i]?)) := by
  have whole : (Bytes.chunks 0x1000 buf).flatten = buf := Bytes.chunks_flatten (by decide) buf
  have inside : start.toNat + buf.length ≤ size.toNat := by omega
  have fits : start.toNat + buf.length ≤ (part s).length := by rw [h.length]; exact inside
  have room' : start.toNat + (Bytes.chunks 0x1000 buf).flatten.length ≤ size.toNat := by
    rw [whole]
    exact inside
  have tiled := tiles_tile room' (Bytes.chunks_sound (by decide) buf)
  rw [whole] at tiled
  refine ⟨_, tiled, ?_⟩
  obtain ⟨rfl, writes, stored⟩ | ⟨failed, done, tile, rest, split, writes, outside⟩ :=
    h.writeChunks_cases blob room' run
  · rw [whole] at stored
    have count : (Bytes.len32 buf).toNat = buf.length := by
      have small := size.toNat_lt
      rw [Bytes.len32, UInt32.toNat_ofNat']
      omega
    have blocks : start.toNat + ((Bytes.len32 buf).toNat + 0xfff) / 0x1000 * 0x1000 ≤
        size.toNat := by
      rw [count]
      exact room
    obtain ⟨u, read⟩ := h.readFlashAll (s := t) blocks
    rw [count, stored, splice_read fits] at read
    exact .inl ⟨rfl, writes, ⟨u, read⟩, fun i out => by rw [stored, splice_outside fits out]⟩
  · rw [split] at tiled
    obtain ⟨at', front⟩ := tiled.split
    have size' := front.length_le
    rw [List.length_append] at size'
    refine .inr ⟨failed, done, tile, rest, split, writes, fun i low high => ?_, fun i out => ?_⟩
    · rw [outside i (.inl high), splice_inside (by omega) low (by omega)]
      obtain ⟨later, rfl⟩ := front
      rw [List.append_assoc, List.getElem?_append_left (by omega)]
    · rw [outside i (by omega), splice_outside (by omega) (by omega)]

theorem steady_stores : Stores (steady 6) 6 0x8000 Partition.bytes where
  length p := p.size
  reads {addr n} p _ := by
    refine ⟨_, _, rfl, ?_, ?_⟩
    · rw [serve_read]
      exact ⟨0, 0, rfl⟩
    · rw [serve_read]
  writes {addr buf rsp p t} room answered accepted := by
    cases answered
    rw [serve_write]
    exact (congrArg (Partition.bytes ∘ Prod.snd) (dif_pos room)).trans rfl
  spans addr buf p i out := by
    show ((serve 6 p (writeCommand 6 addr buf)).2).bytes[i]? = _
    rw [serve_write]
    split
    · rename_i room
      exact splice_outside (by rw [p.size]; exact room) out
    · rfl
  unlocks blob p := congrArg Partition.bytes (serve_blob 6 p blob)
  commits p := congrArg Partition.bytes (serve_commit 6 p)

theorem writeFlashAll_exact_steady : ∃ t u,
    Yields (writeFlashAll (steady 6) ⟨[0x06], rfl⟩ 6 0x1000 [1, 2, 3]) .erased () t ∧
      Yields (readFlashAll (steady 6) 6 0x1000 3) t [1, 2, 3] u := by
  have done : (writeFlashAll (steady 6) ⟨[0x06], rfl⟩ 6 0x1000 [1, 2, 3] .erased).out.kind =
      .value := by decide +kernel
  rcases run : writeFlashAll (steady 6) ⟨[0x06], rfl⟩ 6 0x1000 [1, 2, 3] .erased with ⟨out, t, l⟩
  rw [run] at done
  obtain ⟨_, _, ⟨rfl, _, ⟨u, read⟩, _⟩ | ⟨⟨e, rfl⟩, _⟩⟩ :=
    writeFlashAll_exact steady_stores ⟨[0x06], rfl⟩ (by decide) run
  · exact ⟨t, u, by rw [Yields, run]; exact ⟨rfl, rfl⟩, read⟩
  · cases done

end ValidityFprintd.Flash
