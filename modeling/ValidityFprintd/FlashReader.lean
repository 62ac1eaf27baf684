import ValidityFprintd.Partition

/-! Reads of a flash partition that give exactly the bytes asked for, wherever the sensor grants
a read at all. -/

namespace ValidityFprintd.Flash
open Effect

/-- The `n` bytes from an address on. -/
def window (cell : Nat → UInt8) (addr n : Nat) : Bytes :=
  (List.range n).map fun i => cell (addr + i)

section Window

variable {cell : Nat → UInt8} {addr n : Nat}

@[simp] theorem window_length : (window cell addr n).length = n := by
  rw [window, List.length_map, List.length_range]

theorem window_add (m : Nat) :
    window cell addr (n + m) = window cell addr n ++ window cell (addr + n) m := by
  simp only [window, List.range_add, List.map_append, List.map_map, Nat.add_assoc]
  rfl

theorem window_take {m : Nat} (le : m ≤ n) : (window cell addr n).take m = window cell addr m := by
  obtain ⟨k, rfl⟩ := Nat.exists_eq_add_of_le le
  rw [window_add, List.take_left' window_length]

theorem window_eq {b : Bytes} (room : addr + n ≤ b.length)
    (held : ∀ i (hi : i < b.length), cell i = b[i]) :
    window cell addr n = (b.drop addr).take n := by
  apply List.ext_getElem
  · rw [window_length, List.length_take, List.length_drop]
    omega
  · intro i hi _
    rw [window_length] at hi
    simp only [window, List.getElem_map, List.getElem_range, List.getElem_take, List.getElem_drop]
    exact held (addr + i) (by omega)

end Window

variable {S : Type} {w : Usb.World S} {partition : UInt8} {cell : S → Nat → UInt8}
  {granted : Nat → Nat → Prop}

/-- A read that is granted is answered with the bytes asked for, and changes none. -/
structure Reader (w : Usb.World S) (partition : UInt8) (cell : S → Nat → UInt8)
    (granted : Nat → Nat → Prop) : Prop where
  answers : ∀ {addr n : UInt32} s, granted addr.toNat n.toNat → ∃ rsp t,
    w (.cmd (readCommand partition addr n)) s = (.ok rsp, t) ∧
      ReadReply rsp (window (cell s) addr.toNat n.toNat) ∧ cell t = cell s

/-- The blocks of a span are granted. -/
def Spans (granted : Nat → Nat → Prop) (start size : Nat) : Prop :=
  ∀ k < (size + 0xfff) / 0x1000, granted (start + k * 0x1000) 0x1000

section Granted

variable (h : Reader w partition cell granted) {s : S}

include h

theorem Reader.readFlash {addr n : UInt32} (ok : granted addr.toNat n.toNat) :
    ∃ t, Yields (readFlash w partition addr n) s (window (cell s) addr.toNat n.toNat) t ∧
      cell t = cell s := by
  obtain ⟨rsp, t, answered, reply, kept⟩ := h.answers s ok
  exact ⟨t, readFlash_reply answered reply (Nat.le_of_eq window_length), kept⟩

theorem Reader.readBlocks {n : Nat} {addr : UInt32}
    (room : addr.toNat + n * 0x1000 < 4294967296)
    (ok : ∀ k < n, granted (addr.toNat + k * 0x1000) 0x1000) :
    ∃ t, Yields (readBlocks w partition n addr) s (window (cell s) addr.toNat (n * 0x1000)) t ∧
      cell t = cell s := by
  induction n generalizing addr s with
  | zero => exact ⟨s, Yields.ret_iff.mpr ⟨by simp [window], rfl⟩, rfl⟩
  | succ n ih =>
    have here : granted addr.toNat (0x1000 : UInt32).toNat := by simpa using ok 0 (by omega)
    obtain ⟨u, first, kept⟩ := h.readFlash (s := s) here
    have next : (addr + 0x1000).toNat = addr.toNat + 0x1000 := by
      rw [UInt32.toNat_add]
      exact Nat.mod_eq_of_lt (by simp only [UInt32.reduceToNat]; omega)
    obtain ⟨t, rest, kept'⟩ := @ih u (addr + 0x1000) (by rw [next]; omega)
      fun k hk => by
        have later := ok (k + 1) (by omega)
        rwa [next, Nat.add_assoc, Nat.add_comm 0x1000, ← Nat.succ_mul]
    refine ⟨t, Yields.bind_iff.mpr ⟨_, u, first, Yields.bind_iff.mpr ⟨_, t, rest,
      Yields.ret_iff.mpr ⟨?_, rfl⟩⟩⟩, kept'.trans kept⟩
    rw [kept, next, Nat.succ_mul, Nat.add_comm (n * 0x1000), window_add]
    rfl

/-- A read of whole blocks gives the span asked for. -/
theorem Reader.readFlashAll {start size : UInt32}
    (room : start.toNat + (size.toNat + 0xfff) / 0x1000 * 0x1000 < 4294967296)
    (ok : Spans granted start.toNat size.toNat) :
    ∃ t, Yields (readFlashAll w partition start size) s
      (window (cell s) start.toNat size.toNat) t ∧ cell t = cell s := by
  obtain ⟨t, blocks, kept⟩ := h.readBlocks (s := s) room ok
  refine ⟨t, Yields.bind_iff.mpr ⟨_, t, blocks, Yields.ret_iff.mpr ⟨?_, rfl⟩⟩, kept⟩
  exact window_take (by omega)

end Granted

/-- Nor is any other read answered with bytes. -/
structure Strict (w : Usb.World S) (partition : UInt8) (cell : S → Nat → UInt8)
    (granted : Nat → Nat → Prop) : Prop extends Reader w partition cell granted where
  refuses : ∀ {addr n : UInt32} {s b t}, Yields (readFlash w partition addr n) s b t →
    granted addr.toNat n.toNat

section Strictly

variable (h : Strict w partition cell granted) {s t : S} {b : Bytes}

include h

theorem Strict.readFlash {addr n : UInt32} (run : Yields (readFlash w partition addr n) s b t) :
    granted addr.toNat n.toNat ∧ b = window (cell s) addr.toNat n.toNat ∧ cell t = cell s := by
  have ok := h.refuses run
  obtain ⟨u, first, kept⟩ := h.toReader.readFlash (s := s) ok
  obtain ⟨rfl, rfl⟩ := run.det first
  exact ⟨ok, rfl, kept⟩

theorem Strict.readBlocks {n : Nat} {addr : UInt32}
    (room : addr.toNat + n * 0x1000 < 4294967296)
    (run : Yields (readBlocks w partition n addr) s b t) :
    ∀ k < n, granted (addr.toNat + k * 0x1000) 0x1000 := by
  induction n generalizing addr s b t with
  | zero =>
    intro k hk
    omega
  | succ n ih =>
    obtain ⟨_, u, first, run⟩ := Yields.bind_iff.mp run
    obtain ⟨_, v, later, _⟩ := Yields.bind_iff.mp run
    have next : (addr + 0x1000).toNat = addr.toNat + 0x1000 := by
      rw [UInt32.toNat_add]
      exact Nat.mod_eq_of_lt (by simp only [UInt32.reduceToNat]; omega)
    intro k hk
    cases k with
    | zero => simpa using (h.readFlash first).1
    | succ k =>
      have ok := ih (by rw [next]; omega) later k (by omega)
      rwa [next, Nat.add_assoc, Nat.add_comm 0x1000, ← Nat.succ_mul] at ok

theorem Strict.readFlashAll {start size : UInt32}
    (room : start.toNat + (size.toNat + 0xfff) / 0x1000 * 0x1000 < 4294967296)
    (run : Yields (readFlashAll w partition start size) s b t) :
    Spans granted start.toNat size.toNat ∧ b = window (cell s) start.toNat size.toNat := by
  obtain ⟨_, _, blocks, _⟩ := Yields.bind_iff.mp run
  have ok : Spans granted start.toNat size.toNat := h.readBlocks room blocks
  obtain ⟨_, all, _⟩ := h.toReader.readFlashAll (s := s) room ok
  exact ⟨ok, (run.det all).1⟩

end Strictly

end ValidityFprintd.Flash
