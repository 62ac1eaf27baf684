import ValidityFprintd.Decoding

/-! The searches of a timeslot table find what going through it instruction by instruction
would find. -/

namespace ValidityFprintd.Timeslot
open Effect

variable {p : Insn → Bool} {b : Bytes} {n : Nat}

/-- How many of the instructions listed are of the sort searched for. -/
def hits (p : Insn → Bool) (l : List (Nat × Insn)) : Nat := l.countP fun x => p x.2

theorem hits_cons_hit {pc : Nat} {insn : Insn} (hit : p insn = true) (l : List (Nat × Insn)) :
    hits p ((pc, insn) :: l) = hits p l + 1 :=
  List.countP_cons_of_pos (p := fun x : Nat × Insn => p x.2) hit

theorem hits_cons_miss {pc : Nat} {insn : Insn} (miss : ¬ p insn = true) (l : List (Nat × Insn)) :
    hits p ((pc, insn) :: l) = hits p l :=
  List.countP_cons_of_neg (p := fun x : Nat × Insn => p x.2) miss

theorem hits_append (l m : List (Nat × Insn)) : hits p (l ++ m) = hits p l + hits p m :=
  List.countP_append

/-- How a search for the `n`th instruction of a sort ends, from an offset on. -/
inductive Searched (p : Insn → Bool) (b : Bytes) (pc n : Nat) :
    Outcome String (Option (Nat × Nat)) → Prop
  | found {place : Nat} {insn : Insn} {before : List (Nat × Insn)}
      (listed : Listing b pc before place) (inside : place < b.length)
      (decoded : decodeInsn (b.drop place) = .ok insn) (hit : p insn = true)
      (nth : hits p before + 1 = n) : Searched p b pc n (.ok (some (place, insn.size)))
  | absent {l : List (Nat × Insn)} (listed : Listing b pc l b.length) (few : hits p l < n) :
      Searched p b pc n (.ok none)
  | truncated {stop : Nat} {l : List (Nat × Insn)} {e : String} (listed : Listing b pc l stop)
      (inside : stop < b.length) (failed : decodeInsn (b.drop stop) = .err e)
      (few : hits p l < n) : Searched p b pc n (.err e)

theorem Searched.step {pc m : Nat} {insn : Insn} {out : Outcome String (Option (Nat × Nat))}
    (inside : pc < b.length) (decoded : decodeInsn (b.drop pc) = .ok insn)
    (count : ∀ l, hits p ((pc, insn) :: l) + m = hits p l + n)
    (h : Searched p b (pc + insn.size) m out) : Searched p b pc n out := by
  cases h with
  | @found place found before listed within decoded' hit nth =>
    have more := count before
    exact .found (.insn inside decoded listed) within decoded' hit (by omega)
  | @absent l listed few =>
    have more := count l
    exact .absent (.insn inside decoded listed) (by omega)
  | @truncated stop l e listed within failed few =>
    have more := count l
    exact .truncated (.insn inside decoded listed) within failed (by omega)

theorem findNth_searched {fuel pc : Nat} (pos : 0 < n) (within : pc ≤ b.length)
    (enough : b.length ≤ fuel + pc) : Searched p b pc n (findNth p b fuel pc n) := by
  have whole : pc = b.length → Searched p b pc n (.ok none) := by
    rintro rfl
    exact .absent (.stop _) pos
  induction fuel generalizing pc n with
  | zero =>
    rw [findNth, if_neg (by omega)]
    exact whole (by omega)
  | succ fuel ih =>
    rw [findNth]
    split
    case isFalse outside => exact whole (by omega)
    case isTrue inside =>
      obtain ⟨insn, decoded⟩ | ⟨e, failed⟩ :=
        Outcome.eq_of_returned (decodeInsn_returned (b.drop pc))
      · obtain ⟨some', long⟩ := decodeInsn_size decoded
        rw [List.length_drop] at long
        have goes : ∀ m, 0 < m → Searched p b (pc + insn.size) m
            (findNth p b fuel (pc + insn.size) m) := by
          intro m pos
          refine ih pos (by omega) (by omega) ?_
          intro last
          rw [last]
          exact .absent (.stop _) pos
        rw [decoded, Outcome.ok_bind]
        by_cases hit : p insn = true
        · rw [if_pos hit]
          split
          case isTrue last => exact .found (.stop pc) inside decoded hit (by simp [hits]; omega)
          case isFalse more =>
            refine .step inside decoded (fun l => ?_) (goes (n - 1) (by omega))
            rw [hits_cons_hit hit]
            omega
        · rw [if_neg hit]
          exact .step inside decoded (fun l => by rw [hits_cons_miss hit]) (goes n pos)
      · rw [failed]
        exact .truncated (.stop pc) inside failed pos

section Unique

variable {pc pc' stop stop' : Nat} {insn insn' : Insn} {l later : List (Nat × Insn)}

theorem Listing.head (listed : Listing b pc later stop)
    (decoded : decodeInsn (b.drop pc) = .ok insn) :
    later = [] ∧ pc = stop ∨ ∃ rest, later = (pc, insn) :: rest := by
  cases listed with
  | stop pc => exact .inl ⟨rfl, rfl⟩
  | insn _ decoded' _ =>
    obtain rfl := Outcome.ok.inj (decoded.symm.trans decoded')
    exact .inr ⟨_, rfl⟩

theorem IsNth.unique (h : IsNth p b n pc insn) (h' : IsNth p b n pc' insn') :
    pc = pc' ∧ insn = insn' := by
  have ahead : ∀ {pc pc' : Nat} {insn insn' : Insn}, IsNth p b n pc insn → IsNth p b n pc' insn' →
      ∀ {before before' later : List (Nat × Insn)}, hits p before + 1 = n → hits p before' + 1 = n →
      before' = before ++ later → Listing b pc later pc' → pc = pc' := by
    intro pc pc' insn insn' h h' before before' later count count' same listed
    obtain ⟨_, rfl⟩ | ⟨rest, rfl⟩ := listed.head h.decoded
    · rfl
    · rw [same, hits_append, hits_cons_hit h.sort] at count'
      omega
  obtain ⟨before, listed, count⟩ := h.nth
  obtain ⟨before', listed', count'⟩ := h'.nth
  have same : pc = pc' := by
    obtain ⟨later, split, goes⟩ | ⟨later, split, goes⟩ := listed.comparable listed'
    · exact ahead h h' count count' split goes
    · exact (ahead h' h count' count split goes).symm
  subst same
  exact ⟨rfl, Outcome.ok.inj (h.decoded.symm.trans h'.decoded)⟩

theorem IsNth.not_few (h : IsNth p b n pc insn) (listed : Listing b 0 l stop)
    (ended : ∀ insn, stop < b.length → decodeInsn (b.drop stop) ≠ .ok insn) : ¬ hits p l < n := by
  intro few
  obtain ⟨before, listed', count⟩ := h.nth
  obtain ⟨later, rfl, goes⟩ | ⟨later, rfl, goes⟩ := listed.comparable listed'
  · cases goes with
    | stop => exact ended insn h.inside h.decoded
    | insn inside decoded _ => exact ended _ inside decoded
  · obtain ⟨_, rfl⟩ | ⟨rest, rfl⟩ := goes.head h.decoded
    · exact ended insn h.inside h.decoded
    · rw [hits_append, hits_cons_hit h.sort] at few
      have reached : hits p before + 1 = n := count
      omega

theorem Listing.complete_or_cut {m : List (Nat × Insn)} {e : String} (h : Listing b pc l b.length)
    (cut : Listing b pc m stop) (inside : stop < b.length) : decodeInsn (b.drop stop) ≠ .err e := by
  intro failed
  obtain ⟨later, _, goes⟩ | ⟨later, _, goes⟩ := h.comparable cut
  · cases goes with
    | stop => exact Nat.lt_irrefl _ inside
    | insn inside' => exact Nat.lt_irrefl _ inside'
  · cases goes with
    | stop => exact Nat.lt_irrefl _ inside
    | insn _ decoded => cases failed.symm.trans decoded

end Unique

/-- A search finds the `n`th instruction of its sort, or finds none in a table that decodes to its
end with fewer of them, and fails on any other. -/
structure Finds (p : Insn → Bool) (b : Bytes) (n : Nat)
    (out : Outcome String (Option (Nat × Nat))) : Prop where
  found : ∀ pc size, out = .ok (some (pc, size)) ↔ ∃ insn, IsNth p b n pc insn ∧ insn.size = size
  absent : out = .ok none ↔ ∃ l, Listing b 0 l b.length ∧ hits p l < n
  failed : (¬ ∃ pc insn, IsNth p b n pc insn) → (¬ ∃ l, Listing b 0 l b.length ∧ hits p l < n) →
    ∃ e, out = .err e

theorem Searched.finds {out : Outcome String (Option (Nat × Nat))} (h : Searched p b 0 n out) :
    Finds p b n out := by
  cases h with
  | @found place insn before listed inside decoded hit nth =>
    have here : IsNth p b n place insn := ⟨inside, decoded, hit, before, listed, nth⟩
    refine ⟨fun pc size => ⟨fun same => ?_, ?_⟩, ⟨nofun, ?_⟩, fun none _ => ?_⟩
    · cases same
      exact ⟨insn, here, rfl⟩
    · rintro ⟨insn', there, rfl⟩
      obtain ⟨rfl, rfl⟩ := here.unique there
      rfl
    · rintro ⟨l, complete, few⟩
      exact absurd few (here.not_few complete fun _ inside => absurd inside (Nat.lt_irrefl _))
    · exact absurd ⟨place, insn, here⟩ none
  | @absent l listed few =>
    refine ⟨fun pc size => ⟨nofun, ?_⟩, ⟨fun _ => ⟨l, listed, few⟩, fun _ => rfl⟩, fun _ none => ?_⟩
    · rintro ⟨insn, there, _⟩
      exact absurd few (there.not_few listed fun _ inside => absurd inside (Nat.lt_irrefl _))
    · exact absurd ⟨l, listed, few⟩ none
  | @truncated stop l e listed inside failed few =>
    refine ⟨fun pc size => ⟨nofun, ?_⟩, ⟨nofun, ?_⟩, fun _ _ => ⟨e, rfl⟩⟩
    · rintro ⟨insn, there, _⟩
      refine absurd few (there.not_few listed fun insn _ decoded => ?_)
      cases failed.symm.trans decoded
    · rintro ⟨l', complete, _⟩
      exact absurd failed (complete.complete_or_cut listed inside)

theorem findNth_finds (p : Insn → Bool) (b : Bytes) (pos : 0 < n) :
    Finds p b n (findNth p b b.length 0 n) :=
  (findNth_searched pos (Nat.zero_le _) (Nat.le_refl _)).finds

/-- Both searches are linear decoding, of which every step takes a byte at least. -/
theorem searches_decode (b : Bytes) :
    (∀ opcode n, 0 < n → Finds (fun insn => insn.op = opcode) b n (findNthInsn b opcode n)) ∧
    (∀ regAddr n, 0 < n →
      Finds (fun insn => insn.op = opRegisterWrite ∧ insn.operands.head? = some regAddr) b n
        (findNthRegwrite b regAddr n)) ∧
    ∀ pc < b.length, (∃ e, decodeInsn (b.drop pc) = .err e) ∨
      ∃ insn, decodeInsn (b.drop pc) = .ok insn ∧ 1 ≤ insn.size ∧
        insn.size ≤ (b.drop pc).length := by
  refine ⟨fun opcode n pos => findNth_finds _ b pos, fun regAddr n pos => findNth_finds _ b pos,
    fun pc _ => ?_⟩
  obtain ⟨insn, decoded⟩ | failed := Outcome.eq_of_returned (decodeInsn_returned (b.drop pc))
  · exact .inr ⟨insn, decoded, decodeInsn_size decoded⟩
  · exact .inl failed

/-- A zero byte, Enable Rx twice and a write to the calibration register. -/
theorem searches_decode_enableRx :
    ∃ insn, IsNth (fun insn => insn.op = 6) [0, 6, 1, 6, 2, 0x4f, 5, 0] 2 3 insn ∧
      insn.size = 2 :=
  (((searches_decode [0, 6, 1, 6, 2, 0x4f, 5, 0]).1 6 2 (by decide)).found 3 2).mp (by decide)

end ValidityFprintd.Timeslot
