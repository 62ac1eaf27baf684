import ValidityFprintd.DatabaseShape
import ValidityFprintd.Machine

/-! Histories of enrolments and deletions, of which any may be cut off at any command, from
the empty database on. -/

namespace ValidityFprintd.Records
open Effect World Capture Enroll Db Traffic

/-! A template and its id come from one reply of the sensor, so the record made of them fits the
length field of its creation. -/

section Template

/-- What the records of a reply take up that the template and a template id were read from. -/
def recordsSize (template tid : Bytes) : Nat :=
  template.length + if tid = [] then 0 else magicLen + tid.length

theorem parseRecords_size {fuel : Nat} {rest : Bytes} {r r' : Enroll.Records}
    (h : parseRecords fuel rest r = .ok r') :
    recordsSize r'.template r'.tid ≤ recordsSize r.template r.tid + rest.length := by
  induction fuel generalizing rest r with
  | zero =>
    unfold parseRecords at h
    split at h
    · cases h
      omega
    · cases h
  | succ fuel ih =>
    unfold parseRecords at h
    split at h
    · cases h
      omega
    · obtain ⟨tag, _, h⟩ := Outcome.bind_eq_ok.mp h
      obtain ⟨len, _, h⟩ := Outcome.bind_eq_ok.mp h
      obtain ⟨_, whole, h⟩ := Outcome.bind_eq_ok.mp h
      have room := Outcome.bailIf_eq_ok.mp whole
      have step : ∀ r₁ : Enroll.Records, r₁ =
          (if tag = 0 then { r with template := rest.take (magicLen + len.toNat) }
          else if tag = 1 then
            { r with header := (rest.take (magicLen + len.toNat)).drop magicLen }
          else if tag = 3 then { r with tid := (rest.take (magicLen + len.toNat)).drop magicLen }
          else r) → recordsSize r₁.template r₁.tid ≤
            recordsSize r.template r.tid + (magicLen + len.toNat) := by
        rintro _ rfl
        unfold recordsSize
        split
        · simp only [List.length_take]
          omega
        · split
          · exact Nat.le_add_right _ _
          · split
            · simp only [List.length_drop, List.length_take]
              split <;> omega
            · exact Nat.le_add_right _ _
      have later := ih h
      have now_ := step _ rfl
      rw [List.length_drop] at later
      omega

theorem parseUpdate_size {res : Bytes} {r : Enroll.Records} (h : parseUpdate res = .ok r) :
    recordsSize r.template r.tid < 65536 := by
  obtain ⟨_, _, h⟩ := Outcome.bind_eq_ok.mp h
  obtain ⟨l, _, h⟩ := Outcome.bind_eq_ok.mp h
  obtain ⟨_, whole, h⟩ := Outcome.bind_eq_ok.mp h
  have length : l.toNat = (res.drop 2).length := by simpa using Outcome.bailIf_eq_ok.mp whole
  have size : recordsSize r.template r.tid ≤ 0 + (res.drop 2).length := parseRecords_size h
  have small := l.toNat_lt
  omega

variable {S : Type} {w : Usb.World S} {fuel : Nat} {r : Request} {s t : S}

theorem appendNewImage_size {blob : WriteEnable} {prev : Bytes} {records : Enroll.Records}
    (run : Yields (appendNewImage w fuel blob prev) s records t) :
    recordsSize records.template records.tid < 65536 := by
  obtain ⟨_, _, _, run⟩ := Yields.bind_iff.mp run
  obtain ⟨_, _, _, run⟩ := Yields.bind_iff.mp run
  obtain ⟨_, _, _, run⟩ := Yields.bind_iff.mp run
  obtain ⟨res, _, _, run⟩ := Yields.bind_iff.mp run
  exact parseUpdate_size (Yields.ofOutcome_iff.mp run).1

theorem round_size {key key' : UInt32} {template : Bytes} {records : Enroll.Records}
    (run : Yields (round w fuel r key template) s (key', .ok records) t) :
    recordsSize records.template records.tid < 65536 := by
  obtain ⟨captured, _, _, run⟩ := Yields.bind_iff.mp run
  cases captured with
  | error e => cases (Yields.ret_iff.mp run).1
  | ok _ =>
    obtain ⟨started, _, _, run⟩ := Yields.bind_iff.mp run
    cases started with
    | error e => cases (Yields.ret_iff.mp run).1
    | ok key =>
      obtain ⟨appended, _, fed, run⟩ := Yields.bind_iff.mp run
      obtain ⟨same, _⟩ := Yields.ret_iff.mp run
      rw [(Prod.mk.inj same).2] at fed
      exact appendNewImage_size (Yields.attempt_ok_iff.mp fed)

theorem enrollStep_size {p : Progress} {next : Progress ⊕ Progress}
    (small : recordsSize p.template p.tid < 65536)
    (run : Yields (enrollStep w fuel r p) s next t) :
    ∀ p', next = .inl p' ∨ next = .inr p' → recordsSize p'.template p'.tid < 65536 := by
  unfold enrollStep at run
  split at run
  · obtain ⟨_, _, _, run⟩ := Yields.bind_iff.mp run
    obtain ⟨⟨key, result⟩, _, scanned, run⟩ := Yields.bind_iff.mp run
    obtain ⟨_, _, _, run⟩ := Yields.bind_iff.mp run
    cases result with
    | ok records =>
      have size := round_size scanned
      obtain ⟨_, _, _, run⟩ := Yields.bind_iff.mp run
      split at run
      · obtain ⟨rfl, _⟩ := Yields.ret_iff.mp run
        rintro p' (same | same) <;> cases same
        exact size
      · obtain ⟨rfl, _⟩ := Yields.ret_iff.mp run
        rintro p' (same | same) <;> cases same
        exact size
    | error e =>
      obtain ⟨isStopped, _, _, run⟩ := Yields.bind_iff.mp run
      split at run
      · obtain ⟨_, _, _, run⟩ := Yields.bind_iff.mp run
        cases run.1
      · obtain ⟨_, _, _, run⟩ := Yields.bind_iff.mp run
        obtain ⟨rfl, _⟩ := Yields.ret_iff.mp run
        rintro p' (same | same) <;> cases same
        exact small
  · obtain ⟨rfl, _⟩ := Yields.ret_iff.mp run
    rintro p' (same | same) <;> cases same
    exact small

theorem rounds_size {p : Progress} (run : Yields (rounds w fuel r) s p t) :
    recordsSize p.template p.tid < 65536 := by
  obtain ⟨l, run⟩ := Yields.iff_run.mp run
  obtain ⟨p', s', _, last, small, broke, _⟩ :=
    Act.loop_eq_ok (I := fun p => recordsSize p.template p.tid < 65536)
      (fun p p' s t l small turn =>
        enrollStep_size small (Yields.iff_run.mpr ⟨l, turn⟩) p' (.inl rfl))
      (by decide) run
  exact enrollStep_size small (Yields.iff_run.mpr ⟨last, broke⟩) p (.inr rfl)

theorem makeFingerData_length (subtype : UInt16) (template tid : Bytes) :
    (makeFingerData subtype template tid).length = 48 + template.length + tid.length := by
  simp only [makeFingerData, List.length_append, Bytes.le16_length, List.length_replicate]
  omega

theorem makeFingerData_creatable {template tid : Bytes} (some' : tid ≠ []) (subtype : UInt16)
    (size : recordsSize template tid < 65536) :
    Creatable recordFingerRequested (makeFingerData subtype template tid) := by
  have length := makeFingerData_length subtype template tid
  rw [recordsSize, if_neg some', magicLen] at size
  refine ⟨?_, fun _ => ?_⟩
  · omega
  · omega

end Template

/-! What the steps of an operation leave, wherever they are cut off. -/

section Steps

open Database

variable {S : Type} {w : Usb.World S} (h : Keeper w) {D : Database} {sid : SidIdentity}

include h

theorem Keeper.ensureUserStorage_leaves (blob : WriteEnable) (shaped : D.Shaped) :
    Leaves h.db D (ensureUserStorage w blob)
      (fun storage D' => Founded D D' ∧ ∃ s, D'.mainStorage = some s ∧ storage.dbid = s.dbid)
      fun D' => Founded D D' := by
  have same : Founded D D := ⟨shaped, rfl, rfl⟩
  refine h.getUserStorage_leaves.bind ?_ (by rintro _ rfl; exact same)
  rintro storage D ⟨rfl, main⟩
  cases storage with
  | some storage =>
    obtain ⟨s, held, dbid⟩ := Option.map_eq_some_iff.mp main.symm
    exact .ret ⟨same, s, held, dbid.symm⟩ same
  | none =>
    have none_ := Option.map_eq_none_iff.mp main.symm
    have founded : ∀ {recid D'}, Makes D 1 4 3 (storageName ++ [0]) recid D' → Founded D D' := by
      intro recid D' made
      obtain ⟨shaped', users, fingers, _⟩ := shaped.storageMade none_ made
      exact ⟨shaped', users, fingers⟩
    have creatable : Creatable 4 (storageName ++ [0]) :=
      ⟨by decide, fun no => absurd no (by decide)⟩
    refine (h.newRecord_leaves blob creatable).bind ?_ ?_
    · intro recid D' made
      refine h.getUserStorage_leaves.bind ?_ (by rintro _ rfl; exact founded made)
      rintro storage _ ⟨rfl, main⟩
      cases storage with
      | some storage =>
        obtain ⟨s, held, dbid⟩ := Option.map_eq_some_iff.mp main.symm
        exact .ret ⟨founded made, s, held, dbid.symm⟩ (founded made)
      | none => exact .fail (founded made)
    · rintro _ (rfl | ⟨recid, made⟩)
      · exact same
      · exact founded made

theorem Keeper.newUser_leaves (blob : WriteEnable) (shaped : D.Shaped) (fits : sid.Fits)
    (none_ : D.keyed sid = none) : Leaves h.db D (newUser w blob sid)
      (fun recid D' => Confined sid D D' ∧ D'.fingerRecords sid = D.fingerRecords sid ∧
        ∃ u ∈ D'.userRecords sid, u.dbid = recid)
      fun D' => Confined sid D D' := by
  refine (h.ensureUserStorage_leaves blob shaped).bind ?_ fun _ founded => founded.confined
  rintro storage D₁ ⟨founded, s, main, dbid⟩
  rw [dbid]
  have creatable : Creatable recordUser (Sid.identityToBytes sid) := by
    refine ⟨?_, fun no => absurd no (by decide)⟩
    rw [Sid.identityToBytes_length]
    have few := fits.subauth
    omega
  have absent : D₁.keyed sid = none := by rw [founded.keyed shaped fits, none_]
  refine (h.newRecord_leaves blob creatable).mono ?_ ?_
  · intro recid D' made
    obtain ⟨confined, new, fingers, _⟩ := founded.shaped.userMade fits absent main made
    refine ⟨founded.confined.trans confined, ?_, _, new, rfl⟩
    rw [fingers, fingerRecords_of founded.users founded.fingers]
  · rintro _ (rfl | ⟨recid, made⟩)
    · exact founded.confined
    · exact founded.confined.trans (founded.shaped.userMade fits absent main made).1

theorem Keeper.findOrCreateUser_leaves (r : Request) (shaped : D.Shaped) (fits : r.identity.Fits) :
    Leaves h.db D (findOrCreateUser w r)
      (fun recid D' => Confined r.identity D D' ∧
        D'.fingerRecords r.identity = D.fingerRecords r.identity ∧
        ∃ u ∈ D'.userRecords r.identity, u.dbid = recid)
      fun D' => Confined r.identity D D' := by
  refine h.lookupUser_leaves.bind ?_ (by rintro _ rfl; exact shaped.confined)
  rintro user D ⟨rfl, found⟩
  cases user with
  | some user =>
    obtain ⟨u, key, same⟩ := Option.map_eq_some_iff.mp found.symm
    have held := (shaped.keyed_iff fits).mp key
    exact .ret ⟨shaped.confined, rfl, u, held, (Prod.mk.inj same).1⟩ shaped.confined
  | none => exact h.newUser_leaves r.blob shaped fits (Option.map_eq_none_iff.mp found.symm)

theorem Keeper.newFinger_leaves (blob : WriteEnable) (shaped : D.Shaped) {u : UserRecord}
    (hu : u ∈ D.userRecords sid) {data : Bytes} (creatable : Creatable recordFingerRequested data)
    (free : ∀ f ∈ D.fingerRecords sid, f.ref.subtype ≠ subtypeOf data) :
    Leaves h.db D (newFinger w blob u.dbid data)
      (fun recid D' => Confined sid D D' ∧ ∃ f, f.ref.dbid = recid ∧
        f.ref.subtype = subtypeOf data ∧ D'.fingerRecords sid = insert f (D.fingerRecords sid))
      fun D' => Confined sid D D' := by
  refine (h.ensureUserStorage_leaves blob shaped).bind ?_ fun _ founded => founded.confined
  rintro storage D₁ ⟨founded, _⟩
  have users : D₁.userRecords sid = D.userRecords sid := userRecords_of_users founded.users
  have fingers : D₁.fingerRecords sid = D.fingerRecords sid :=
    fingerRecords_of founded.users founded.fingers
  rw [← users] at hu
  rw [← fingers] at free
  rw [← fingers]
  refine (h.newRecord_leaves blob creatable).mono ?_ ?_
  · intro recid D' made
    obtain ⟨confined, new⟩ := founded.shaped.fingerMade hu free made
    exact ⟨founded.confined.trans confined, new⟩
  · rintro _ (rfl | ⟨recid, made⟩)
    · exact founded.confined
    · exact founded.confined.trans (founded.shaped.fingerMade hu free made).1

theorem Keeper.deleteFingers_leaves (shaped : D.Shaped) (fits : sid.Fits)
    (doomed : FingerRef → Bool) : Leaves h.db D (deleteFingers w sid doomed)
      (fun _ D' => Confined sid D D' ∧
        D'.fingerRecords sid = {f | f ∈ D.fingerRecords sid ∧ doomed f.ref = false})
      fun D' => Confined sid D D' := by
  refine h.lookupUser_leaves.bind ?_ (by rintro _ rfl; exact shaped.confined)
  rintro user D ⟨rfl, found⟩
  cases user with
  | none =>
    have absent : D.userRecords sid = ∅ := by
      ext u
      refine iff_of_false (fun hu => ?_) (Set.notMem_empty u)
      rw [(shaped.keyed_iff fits).mpr hu] at found
      cases found
    refine .ret ⟨shaped.confined, ?_⟩ shaped.confined
    rw [fingerRecords_eq_empty absent]
    simp
  | some user =>
    obtain ⟨u, key, same⟩ := Option.map_eq_some_iff.mp found.symm
    have hu := (shaped.keyed_iff fits).mp key
    obtain ⟨_, fingers⟩ := Prod.mk.inj same
    have own : ∀ dbid ∈ (user.fingers.filter doomed).map FingerRef.dbid,
        ∃ f ∈ D.fingerRecords sid, doomed f.ref = true ∧ f.ref.dbid = dbid := by
      intro dbid mem
      obtain ⟨ref, picked, same⟩ := List.mem_map.mp mem
      obtain ⟨held, chosen⟩ := List.mem_filter.mp picked
      rw [← fingers, mem_fingersOf] at held
      exact ⟨⟨u.dbid, ref⟩, (shaped.mem_fingerRecords hu).mpr ⟨held, rfl⟩, chosen, same⟩
    have cut : ∀ gone ⊆ (user.fingers.filter doomed).map FingerRef.dbid,
        ∀ dbid ∈ gone, ∃ f ∈ D.fingerRecords sid, f.ref.dbid = dbid := by
      intro gone some' dbid mem
      obtain ⟨f, hf, _, same⟩ := own dbid (some' mem)
      exact ⟨f, hf, same⟩
    refine (h.delRecords_leaves _).bind ?_ ?_
    · rintro _ _ rfl
      obtain ⟨confined, left⟩ := shaped.without (cut _ (List.Subset.refl _))
      refine .ret ⟨confined, ?_⟩ confined
      rw [left]
      ext f
      refine and_congr_right fun hf => ?_
      rw [← Bool.not_eq_true]
      refine not_congr ⟨fun named => ?_, fun chosen => ?_⟩
      · obtain ⟨g, hg, chosen, same⟩ := own _ named
        rwa [← fingers_inj hg.1 hf.1 same]
      · obtain ⟨held, under⟩ := (shaped.mem_fingerRecords hu).mp hf
        have listed : f.ref ∈ user.fingers := by
          rw [← fingers, mem_fingersOf, ← under]
          exact held
        exact List.mem_map_of_mem (List.mem_filter.mpr ⟨listed, chosen⟩)
    · rintro _ ⟨gone, some', rfl⟩
      exact (shaped.without (cut gone some')).1

/-- The finger `recid` in the place of those of its subtype. -/
def Replaced (sid : SidIdentity) (subtype recid : UInt16) (db db' : Database) : Prop :=
  ∃ f, f.ref.dbid = recid ∧ f.ref.subtype = subtype ∧
    db'.fingerRecords sid = insert f {g | g ∈ db.fingerRecords sid ∧ g.ref.subtype ≠ subtype}

theorem Keeper.store_leaves (fuel : Nat) (r : Request) (p : Progress) (shaped : D.Shaped)
    (fits : r.identity.Fits) (creatable : Creatable recordFingerRequested
      (makeFingerData r.subtype p.template p.tid)) : Leaves h.db D (store w fuel r p)
      (fun recid D' => Confined r.identity D D' ∧ Replaced r.identity r.subtype recid D D')
      fun D' => Confined r.identity D D' := by
  have start : Respects (Still h.db) (Act.ignore (enrollmentUpdateEnd w)) :=
    .ignore (enrollmentUpdateEnd_respects h.still)
  refine (Leaves.still start).bind ?_ (by rintro _ rfl; exact shaped.confined)
  rintro _ D ⟨rfl, _⟩
  refine (h.deleteFingers_leaves shaped fits _).bind ?_ fun _ cut => cut
  rintro _ D₁ ⟨deleted, left⟩
  refine (h.findOrCreateUser_leaves r deleted.shaped fits).bind ?_ fun _ => deleted.trans
  rintro _ D₂ ⟨found, same, u, hu, rfl⟩
  have subtype : subtypeOf (makeFingerData r.subtype p.template p.tid) = r.subtype :=
    Bytes.fromLe16_le16 r.subtype
  have free : ∀ f ∈ D₂.fingerRecords r.identity, f.ref.subtype ≠ r.subtype := by
    intro f hf
    rw [same, left] at hf
    simpa using hf.2
  rw [← subtype] at free
  have before := deleted.trans found
  refine (h.newFinger_leaves r.blob found.shaped hu creatable free).bind ?_ fun _ => before.trans
  rintro recid D₃ ⟨stored, f, dbid, kind, fingers⟩
  have all := before.trans stored
  have replaced : Replaced r.identity r.subtype recid D D₃ := by
    refine ⟨f, dbid, kind.trans subtype, ?_⟩
    rw [fingers, same, left]
    simp only [decide_eq_false_iff_not, ne_eq]
  have wait : Respects (Still h.db) (Usb.now w >>= fun start =>
      Act.ignore (waitInt w fuel (start + 5000)) >>= fun _ => Act.ret recid) :=
    .bind h.still.now fun _ =>
      .bind (.ignore (waitInt_respects h.still.idle fuel _)) fun _ => .ret _
  refine (Leaves.still wait).mono ?_ (by rintro _ rfl; exact all)
  rintro recid' _ ⟨rfl, s, t, _, run⟩
  obtain ⟨_, _, _, run⟩ := Yields.bind_iff.mp run
  obtain ⟨_, _, _, run⟩ := Yields.bind_iff.mp run
  obtain ⟨rfl, _⟩ := Yields.ret_iff.mp run
  exact ⟨all, replaced⟩

theorem Keeper.enroll_leaves (fuel : Nat) (r : Request) (shaped : D.Shaped)
    (fits : r.identity.Fits) : Leaves h.db D (enroll w fuel r)
      (fun recid D' => Confined r.identity D D' ∧ Replaced r.identity r.subtype recid D D')
      fun D' => Confined r.identity D D' := by
  have current : Asking w (Still h.db) .current := ask_still w fun s => h.keeps _ s rfl
  have scan : ∀ rest, Asking w (Still h.db) (.cmd (0x02 :: rest)) :=
    fun rest => ask_still w fun s => h.keeps _ s rfl
  have same : ∀ D', D' = D → Confined r.identity D D' := by
    rintro _ rfl
    exact shaped.confined
  refine (Leaves.still (createEnrollment_respects h.still)).bind ?_ same
  rintro _ D ⟨rfl, _⟩
  refine (Leaves.still (rounds_respects h.still current scan fuel r)).bind ?_ same
  rintro p D ⟨rfl, s, t, _, ended⟩
  refine (Leaves.still (.ignore (glowEndScan_respects h.still))).bind ?_ same
  rintro _ D ⟨rfl, _⟩
  refine Leaves.bind (J := fun _ D' => D' = D ∧ p.tid ≠ []) (K := fun D' => D' = D)
    (.bailIf (fun complete => ⟨rfl, by simpa using complete⟩) rfl) ?_ same
  rintro _ D ⟨rfl, complete⟩
  exact h.store_leaves fuel r p shaped fits
    (makeFingerData_creatable complete r.subtype (rounds_size ended))

end Steps

/-- What a history is made of. The identities are SIDs as Windows has them. -/
inductive Operation
  | enroll (fuel : Nat) (r : Request) (fits : r.identity.Fits)
  | deleteAllFingers (identity : SidIdentity) (fits : identity.Fits)

namespace Operation

variable {S : Type}

def identity : Operation → SidIdentity
  | enroll _ r _ => r.identity
  | deleteAllFingers identity _ => identity

/-- The state an operation ends in, however it ends, and what it asked. -/
def run (w : Usb.World S) (s : S) : Operation → S × List (Usb.Entry S)
  | enroll fuel r _ => ((Enroll.enroll w fuel r s).state, (Enroll.enroll w fuel r s).log)
  | deleteAllFingers identity _ =>
    ((Db.deleteAllFingers w identity s).state, (Db.deleteAllFingers w identity s).log)

end Operation

section Histories

open Database

variable {S : Type} {w : Usb.World S}

def history (w : Usb.World S) (s : S) : Machine S Operation (Usb.Entry S) where
  init := s
  step s op := some (op.run w s)

theorem history_again {s last : S} {moves : List (Machine.Move S Operation (Usb.Entry S))}
    (before : (history w s).Run moves last) (op : Operation) : (history w s).Run
      (moves ++ [⟨last, op, (op.run w last).1, (op.run w last).2⟩]) (op.run w last).1 :=
  .step before rfl

/-- Wherever an operation is cut off, the database is in shape and the records of the other users
are untouched; an enrolment that returns has replaced the finger. -/
structure Orderly (h : Keeper w) (move : Machine.Move S Operation (Usb.Entry S)) : Prop where
  passed : ∀ e ∈ move.events,
    Confined move.label.identity (h.db move.before) (h.db e.before)
  ended : Confined move.label.identity (h.db move.before) (h.db move.after)
  enrolled : ∀ fuel r fits recid, move.label = .enroll fuel r fits →
    (enroll w fuel r move.before).out = .ok recid →
    Replaced r.identity r.subtype recid (h.db move.before) (h.db move.after)

theorem operation_orderly (h : Keeper w) {s : S} (shaped : (h.db s).Shaped) (op : Operation) :
    Orderly h ⟨s, op, (op.run w s).1, (op.run w s).2⟩ := by
  cases op with
  | enroll fuel r fits =>
    obtain ⟨passed, ended, returned⟩ := h.enroll_leaves fuel r shaped fits s rfl
    refine ⟨passed, ended, ?_⟩
    rintro _ _ _ recid ⟨⟩ out
    exact (returned recid out).2
  | deleteAllFingers identity fits =>
    obtain ⟨passed, ended, _⟩ := h.deleteFingers_leaves shaped fits (fun _ => true) s rfl
    refine ⟨passed, ended, ?_⟩
    rintro _ _ _ recid ⟨⟩

/-- From the empty database on, every operation is orderly, and leaves the database in shape. -/
theorem database_shape (h : Keeper w) {s last : S} (start : h.db s = .empty)
    {moves : List (Machine.Move S Operation (Usb.Entry S))}
    (run : (history w s).Run moves last) :
    (h.db last).Shaped ∧ ∀ move ∈ moves, Orderly h move := by
  induction run with
  | init =>
    refine ⟨?_, fun _ mem => nomatch mem⟩
    rw [show (history w s).init = s from rfl, start]
    exact empty_shaped
  | @step moves s t op events _ taken ih =>
    obtain ⟨shaped, before⟩ := ih
    obtain ⟨rfl, rfl⟩ := Prod.mk.inj (Option.some.inj taken)
    have orderly := operation_orderly h shaped op
    refine ⟨orderly.ended.shaped, fun move mem => ?_⟩
    cases List.mem_append.mp mem with
    | inl earlier => exact before move earlier
    | inr last => rwa [List.mem_singleton.mp last]

/-- The reply to the creation of the finger is lost. -/
def lostCreation : Fated := ⟨.empty, List.replicate 30 .works ++ [.lostAfter], 0⟩

theorem smallRequest_fits : smallRequest.identity.Fits := ⟨by decide, by decide⟩

def smallEnrolment : Operation := .enroll 4 smallRequest smallRequest_fits

theorem database_shape_retried : ∃ moves last,
    (history Fated.world lostCreation).Run moves last ∧
      moves.map (fun move => move.label) = [smallEnrolment, smallEnrolment] ∧ last.db.Shaped ∧
      ∀ move ∈ moves, Orderly Fated.keeper move := by
  have none_ : (history Fated.world lostCreation).Run [] lostCreation := .init
  obtain ⟨moves, last, run, labels⟩ : ∃ moves last,
      (history Fated.world lostCreation).Run moves last ∧
        moves.map (fun move => move.label) = [smallEnrolment, smallEnrolment] :=
    ⟨_, _, history_again (history_again none_ smallEnrolment) smallEnrolment, rfl⟩
  exact ⟨moves, last, run, labels, database_shape Fated.keeper rfl run⟩

/-- The finger that was created unheard is replaced. -/
example : (enroll Fated.world 4 smallRequest lostCreation).out.kind = .error ∧
    (smallEnrolment.run Fated.world lostCreation).1.db.fingers.length = 1 ∧
    (enroll Fated.world 4 smallRequest (smallEnrolment.run Fated.world lostCreation).1).out =
      .ok 12 := by
  decide +kernel

end Histories

end ValidityFprintd.Records
