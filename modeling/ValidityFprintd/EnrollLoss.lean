import ValidityFprintd.HonestSensor
import ValidityFprintd.Traffic

/-! An enrolment that fails. The old record of the finger is deleted before the new one is
written, so a failure between the two loses it; no failure loses any other finger. -/

namespace ValidityFprintd.EnrollLoss
open Effect World Capture Enroll Traffic Db Records Database

variable {S : Type} {w : Usb.World S}

/-- The database with one more record. -/
def Created (db db' : Database) : Prop :=
  (∃ s, db'.storages = s :: db.storages ∧ db'.users = db.users ∧ db'.fingers = db.fingers) ∨
  (∃ u, db'.storages = db.storages ∧ db'.users = u :: db.users ∧ db'.fingers = db.fingers) ∨
  ∃ f, db'.storages = db.storages ∧ db'.users = db.users ∧ db'.fingers = f :: db.fingers

/-- A sensor that may refuse any command, on a transport that may fail at any: what it
accepts it answers from its database, and a command that failed may have taken effect. -/
structure Faulty (w : Usb.World S) where
  db : S → Database
  answers : ∀ out s rsp honest, (w (.cmd out) s).1 = .ok rsp → Usb.checkStatus rsp = .ok () →
    (db s).reply out = some honest → rsp = honest
  deletes : ∀ rest s, db (w (.cmd (0x48 :: rest)) s).2 = db s ∨
    ∃ dbid, rest = Bytes.le16 dbid ∧ db (w (.cmd (0x48 :: rest)) s).2 = (db s).without [dbid]
  creates : ∀ rest s, db (w (.cmd (0x47 :: rest)) s).2 = db s ∨
    Created (db s) (db (w (.cmd (0x47 :: rest)) s).2)
  keeps : ∀ q s, Changes q = false → db (w q s).2 = db s

def deletion (dbid : UInt16) : Usb.Query := .cmd (0x48 :: Bytes.le16 dbid)

/-- A failed enrolment loses no finger. -/
def LosesNothing (h : Faulty w) (fuel : Nat) (r : Request) (s : S) : Prop :=
  ∀ e t l, enroll w fuel r s = ⟨.err e, t, l⟩ → ∀ f ∈ (h.db s).fingers, f ∈ (h.db t).fingers

/-- The finger is the one that is enrolled anew, of the record the sensor knows the identity
by. -/
def Replaced (db : Database) (r : Request) (f : FingerRecord) : Prop :=
  f.ref.subtype = r.subtype ∧ ∃ u, db.keyed r.identity = some u ∧ f.user = u.dbid

/-- The sensor handed out a template id. -/
def Completed (w : Usb.World S) (fuel : Nat) (r : Request) (s : S) : Prop :=
  ∃ t u p, Yields (createEnrollment w) s () t ∧ Yields (rounds w fuel r) t p u ∧ p.tid ≠ []

/-- However an enrolment ends, a finger is lost only if it is the one that is replaced, its
deletion was sent, and the new template was complete then. -/
def LosesOnlyReplaced (h : Faulty w) (fuel : Nat) (r : Request) (s : S) : Prop :=
  ∀ f ∈ (h.db s).fingers, f ∈ (h.db (enroll w fuel r s).state).fingers ∨
    Replaced (h.db s) r f ∧ Completed w fuel r s ∧
      ∃ e ∈ (enroll w fuel r s).log, e.query = deletion f.ref.dbid

/-! A finger goes by its own deletion only. -/

def Kept (h : Faulty w) (s : S) (l : List (Usb.Entry S)) (t : S) : Prop :=
  ∀ f ∈ (h.db s).fingers, f ∈ (h.db t).fingers ∨ ∃ e ∈ l, e.query = deletion f.ref.dbid

instance kept_composes (h : Faulty w) : Composes (Kept h) where
  nil := fun s f hf => .inl hf
  append := by
    intro s t u l m first second f hf
    cases first f hf with
    | inl kept =>
      cases second f kept with
      | inl kept => exact .inl kept
      | inr deleted =>
        obtain ⟨e, he, sent⟩ := deleted
        exact .inr ⟨e, List.mem_append_right l he, sent⟩
    | inr deleted =>
      obtain ⟨e, he, sent⟩ := deleted
      exact .inr ⟨e, List.mem_append_left m he, sent⟩

theorem ask_kept (h : Faulty w) (q : Usb.Query) : Asking w (Kept h) q := by
  intro s f hf
  by_cases quiet : Changes q = false
  · exact .inl (by rw [ask_run, h.keeps q s quiet]; exact hf)
  · cases q with
    | cmd out =>
      match out with
      | [] => exact absurd rfl quiet
      | c :: rest =>
        have either : c = 0x48 ∨ c = 0x47 := by
          by_contra neither
          rw [not_or] at neither
          exact quiet (by simp [Changes, neither])
        cases either with
        | inl c48 =>
          subst c48
          cases h.deletes rest s with
          | inl same => exact .inl (by rw [ask_run, same]; exact hf)
          | inr gone =>
            obtain ⟨dbid, rfl, after⟩ := gone
            by_cases this : f.ref.dbid = dbid
            · exact .inr ⟨_, List.mem_singleton.mpr rfl, by rw [this]; rfl⟩
            · refine .inl ?_
              rw [ask_run, after]
              exact List.mem_filter.mpr ⟨hf, by simpa using this⟩
        | inr c47 =>
          subst c47
          cases h.creates rest s with
          | inl same => exact .inl (by rw [ask_run, same]; exact hf)
          | inr created =>
            refine .inl ?_
            rw [ask_run]
            obtain ⟨_, _, _, same⟩ | ⟨_, _, _, same⟩ | ⟨g, _, _, more⟩ := created
            · rw [same]
              exact hf
            · rw [same]
              exact hf
            · rw [more]
              exact List.mem_cons_of_mem g hf
    | pollInterrupt => exact absurd rfl quiet
    | readData => exact absurd rfl quiet
    | now => exact absurd rfl quiet
    | current => exact absurd rfl quiet
    | onStage stage err => exact absurd rfl quiet

theorem enroll_kept (h : Faulty w) (fuel : Nat) (r : Request) :
    Respects (Kept h) (enroll w fuel r) :=
  enroll_respects ⟨ask_kept h _, ask_kept h _, fun _ _ => ask_kept h _,
    fun _ _ _ _ _ => ask_kept h _⟩ (ask_kept h _) (fun _ => ask_kept h _)
    (fun _ => ask_kept h _) (fun _ => ask_kept h _) fuel r

/-! The sensor's answer to the lookup names the fingers that are deleted. -/

theorem accepted_body (h : Faulty w) {out rsp : Bytes} {body : Option Bytes} {s t : S}
    (answer : (h.db s).reply out = some (found body)) (asked : Yields (Usb.cmd w out) s rsp t)
    (ok : Usb.checkStatus rsp = .ok ()) : ∃ b, body = some b ∧ rsp.drop 2 = b := by
  have sent := congrArg Prod.fst (Usb.cmd_yields.mp asked)
  have honest := h.answers out s rsp _ sent ok answer
  cases body with
  | some b => exact ⟨b, rfl, by rw [honest]; rfl⟩
  | none =>
    rw [honest] at ok
    cases ok

theorem getUserStorage_read (h : Faulty w) {s t : S} {storage : UserStorage}
    (run : Yields (getUserStorage w storageName) s (some storage) t) :
    ∃ r, (h.db s).mainStorage = some r ∧ storage.dbid = r.dbid := by
  obtain ⟨rsp, s1, asked, rest⟩ := Yields.bind_iff.mp run
  by_cases missing : Usb.statusIs statusNotFound rsp = true
  · rw [if_pos missing] at rest
    obtain ⟨no, _⟩ := Yields.ret_iff.mp rest
    cases no
  · rw [if_neg missing] at rest
    obtain ⟨_, s2, checked, rest⟩ := Yields.bind_iff.mp rest
    obtain ⟨ok, rfl⟩ := Yields.lift_iff.mp checked
    obtain ⟨storage', s3, read, rest⟩ := Yields.bind_iff.mp rest
    obtain ⟨parsed, rfl⟩ := Yields.ofOutcome_iff.mp read
    obtain ⟨same, _⟩ := Yields.ret_iff.mp rest
    obtain ⟨b, found, body⟩ := accepted_body h reply_storageQuery asked ok
    obtain ⟨r, main, rfl⟩ := Option.map_eq_some_iff.mp found
    have held : r ∈ (h.db s).storages := List.mem_of_find?_eq_some main
    rw [body, parseUserStorage_reply held] at parsed
    refine ⟨r, main, ?_⟩
    rw [← Option.some.inj same, ← Outcome.ok.inj parsed]
    rfl

theorem lookupUser_read (h : Faulty w) {identity : SidIdentity} {s t : S} {user : User}
    (run : Yields (lookupUser w identity) s (some user) t) :
    ∃ u, (h.db s).keyed identity = some u ∧ user.dbid = u.dbid ∧
      user.fingers = (h.db s).fingersOf u.dbid := by
  obtain ⟨storage, s1, got, rest⟩ := Yields.bind_iff.mp run
  obtain ⟨_, kept⟩ := (getUserStorage_respects (everyday_unchanged h.keeps) storageName).yields got
  cases storage with
  | none =>
    obtain ⟨no, _⟩ := Yields.ret_iff.mp rest
    cases no
  | some storage =>
    obtain ⟨r, main, dbid⟩ := getUserStorage_read h got
    obtain ⟨rsp, s2, asked, rest⟩ := Yields.bind_iff.mp rest
    by_cases missing : Usb.statusIs statusNotFound rsp = true
    · rw [if_pos missing] at rest
      obtain ⟨no, _⟩ := Yields.ret_iff.mp rest
      cases no
    · rw [if_neg missing] at rest
      obtain ⟨_, s3, checked, rest⟩ := Yields.bind_iff.mp rest
      obtain ⟨ok, rfl⟩ := Yields.lift_iff.mp checked
      obtain ⟨user', s4, read, rest⟩ := Yields.bind_iff.mp rest
      obtain ⟨parsed, rfl⟩ := Yields.ofOutcome_iff.mp read
      obtain ⟨same, _⟩ := Yields.ret_iff.mp rest
      obtain ⟨b, found, body⟩ := accepted_body h (reply_identityQuery _ _ _) asked ok
      rw [kept, dbid] at found
      obtain ⟨u, held, rfl⟩ := Option.map_eq_some_iff.mp found
      refine ⟨u, by rw [keyed, main]; exact held, ?_⟩
      rw [body, parseUser_reply (List.mem_of_find?_eq_some held)] at parsed
      obtain ⟨i, _, decoded⟩ := Outcome.bind_eq_ok.mp parsed
      rw [← Option.some.inj same, ← Outcome.ok.inj decoded]
      exact ⟨rfl, rfl⟩

/-! What an enrolment deletes. -/

/-- The entry deletes no record. -/
def Spares (q : Usb.Query) : Prop := ∀ dbid, q ≠ deletion dbid

theorem spares_everyday (w : Usb.World S) : Everyday w fun _ l _ => ∀ e ∈ l, Spares e.query := by
  refine everyday_asks w (p := Spares) ?_ ?_ ?_ ?_
  · exact fun _ => Usb.Query.noConfusion
  · exact fun _ => Usb.Query.noConfusion
  · exact fun _ _ _ => Usb.Query.noConfusion
  · intro c rest _ _ h48 dbid same
    exact h48 (List.cons.inj (Usb.Query.cmd.inj same)).1

theorem ask_spares {q : Usb.Query} (h : Spares q) :
    Asking w (fun _ l _ => ∀ e ∈ l, Spares e.query) q :=
  ask_asks (p := Spares) w h

theorem command_spares {c : UInt8} (h48 : c ≠ 0x48) (rest : Bytes) :
    Asking w (fun _ l _ => ∀ e ∈ l, Spares e.query) (.cmd (c :: rest)) :=
  ask_spares fun _ same => h48 (List.cons.inj (Usb.Query.cmd.inj same)).1

theorem delRecords_sent {dbids : List UInt16} {s : S} {e : Usb.Entry S} {dbid : UInt16}
    (he : e ∈ (delRecords w dbids s).log) (sent : e.query = deletion dbid) : dbid ∈ dbids := by
  have one : ∀ d s, ∀ e ∈ (delRecord w d s).log, e.query = deletion d := by
    intro d
    have asked : Asks (fun q => q = deletion d) (delRecord w d) :=
      exchange_respects (R := fun _ l _ => ∀ e ∈ l, e.query = deletion d)
        (ask_asks (p := fun q => q = deletion d) w rfl) _
    exact asked
  have deletion_inj : ∀ d, deletion d = deletion dbid → d = dbid := by
    intro d same
    exact Bytes.le16_inj (List.cons.inj (Usb.Query.cmd.inj same)).2
  induction dbids generalizing s with
  | nil => cases he
  | cons d dbids ih =>
    cases Act.mem_bind_log.mp he with
    | inl first =>
      have same := one d s e first
      rw [sent] at same
      rw [deletion_inj d same.symm]
      exact List.mem_cons_self
    | inr rest =>
      obtain ⟨_, t, _, he⟩ := rest
      exact List.mem_cons_of_mem d (ih he)

theorem deleteFingersOfSubtype_sent (h : Faulty w) {identity : SidIdentity}
    {subtype : UInt16} {s : S} {e : Usb.Entry S} {dbid : UInt16}
    (he : e ∈ (deleteFingersOfSubtype w identity subtype s).log)
    (sent : e.query = deletion dbid) : ∃ u, (h.db s).keyed identity = some u ∧
      ∃ ref ∈ (h.db s).fingersOf u.dbid, ref.subtype = subtype ∧ ref.dbid = dbid := by
  cases Act.mem_bind_log.mp he with
  | inl lookup =>
    exact absurd sent (lookupUser_respects (spares_everyday w) identity s e lookup dbid)
  | inr rest =>
    obtain ⟨user, t, found, he⟩ := rest
    cases user with
    | none => cases he
    | some user =>
      obtain ⟨u, key, _, fingers⟩ := lookupUser_read h found
      refine ⟨u, key, ?_⟩
      have deleted : e ∈ (delRecords w ((user.fingers.filter fun f => f.subtype = subtype).map
          FingerRef.dbid) t).log := by
        cases Act.mem_bind_log.mp he with
        | inl he => exact he
        | inr none =>
          obtain ⟨_, _, _, he⟩ := none
          cases he
      obtain ⟨ref, href, same⟩ := List.mem_map.mp (delRecords_sent deleted sent)
      obtain ⟨held, picked⟩ := List.mem_filter.mp href
      rw [fingers] at held
      exact ⟨ref, held, by simpa using picked, same⟩

theorem stored_spares (fuel : Nat) (r : Request) (p : Progress) : Asks Spares
    (findOrCreateUser w r >>= fun userDbid =>
      newFinger w r.blob userDbid (makeFingerData r.subtype p.template p.tid) >>= fun recid =>
        Usb.now w >>= fun start =>
          Act.ignore (waitInt w fuel (start + 5000)) >>= fun _ => Act.ret recid) := by
  have spares := spares_everyday w
  have user : Asks Spares (findOrCreateUser w r) := by
    refine .bind (lookupUser_respects spares _) fun user => ?_
    cases user with
    | some u => exact .ret _
    | none => exact newUser_respects spares (command_spares (by decide)) _ _
  refine .bind user fun _ => .bind (newFinger_respects spares (command_spares (by decide)) _ _ _)
    fun recid => .bind spares.now fun start => ?_
  exact .bind (.ignore (waitInt_respects spares.idle fuel _)) fun _ => .ret _

/-- An enrolment sends deletions of the fingers it replaces only, and only once the template
is complete. -/
theorem enroll_sent (h : Faulty w) {fuel : Nat} {r : Request} {s : S} {e : Usb.Entry S}
    {dbid : UInt16} (he : e ∈ (enroll w fuel r s).log) (sent : e.query = deletion dbid) :
    Completed w fuel r s ∧ ∃ f ∈ (h.db s).fingers, Replaced (h.db s) r f ∧ f.ref.dbid = dbid := by
  have spares := spares_everyday w
  have quiet := everyday_unchanged (w := w) h.keeps
  have scans : ∀ rest, Asking w (fun s _ t => h.db t = h.db s) (.cmd (0x02 :: rest)) :=
    fun rest => ask_unchanged h.keeps rfl
  cases Act.mem_bind_log.mp he with
  | inl first => exact absurd sent (createEnrollment_respects spares s e first dbid)
  | inr rest =>
    obtain ⟨_, t, created, he⟩ := rest
    obtain ⟨_, kept1⟩ := (createEnrollment_respects quiet).yields created
    cases Act.mem_bind_log.mp he with
    | inl second =>
      exact absurd sent (rounds_respects spares (ask_spares fun _ => Usb.Query.noConfusion)
        (command_spares (by decide)) fuel r t e second dbid)
    | inr rest =>
      obtain ⟨p, u, ended, he⟩ := rest
      obtain ⟨_, kept2⟩ :=
        (rounds_respects quiet (ask_unchanged h.keeps rfl) scans fuel r).yields ended
      have glow : Respects (fun _ l _ => ∀ e ∈ l, Spares e.query) (Act.ignore (glowEndScan w)) :=
        .ignore (glowEndScan_respects spares)
      have update : Respects (fun _ l _ => ∀ e ∈ l, Spares e.query)
          (Act.ignore (enrollmentUpdateEnd w)) := .ignore (enrollmentUpdateEnd_respects spares)
      cases Act.mem_bind_log.mp he with
      | inl third => exact absurd sent (glow u e third dbid)
      | inr rest =>
        obtain ⟨_, u1, glowed, he⟩ := rest
        obtain ⟨_, kept3⟩ := Respects.yields (R := fun s _ t => h.db t = h.db s)
          (.ignore (glowEndScan_respects quiet)) glowed
        cases Act.mem_bind_log.mp he with
        | inl bail =>
          rw [Act.bailIf_run] at bail
          split at bail <;> cases bail
        | inr rest =>
          obtain ⟨_, u2, passed, he⟩ := rest
          obtain ⟨complete, rfl⟩ := Yields.bailIf_iff.mp passed
          cases Act.mem_bind_log.mp he with
          | inl fourth => exact absurd sent (update u1 e fourth dbid)
          | inr rest =>
            obtain ⟨_, u3, updated, he⟩ := rest
            obtain ⟨_, kept4⟩ := Respects.yields (R := fun s _ t => h.db t = h.db s)
              (.ignore (enrollmentUpdateEnd_respects quiet)) updated
            have before : h.db u3 = h.db s := kept4.trans (kept3.trans (kept2.trans kept1))
            refine ⟨⟨t, u, p, created, ended, by simpa using complete⟩, ?_⟩
            cases Act.mem_bind_log.mp he with
            | inl deleted =>
              obtain ⟨v, key, ref, held, subtype, same⟩ :=
                deleteFingersOfSubtype_sent h deleted sent
              rw [before] at key held
              exact ⟨⟨v.dbid, ref⟩, mem_fingersOf.mp held, ⟨subtype, v, key, rfl⟩, same⟩
            | inr rest =>
              obtain ⟨n, u4, _, he⟩ := rest
              refine absurd sent (stored_spares fuel r p u4 e he dbid)

/-- A failed enrolment, like any other, loses the finger it replaces at most. -/
theorem enroll_loses_only_replaced (h : Faulty w) (fuel : Nat) (r : Request) (s : S) :
    LosesOnlyReplaced h fuel r s := by
  intro f hf
  cases enroll_kept h fuel r s f hf with
  | inl kept => exact .inl kept
  | inr deleted =>
    obtain ⟨e, he, sent⟩ := deleted
    obtain ⟨complete, g, hg, replaced, same⟩ := enroll_sent h he sent
    obtain rfl := fingers_inj hg hf same
    exact .inr ⟨replaced, complete, e, he, sent⟩

/-- A sensor that is content with the first scan and refuses every new record: its database
and the polls so far. -/
def fullSensor : Usb.World (Database × Nat)
  | .cmd out, (db, polls) =>
    let answer := match out with
      | 0x47 :: _ => [0x01, 0x04]
      | 0x51 :: _ => [0, 0] ++ Bytes.le32 12 ++ List.replicate 12 0
      | 0x68 :: _ => List.replicate 6 0
      | 0x6b :: _ => [0, 0] ++ Bytes.le16 57 ++ [3, 0, 1, 0] ++ List.replicate 52 0 ++ [7]
      | 0x45 :: _ => [0, 0] ++ List.replicate 24 0
      | _ => [0, 0]
    (.ok ((db.reply out).getD answer), (db.after out, polls))
  | .pollInterrupt, (db, 0) => (.ok (some [0]), (db, 1))
  | .pollInterrupt, (db, 1) => (.ok (some [2]), (db, 2))
  | .pollInterrupt, s => (.ok (some [3, 0, 4]), s)
  | .readData, s => (.ok [], s)
  | .now, s => (0, s)
  | .current, s => (1, s)
  | .onStage _ _, s => ((), s)

theorem fullSensor_answers (out : Bytes) (s : Database × Nat) (honest : Bytes)
    (answer : s.1.reply out = some honest) : (fullSensor (.cmd out) s).1 = .ok honest := by
  show Except.ok ((s.1.reply out).getD _) = _
  rw [answer, Option.getD_some]

theorem fullSensor_honest (out : Bytes) (s : Database × Nat) (rsp honest : Bytes)
    (sent : (fullSensor (.cmd out) s).1 = .ok rsp) (_ : Usb.checkStatus rsp = .ok ())
    (answer : s.1.reply out = some honest) : rsp = honest := by
  rw [fullSensor_answers out s honest answer] at sent
  exact (Except.ok.inj sent).symm

/-- Only a whole deletion deletes. -/
theorem after_deletes (db : Database) (rest : Bytes) : db.after (0x48 :: rest) = db ∨
    ∃ dbid, rest = Bytes.le16 dbid ∧ db.after (0x48 :: rest) = db.without [dbid] := by
  rcases rest with _ | ⟨d0, _ | ⟨d1, _ | ⟨d2, rest⟩⟩⟩
  · exact .inl rfl
  · exact .inl rfl
  · refine .inr ⟨Bytes.fromLe16 d0 d1, ?_, rfl⟩
    have h0 := d0.toNat_lt
    have h1 := d1.toNat_lt
    rw [Bytes.le16, Bytes.fromLe16_toNat]
    refine List.cons_eq_cons.mpr ⟨?_, List.cons_eq_cons.mpr ⟨?_, rfl⟩⟩
    · apply UInt8.toNat_inj.mp
      rw [UInt8.toNat_ofNat']
      omega
    · apply UInt8.toNat_inj.mp
      rw [UInt8.toNat_ofNat']
      omega
  · exact .inl rfl

theorem fullSensor_deletes (rest : Bytes) (s : Database × Nat) :
    (fullSensor (.cmd (0x48 :: rest)) s).2.1 = s.1 ∨ ∃ dbid, rest = Bytes.le16 dbid ∧
      (fullSensor (.cmd (0x48 :: rest)) s).2.1 = s.1.without [dbid] := after_deletes s.1 rest

theorem fullSensor_creates (rest : Bytes) (s : Database × Nat) :
    (fullSensor (.cmd (0x47 :: rest)) s).2.1 = s.1 ∨
      Created s.1 (fullSensor (.cmd (0x47 :: rest)) s).2.1 :=
  .inl rfl

theorem fullSensor_keeps (q : Usb.Query) (s : Database × Nat) (quiet : Changes q = false) :
    (fullSensor q s).2.1 = s.1 := by
  cases q with
  | cmd out => exact s.1.after_quiet quiet
  | pollInterrupt =>
    obtain ⟨db, polls⟩ := s
    obtain _ | _ | polls := polls
    · rfl
    · rfl
    · rfl
  | _ => rfl

def fullSensorFaulty : Faulty fullSensor where
  db := Prod.fst
  answers := fullSensor_honest
  deletes := fullSensor_deletes
  creates := fullSensor_creates
  keeps := fullSensor_keeps

/-- The user of the request, with the finger that is asked for again. -/
def enrolled : Database where
  storages := [⟨3, storageName ++ [0]⟩]
  users := [⟨11, 3, Sid.identityToBytes smallRequest.identity⟩]
  fingers := [⟨11, 12, smallRequest.subtype, 3, 200⟩]
  distinct := by decide
  names := mainStorage_fits
  identities := by decide

/-- The enrolment fails at the new record, and the old one is gone. -/
theorem enroll_loses_finger : ¬ LosesNothing fullSensorFaulty 4 smallRequest (enrolled, 0) := by
  intro nothing
  have failed : (enroll fullSensor 4 smallRequest (enrolled, 0)).out.kind = .error := by
    decide +kernel
  have gone : (enroll fullSensor 4 smallRequest (enrolled, 0)).state.1.fingers = [] := by
    decide +kernel
  rcases run : enroll fullSensor 4 smallRequest (enrolled, 0) with ⟨out, t, l⟩
  rw [run] at failed gone
  cases out with
  | err e =>
    have kept := nothing e t l run _ (List.mem_cons_self)
    have none : (fullSensorFaulty.db t).fingers = [] := gone
    rw [none] at kept
    cases kept
  | ok a => cases failed
  | panic => cases failed
  | stuck => cases failed

end ValidityFprintd.EnrollLoss
