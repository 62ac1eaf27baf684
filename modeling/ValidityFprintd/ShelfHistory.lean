import ValidityFprintd.FingerShelf

/-! What the methods of a sensor make of the shelves, however they end. -/

namespace ValidityFprintd.Records
open Effect World Capture Enroll Db Traffic Device Database

variable {S : Type} {w : Usb.World S}

/-! No finger comes from nowhere: only an enrolment makes one, of the subtype it is for. -/

section Gains

/-- Fingers that are new are of a kind. -/
def Gains (db : S → Database) (kind : FingerRecord → Prop) (s : S) (_ : List (Usb.Entry S))
    (t : S) : Prop :=
  Adds kind (db s) (db t)

instance gains_composes (db : S → Database) (kind : FingerRecord → Prop) :
    Composes (Gains db kind) where
  nil := fun _ _ hf => .inl hf
  append := by
    intro s t u l m first second f hf
    cases second f hf with
    | inl before => exact first f before
    | inr new => exact .inr new

variable {kind : FingerRecord → Prop}

theorem Makes.adds {D D' : Database} {parent type storage recid : UInt16} {data : Bytes}
    (made : Makes D parent type storage data recid D') (own : type = recordFingerRequested →
      ∀ f : FingerRecord, f.ref.subtype = subtypeOf data → kind f) : Adds kind D D' := by
  obtain ⟨_, _, _, fingers⟩ | ⟨_, _, _, fingers⟩ | ⟨finger, _, _, fingers⟩ := made
  · exact fun f hf => .inl (by rwa [fingers] at hf)
  · exact fun f hf => .inl (by rwa [fingers] at hf)
  · intro f hf
    rw [fingers] at hf
    cases List.mem_cons.mp hf with
    | inl new => exact .inr (own finger f (by rw [new]))
    | inr old => exact .inl old

variable (h : Keeper w)

include h

theorem Keeper.ask_gains {q : Usb.Query} (quiet : Changes q = false) :
    Asking w (Gains h.db kind) q :=
  fun s f hf => .inl (by rwa [ask_run, h.keeps q s quiet] at hf)

theorem Keeper.everyday_gains : Everyday w (Gains h.db kind) :=
  ⟨h.ask_gains rfl, h.ask_gains rfl, fun _ _ => h.ask_gains rfl,
    fun _ _ _ h47 h48 => h.ask_gains (by simp [Changes, h47, h48])⟩

theorem Keeper.deletion_gains (rest : Bytes) :
    Asking w (Gains h.db kind) (.cmd (0x48 :: rest)) := by
  intro s f hf
  rw [ask_run] at hf
  obtain same | ⟨dbid, _, gone⟩ := h.deletes rest s
  · rw [same] at hf
    exact .inl hf
  · rw [gone] at hf
    exact .inl (List.mem_filter.mp hf).1

theorem Keeper.deleteFingers_gains (identity : SidIdentity) (doomed : FingerRef → Bool) :
    Respects (Gains h.db fun _ => False) (deleteFingers w identity doomed) :=
  deleteFingers_respects h.everyday_gains h.deletion_gains identity doomed

theorem Keeper.newRecord_gains (blob : WriteEnable) {parent type storage : UInt16} {data : Bytes}
    (creatable : Creatable type data) (own : type = recordFingerRequested →
      ∀ f : FingerRecord, f.ref.subtype = subtypeOf data → kind f) :
    Respects (Gains h.db kind) (newRecord w blob parent type storage data) := by
  intro s
  have leaves : Leaves h.db (h.db s) (newRecord w blob parent type storage data) _ _ :=
    h.newRecord_leaves blob creatable
  obtain ⟨_, ended, _⟩ := leaves s rfl
  obtain same | ⟨recid, made⟩ := ended
  · intro f hf
    exact .inl (by rwa [same] at hf)
  · exact made.adds own

theorem Keeper.ensureUserStorage_gains (blob : WriteEnable) :
    Respects (Gains h.db kind) (ensureUserStorage w blob) := by
  have daily : Everyday w (Gains h.db kind) := h.everyday_gains
  have creatable : Creatable 4 (storageName ++ [0]) := ⟨by decide, fun no => absurd no (by decide)⟩
  refine .bind (getUserStorage_respects daily _) fun storage => ?_
  cases storage with
  | some storage => exact .ret _
  | none =>
    refine .bind (h.newRecord_gains blob creatable fun no => absurd no (by decide)) fun _ => ?_
    refine .bind (getUserStorage_respects daily _) fun storage => ?_
    cases storage with
    | some storage => exact .ret _
    | none => exact .fail _

theorem Keeper.findOrCreateUser_gains (r : Request) (fits : r.identity.Fits) :
    Respects (Gains h.db kind) (findOrCreateUser w r) := by
  have creatable : Creatable recordUser (Sid.identityToBytes r.identity) := by
    refine ⟨?_, fun no => absurd no (by decide)⟩
    rw [Sid.identityToBytes_length]
    have few := fits.subauth
    omega
  refine .bind (lookupUser_respects h.everyday_gains _) fun user => ?_
  cases user with
  | some u => exact .ret _
  | none =>
    exact .bind (h.ensureUserStorage_gains r.blob) fun _ =>
      h.newRecord_gains r.blob creatable fun no => absurd no (by decide)

/-- The fingers an enrolment makes are of the subtype it is for. -/
theorem Keeper.enroll_gains (fuel : Nat) (r : Request) (fits : r.identity.Fits) :
    Respects (Gains h.db fun f => f.ref.subtype = r.subtype) (enroll w fuel r) := by
  have daily : Everyday w (Gains h.db fun f => f.ref.subtype = r.subtype) := h.everyday_gains
  have scan : ∀ rest, Asking w (Gains h.db fun f => f.ref.subtype = r.subtype)
      (.cmd (0x02 :: rest)) := fun rest => h.ask_gains rfl
  refine .bind (createEnrollment_respects daily) fun _ => ?_
  refine .bind_of (rounds_respects daily (h.ask_gains rfl) scan fuel r) fun _ p t ended => ?_
  have concluded : Respects (Gains h.db fun f => f.ref.subtype = r.subtype)
      (conclude w fuel r p) := by
    refine .bind (.ignore (glowEndScan_respects daily)) fun _ => ?_
    refine .bind_of (.bailIf _ _) fun s _ t passed => ?_
    have complete : p.tid ≠ [] := by simpa using (Yields.bailIf_iff.mp passed).1
    have creatable := makeFingerData_creatable complete r.subtype (rounds_size ended)
    have subtype : subtypeOf (makeFingerData r.subtype p.template p.tid) = r.subtype :=
      Bytes.fromLe16_le16 r.subtype
    have stored : Respects (Gains h.db fun f => f.ref.subtype = r.subtype) (store w fuel r p) := by
      refine .bind (.ignore (enrollmentUpdateEnd_respects daily)) fun _ => ?_
      refine .bind (deleteFingers_respects daily h.deletion_gains _ _) fun _ => ?_
      refine .bind (h.findOrCreateUser_gains r fits) fun user => ?_
      refine .bind (.bind (h.ensureUserStorage_gains r.blob) fun _ =>
        h.newRecord_gains r.blob creatable fun _ f same => same.trans subtype) fun recid => ?_
      exact .bind daily.now fun start =>
        .bind (.ignore (waitInt_respects daily.idle fuel _)) fun _ => .ret _
    exact stored t
  exact concluded t

end Gains

/-! What the methods return, where the sensor answers from its database. -/

section Readings

variable (h : Keeper w) {D : Database} {passwd : Except String Text} {username : Text}

include h

theorem Keeper.query_leaves {out : Bytes} {body : Option Bytes}
    (answer : D.reply out = some (found body)) (quiet : Changes (.cmd out) = false) :
    Leaves h.db D (Usb.cmd w out)
      (fun rsp D' => D' = D ∧ (Usb.checkStatus rsp = .ok () → body = some (rsp.drop 2)) ∧
        (Usb.statusIs statusNotFound rsp = true → body = none))
      fun D' => D' = D := by
  refine Usb.cmd_leaves rfl (fun s seen => (h.keeps _ s quiet).trans seen) ?_
  intro s rsp seen sent
  have answer' : (h.db s).reply out = some (found body) := by rw [seen, answer]
  refine ⟨(h.keeps _ s quiet).trans seen, fun ok => ?_, fun denied => ?_⟩
  · have honest := h.answers out s rsp _ sent ok answer'
    cases body with
    | some body => rw [honest, Honest.found_body]
    | none =>
      rw [honest] at ok
      cases ok
  · have missing := h.missing out s rsp _ quiet sent denied answer'
    cases body with
    | some body => cases missing
    | none => rfl

theorem checked_leaves {α : Type} {rsp : Bytes} {body : Option Bytes} {x : Usb.Drv S α}
    {J : α → Database → Prop}
    (accepted : Usb.checkStatus rsp = .ok () → body = some (rsp.drop 2))
    (rest : body = some (rsp.drop 2) → Leaves h.db D x J fun D' => D' = D) :
    Leaves h.db D (Usb.check rsp >>= fun _ => x) J fun D' => D' = D := by
  refine Leaves.bind (J := fun _ D' => D' = D ∧ Usb.checkStatus rsp = .ok ())
    (K := fun D' => D' = D) (.lift (fun _ ok => ⟨rfl, ok⟩) rfl) ?_ fun _ same => same
  rintro _ D ⟨rfl, ok⟩
  exact rest (accepted ok)

theorem Keeper.getUser_leaves (dbid : UInt16) : Leaves h.db D (getUser w dbid)
    (fun user D' => D' = D ∧ ∃ u, D.fetch dbid = some u ∧ D.decoded u = .ok user)
    fun D' => D' = D := by
  refine (h.query_leaves (reply_userQuery dbid) rfl).bind ?_ fun _ same => same
  rintro rsp D ⟨rfl, accepted, _⟩
  refine checked_leaves h accepted fun found => .ofOutcome (fun user parsed => ⟨rfl, ?_⟩) rfl
  obtain ⟨u, fetched, body⟩ := Option.map_eq_some_iff.mp found
  rw [← body, parseUser_reply (fetch_mem fetched)] at parsed
  exact ⟨u, fetched, parsed⟩

theorem Keeper.getUsers_leaves {us : List UserRecord} (held : ∀ u ∈ us, u ∈ D.users) :
    Leaves h.db D (getUsers w (us.map fun u => ⟨u.dbid, Bytes.len16 u.identity⟩))
      (fun users D' => D' = D ∧ Outcome.each D.decoded us = .ok users) fun D' => D' = D := by
  induction us with
  | nil => exact .ret ⟨rfl, rfl⟩ rfl
  | cons u us ih =>
    refine (h.getUser_leaves u.dbid).bind ?_ fun _ same => same
    rintro user D ⟨rfl, v, fetched, decoded⟩
    have hu := held u List.mem_cons_self
    have nonzero : u.dbid ≠ 0 := ids_ne_zero (mem_ids.mpr (.inr (.inl ⟨u, hu, rfl⟩)))
    rw [fetch, if_pos nonzero, user?_of_mem hu] at fetched
    obtain rfl := Option.some.inj fetched
    refine (ih fun v hv => held v (List.mem_cons_of_mem u hv)).bind ?_ fun _ same => same
    rintro users D ⟨rfl, rest⟩
    refine .ret ⟨rfl, ?_⟩ rfl
    rw [Outcome.each, decoded, Outcome.ok_bind, rest, Outcome.ok_bind]

theorem Keeper.storage_leaves : Leaves h.db D (getUserStorage w storageName)
    (fun r D' => D' = D ∧ r = D.mainStorage.map D.storageRead) fun D' => D' = D := by
  refine (h.query_leaves reply_storageQuery rfl).bind ?_ fun _ same => same
  rintro rsp D ⟨rfl, accepted, denied⟩
  split
  case isTrue missing =>
    have none_ := Option.map_eq_none_iff.mp (denied missing)
    exact .ret ⟨rfl, by rw [none_]; rfl⟩ rfl
  case isFalse =>
    refine checked_leaves h accepted fun found => ?_
    obtain ⟨r, main, body⟩ := Option.map_eq_some_iff.mp found
    rw [← body, parseUserStorage_reply (List.mem_of_find?_eq_some main), main]
    exact .ret ⟨rfl, rfl⟩ rfl

theorem Keeper.listUsers_leaves : Leaves h.db D (listUsers w)
    (fun users D' => D' = D ∧ D.listed = .ok users) fun D' => D' = D := by
  refine h.storage_leaves.bind ?_ fun _ same => same
  rintro storage D ⟨rfl, rfl⟩
  unfold Database.listed
  cases main : D.mainStorage with
  | none => exact .ret ⟨rfl, rfl⟩ rfl
  | some r => exact h.getUsers_leaves fun u hu => (List.mem_filter.mp hu).1

variable (passwd username) in
theorem Keeper.listEnrolledFingers_leaves (shaped : D.Shaped) (named : D.Named) :
    Leaves h.db D (listEnrolledFingers w passwd username)
      (fun names D' => D' = D ∧ ∀ sid, sidForUser passwd username = .ok sid →
        names.Nodup ∧ ∀ name, name ∈ names ↔ name ∈ D.shelf sid) fun D' => D' = D := by
  refine Leaves.bind (J := fun sid D' => D' = D ∧ sidForUser passwd username = .ok sid)
    (K := fun D' => D' = D) (.lift (fun _ resolved => ⟨rfl, resolved⟩) rfl) ?_ fun _ same => same
  rintro sid D ⟨rfl, resolved⟩
  refine h.listUsers_leaves.bind ?_ fun _ same => same
  rintro users D ⟨rfl, listed⟩
  refine .ret ⟨rfl, fun sid' resolved' => ?_⟩ rfl
  rw [resolved] at resolved'
  cases resolved'
  exact shaped.namesOf_shelf named listed

theorem Keeper.deleteAllFingers_count (shaped : D.Shaped) (named : D.Named) {sid : SidIdentity}
    (fits : sid.Fits) : Leaves h.db D (deleteAllFingers w sid)
      (fun n _ => n = (D.shelf sid).ncard) fun _ => True := by
  refine h.lookupUser_leaves.bind ?_ fun _ _ => trivial
  rintro user D ⟨rfl, found⟩
  cases user with
  | none =>
    have absent : D.userRecords sid = ∅ := by
      ext u
      refine iff_of_false (fun hu => ?_) (Set.notMem_empty u)
      rw [(shaped.keyed_iff fits).mpr hu] at found
      cases found
    refine .ret ?_ trivial
    rw [shelf_eq_empty absent, Set.ncard_empty]
  | some user =>
    obtain ⟨u, key, same⟩ := Option.map_eq_some_iff.mp found.symm
    have hu := (shaped.keyed_iff fits).mp key
    obtain ⟨_, fingers⟩ := Prod.mk.inj same
    have any : Leaves h.db D
        (delRecords w ((user.fingers.filter fun _ => true).map FingerRef.dbid))
        (fun _ _ => True) fun _ => True :=
      fun _ _ => ⟨fun _ _ => trivial, trivial, fun _ _ => trivial⟩
    refine any.bind (fun _ _ _ => .ret ?_ trivial) fun _ _ => trivial
    obtain ⟨nodup, mem⟩ := shaped.namesUnder_shelf named hu
    rw [← Shelves.length_of_nodup nodup mem, List.filter_true, ← fingers, namesUnder,
      List.length_map, List.length_map]

end Readings

/-- A keeper that recognizes what is enrolled only. -/
structure Matcher (w : Usb.World S) extends Keeper w where
  matchesEnrolled : ∀ s rsp m, (w (.cmd [0x60, 0, 0, 0, 0]) s).1 = .ok rsp →
    parseMatch (rsp.drop 2) = .ok m →
    ∃ f ∈ (db s).fingers, f.user = m.userDbid.toUInt16 ∧ f.ref.subtype = m.subtype

section Matches

variable (h : Matcher w) {D : Database} {passwd : Except String Text} {username : Text}

include h

def Enrolled (D : Database) (m : MatchResult) : Prop :=
  ∃ f ∈ D.fingers, f.user = m.userDbid.toUInt16 ∧ f.ref.subtype = m.subtype

theorem Matcher.matchFinger_leaves (fuel : Nat) : Leaves h.db D (matchFinger w fuel)
    (fun m D' => D' = D ∧ Enrolled D m) fun D' => D' = D := by
  have matched : Leaves h.db D (runMatch w fuel) (fun m D' => D' = D ∧ Enrolled D m)
      fun D' => D' = D := by
    refine (Leaves.still (exchange_respects
      (h.still.cmd _ _ (by decide) (by decide) (by decide)) _)).bind ?_ fun _ same => same
    rintro _ D ⟨rfl, _⟩
    refine (Leaves.still h.still.now).bind ?_ fun _ same => same
    rintro start D ⟨rfl, _⟩
    refine (Leaves.still (waitInt_respects h.still.idle fuel _)).bind ?_ fun _ same => same
    rintro b D ⟨rfl, _⟩
    refine Leaves.bind (J := fun _ D' => D' = D) (K := fun D' => D' = D)
      (.bailIf (fun _ => rfl) rfl) ?_ fun _ same => same
    rintro _ D rfl
    refine Leaves.bind (K := fun D' => D' = D) (Usb.request_leaves
      (J := fun rsp D' => D' = D ∧ ∀ m, parseMatch (rsp.drop 2) = .ok m → Enrolled D m) rfl
      (fun s seen => (h.keeps _ s rfl).trans seen) fun s rsp seen sent _ => ?_) ?_
      fun _ same => same
    · refine ⟨(h.keeps _ s rfl).trans seen, fun m parsed => ?_⟩
      have enrolled := h.matchesEnrolled s rsp m sent parsed
      rwa [seen] at enrolled
    · rintro rsp D ⟨rfl, enrolled⟩
      exact .ofOutcome (fun m parsed => ⟨rfl, enrolled m parsed⟩) rfl
  refine matched.attempt.bind ?_ fun _ same => same
  rintro result D ⟨rfl, enrolled⟩
  refine (Leaves.still (.ignore (cmd_respects
    (h.still.cmd _ _ (by decide) (by decide) (by decide))))).bind ?_ fun _ same => same
  rintro _ D ⟨rfl, _⟩
  exact .lift (fun m found => enrolled m found) rfl

theorem Matcher.owned_leaves (sid : SidIdentity) {m : MatchResult} (enrolled : Enrolled D m) :
    Leaves h.db D (owned w sid m)
      (fun outcome D' => D' = D ∧ ∀ finger, outcome = .matched finger → finger ∈ D.shelf sid)
      fun D' => D' = D := by
  refine (h.getUser_leaves _).attempt.bind ?_ fun _ same => same
  rintro owner D ⟨rfl, read⟩
  cases owner with
  | error e => exact .ret ⟨rfl, fun _ no => nomatch no⟩ rfl
  | ok user =>
    obtain ⟨_, u, fetched, decoded⟩ := read user rfl
    obtain ⟨identity, parsed, rfl⟩ := DeleteList.decoded_ok.mp decoded
    dsimp only
    split
    case isFalse => exact .ret ⟨rfl, fun _ no => nomatch no⟩ rfl
    case isTrue own =>
      subst own
      refine .ret ⟨rfl, ?_⟩ rfl
      rintro _ ⟨⟩
      obtain ⟨f, hf, under, subtype⟩ := enrolled
      have dbid := DeleteList.fetch_dbid fetched parsed
      exact ⟨f, ⟨hf, u, ⟨fetch_mem fetched, parsed⟩, under.trans dbid.symm⟩, by rw [subtype]⟩

variable (passwd username) in
/-- What a verification says was recognized is on the shelf of the user. -/
theorem Matcher.verify_leaves (mine : Option Nat) (fuel : Nat) (calib : Calibration)
    (cfg : SensorConfig) (timeout : Nat) :
    Leaves h.db D (verify w passwd username mine fuel calib cfg timeout)
      (fun outcome D' => D' = D ∧ ∀ sid, sidForUser passwd username = .ok sid →
        ∀ finger, outcome = .matched finger → finger ∈ D.shelf sid) fun D' => D' = D := by
  have current : Asking w (Still h.db) .current := ask_still w fun s => h.keeps _ s rfl
  have scan : ∀ rest, Asking w (Still h.db) (.cmd (0x02 :: rest)) :=
    fun rest => ask_still w fun s => h.keeps _ s rfl
  refine Leaves.bind (J := fun sid D' => D' = D ∧ sidForUser passwd username = .ok sid)
    (K := fun D' => D' = D) (.lift (fun _ resolved => ⟨rfl, resolved⟩) rfl) ?_ fun _ same => same
  rintro sid D ⟨rfl, resolved⟩
  refine (Leaves.still (.ignore (glowStartScan_respects h.still))).bind ?_ fun _ same => same
  rintro _ D ⟨rfl, _⟩
  refine (Leaves.still (.attempt (capture_respects h.still current scan mine fuel calib cfg
    .identify timeout))).bind ?_ fun _ same => same
  rintro captured D ⟨rfl, _⟩
  have judged : Leaves h.db D (judge w fuel sid captured)
      (fun outcome D' => D' = D ∧ ∀ finger, outcome = .matched finger → finger ∈ D.shelf sid)
      fun D' => D' = D := by
    cases captured with
    | error e => exact .ret ⟨rfl, fun _ no => nomatch no⟩ rfl
    | ok _ =>
      refine (h.matchFinger_leaves fuel).attempt.bind ?_ fun _ same => same
      rintro found D ⟨rfl, matched⟩
      cases found with
      | error e => exact .ret ⟨rfl, fun _ no => nomatch no⟩ rfl
      | ok m => exact h.owned_leaves sid (matched m rfl).2
  refine judged.bind ?_ fun _ same => same
  rintro outcome D ⟨rfl, told⟩
  refine (Leaves.still (.ignore (glowEndScan_respects h.still))).bind ?_ fun _ same => same
  rintro _ D ⟨rfl, _⟩
  refine .ret ⟨rfl, fun sid' resolved' => ?_⟩ rfl
  rw [resolved] at resolved'
  cases resolved'
  exact told

end Matches

/-! The methods of a sensor that is open, called one after another. -/

inductive Call where
  | listEnrolledFingers (passwd : Except String Text) (username : Text)
  | verify (passwd : Except String Text) (username : Text) (mine : Option Nat) (fuel : Nat)
      (calib : Calibration) (cfg : SensorConfig) (timeout : Nat)
  | enroll (passwd : Except String Text) (username : Text) (mine : Option Nat) (fuel : Nat)
      (handle : Device.Handle) (finger : String) (timeout : Nat)
  | deleteEnrolledFingers (passwd : Except String Text) (username : Text)

def returned? {α : Type} : Outcome String α → Option α
  | .ok a => some a
  | _ => none

theorem returned?_eq_some {α : Type} {o : Outcome String α} {a : α} :
    returned? o = some a ↔ o = .ok a := by
  cases o with
  | ok b => exact ⟨fun h => congrArg _ (Option.some.inj h), fun h => congrArg _ (Outcome.ok.inj h)⟩
  | _ => exact ⟨nofun, nofun⟩

def recognized? : VerifyOutcome → Option String
  | .matched finger => some finger
  | _ => none

/-- Nothing is told of a user nobody knows. -/
def toldOf (passwd : Except String Text) (username : Text)
    (event : SidIdentity → Shelves.Event SidIdentity String) :
    List (Shelves.Event SidIdentity String) :=
  match sidForUser passwd username with
  | .ok sid => [event sid]
  | .error _ => []

/-- The state a call leaves, and what its return tells of whose fingers. -/
def Call.run (w : Usb.World S) (s : S) : Call → S × List (Shelves.Event SidIdentity String)
  | .listEnrolledFingers passwd username =>
    let r := Device.listEnrolledFingers w passwd username s
    (r.state, toldOf passwd username fun sid => .listed sid (returned? r.out))
  | .verify passwd username mine fuel calib cfg timeout =>
    let r := Device.verify w passwd username mine fuel calib cfg timeout s
    (r.state, toldOf passwd username fun sid =>
      .seen sid ((returned? r.out).bind recognized?))
  | .enroll passwd username mine fuel handle finger timeout =>
    let r := Device.enroll w passwd username mine fuel handle finger timeout s
    (r.state, if (fingerSubtype finger).isSome then
        toldOf passwd username fun sid => .put sid finger (returned? r.out).isSome
      else [])
  | .deleteEnrolledFingers passwd username =>
    let r := Device.deleteEnrolledFingers w passwd username s
    (r.state, toldOf passwd username fun sid => .cleared sid (returned? r.out))

def methods (w : Usb.World S) (s : S) :
    Machine S Call (Shelves.Event SidIdentity String) where
  init := s
  step s call := some (call.run w s)

section Calls

variable (h : Matcher w) {s : S} {passwd : Except String Text} {username : Text}

/-- The database is in shape, and works the shelves as the events say. -/
structure Works (s : S) (events : List (Shelves.Event SidIdentity String)) (t : S) : Prop where
  shaped : (h.db t).Shaped
  named : (h.db t).Named
  leads : Machine.Leads Shelves.Next (h.db s).shelf events (h.db t).shelf

theorem works_still (shaped : (h.db s).Shaped) (named : (h.db s).Named) {t : S}
    (same : h.db t = h.db s) {event : SidIdentity → Shelves.Event SidIdentity String}
    (told : ∀ sid, sidForUser passwd username = .ok sid →
      Shelves.Own ((h.db s).shelf (event sid).user) ((h.db s).shelf (event sid).user) (event sid)) :
    Works h s (toldOf passwd username event) t := by
  refine ⟨same ▸ shaped, same ▸ named, ?_⟩
  rw [same, toldOf]
  split
  case h_1 sid resolved => exact Machine.leads_single.mpr ⟨told sid resolved, fun _ _ => rfl⟩
  case h_2 => rfl

theorem list_works (shaped : (h.db s).Shaped) (named : (h.db s).Named) :
    Works h s ((Call.listEnrolledFingers passwd username).run w s).2
      ((Call.listEnrolledFingers passwd username).run w s).1 := by
  obtain ⟨_, same, value⟩ :=
    h.listEnrolledFingers_leaves passwd username shaped named s rfl
  refine works_still h shaped named same fun sid resolved => ⟨rfl, fun names told => ?_⟩
  exact (value names (returned?_eq_some.mp told)).2 sid resolved

theorem verify_works (shaped : (h.db s).Shaped) (named : (h.db s).Named) {mine : Option Nat}
    {fuel : Nat} {calib : Calibration} {cfg : SensorConfig} {timeout : Nat} :
    Works h s ((Call.verify passwd username mine fuel calib cfg timeout).run w s).2
      ((Call.verify passwd username mine fuel calib cfg timeout).run w s).1 := by
  obtain ⟨_, same, value⟩ := h.verify_leaves passwd username mine fuel
    calib cfg timeout s rfl
  refine works_still h shaped named same fun sid resolved => ⟨rfl, fun finger told => ?_⟩
  obtain ⟨outcome, returned, recognized⟩ := Option.bind_eq_some_iff.mp told
  refine (value outcome (returned?_eq_some.mp returned)).2 sid resolved finger ?_
  cases outcome with
  | matched finger' => rw [Option.some.inj recognized]
  | noMatch => cases recognized
  | retry e => cases recognized

theorem delete_works (shaped : (h.db s).Shaped) (named : (h.db s).Named) :
    Works h s ((Call.deleteEnrolledFingers passwd username).run w s).2
      ((Call.deleteEnrolledFingers passwd username).run w s).1 := by
  simp only [Call.run, Device.deleteEnrolledFingers, toldOf, Act.lift_bind]
  cases resolved : sidForUser passwd username with
  | error e => exact ⟨shaped, named, rfl⟩
  | ok sid =>
    have fits := sidForUser_fits resolved
    obtain ⟨_, confined, value⟩ := h.deleteFingers_leaves shaped fits (fun _ => true) s rfl
    obtain ⟨_, _, count⟩ := h.deleteAllFingers_count shaped named fits s rfl
    have adds := h.deleteFingers_gains sid (fun _ => true) s
    dsimp only [deleteAllFingers] at count ⊢
    generalize deleteFingers w sid (fun _ => true) s = r at confined value count adds
    refine ⟨confined.shaped, Adds.named adds named fun _ no => no.elim, Machine.leads_single.mpr ?_⟩
    refine ⟨?_, fun other apart => confined.shelf_other apart⟩
    show Shelves.Own _ _ (.cleared sid (returned? r.out))
    cases told : returned? r.out with
    | none => exact confined.shelf_subset shaped adds
    | some n =>
      have out := returned?_eq_some.mp told
      refine ⟨?_, count n out⟩
      have none_ := (value n out).2
      simp [Database.shelf, Shelves.Event.user, none_]

theorem enroll_works (shaped : (h.db s).Shaped) (named : (h.db s).Named) {mine : Option Nat}
    {fuel : Nat} {handle : Device.Handle} {finger : String} {timeout : Nat} :
    Works h s ((Call.enroll passwd username mine fuel handle finger timeout).run w s).2
      ((Call.enroll passwd username mine fuel handle finger timeout).run w s).1 := by
  simp only [Call.run, Device.enroll, toldOf, Act.lift_bind]
  cases resolved : sidForUser passwd username with
  | error e =>
    rw [ite_self]
    exact ⟨shaped, named, rfl⟩
  | ok sid =>
    cases known : fingerSubtype finger with
    | none => exact ⟨shaped, named, rfl⟩
    | some subtype =>
      have fits := sidForUser_fits resolved
      simp only [Outcome.ofOption, Act.ofOutcome_bind, Option.isSome_some, if_true]
      generalize request : (⟨mine, handle.calib, handle.cfg.toSensorConfig, handle.writeEnableBlob,
        sid, subtype, timeout⟩ : Request) = r
      have own : r.identity = sid ∧ r.subtype = subtype := by
        rw [← request]
        exact ⟨rfl, rfl⟩
      obtain ⟨rfl, rfl⟩ := own
      obtain ⟨_, confined, value⟩ := h.enroll_leaves fuel r shaped fits s rfl
      have adds := h.enroll_gains fuel r fits s
      have kept : ∀ f ∈ (h.db s).fingers, f ∈ (h.db (Enroll.enroll w fuel r s).state).fingers ∨
          f.ref.subtype = r.subtype := fun f hf =>
        (EnrollLoss.enroll_loses_only_replaced h.toFaulty fuel r s f hf).imp_right fun lost =>
          lost.1.1
      generalize Enroll.enroll w fuel r s = run at confined value adds kept
      have named' := Adds.named adds named fun f same => ⟨finger, by rw [same, known]⟩
      refine ⟨confined.shaped, named', Machine.leads_single.mpr ⟨⟨?_, ?_⟩, ?_⟩⟩
      · exact fun other apart => confined.shelf_apart shaped known adds kept apart
      · intro done
        obtain ⟨recid, told⟩ := Option.isSome_iff_exists.mp done
        exact (value recid (returned?_eq_some.mp told)).2.shelf known
      · exact fun other apart => confined.shelf_other apart

theorem call_works (shaped : (h.db s).Shaped) (named : (h.db s).Named) (call : Call) :
    Works h s (call.run w s).2 (call.run w s).1 := by
  cases call with
  | listEnrolledFingers passwd username => exact list_works h shaped named
  | verify passwd username mine fuel calib cfg timeout => exact verify_works h shaped named
  | enroll passwd username mine fuel handle finger timeout => exact enroll_works h shaped named
  | deleteEnrolledFingers passwd username => exact delete_works h shaped named

end Calls

/-! Two enrolments of a finger. The reply to the creation of its record is lost at the first. -/

theorem methods_again {s last : S}
    {moves : List (Machine.Move S Call (Shelves.Event SidIdentity String))}
    (run : (methods w s).Run moves last) (call : Call) : (methods w s).Run
      (moves ++ [⟨last, call, (call.run w last).1, (call.run w last).2⟩]) (call.run w last).1 :=
  .step run rfl

theorem methods_twice {w : Usb.World S} {s last : S} {call again : Call}
    (ends : last = (again.run w (call.run w s).1).1) : ∃ moves, (methods w s).Run moves last ∧
      Machine.trace moves = (call.run w s).2 ++ (again.run w (call.run w s).1).2 := by
  have none_ : (methods w s).Run [] s := .init
  rw [ends]
  refine ⟨_, methods_again (methods_again none_ call) again, ?_⟩
  simp only [Machine.trace_append, Machine.trace_cons, List.nil_append]
  simp only [Machine.trace, List.flatMap_nil, List.append_nil]

namespace Fated

def matcher : Matcher world where
  toKeeper := keeper
  matchesEnrolled := by
    intro d rsp m sent parsed
    obtain ⟨same, _⟩ := (world_cmd d _).2 rsp sent
    rw [same] at parsed
    cases parsed

def smallHandle : Device.Handle where
  cfg := ⟨Enroll.smallConfig, "VFS 9999", 0x199, ⟨0, 0, 0, 0, 0, 0⟩, 3⟩
  calib := ⟨[]⟩
  writeEnableBlob := Enroll.smallRequest.blob

def enrolAnn : Call :=
  .enroll DeleteList.onePasswd "ann".toList (some 1) 4 smallHandle "right-index-finger" 1000

/-- What is left of the two enrolments. -/
def afterRetry : Fated := (enrolAnn.run world (enrolAnn.run world lostCreation).1).1

def retryEvents : List (Shelves.Event SidIdentity String) :=
  [.put (syntheticSid 1000) "right-index-finger" false,
    .put (syntheticSid 1000) "right-index-finger" true]

theorem retry_told : (enrolAnn.run world lostCreation).2 ++
    (enrolAnn.run world (enrolAnn.run world lostCreation).1).2 = retryEvents := by
  decide +kernel

theorem retry_runs : ∃ moves, (methods world lostCreation).Run moves afterRetry ∧
    Machine.trace moves = retryEvents := by
  rw [← retry_told]
  exact methods_twice rfl

end Fated

section Histories

open Machine

variable (h : Matcher w) {s last : S}
  {moves : List (Move S Call (Shelves.Event SidIdentity String))}

theorem methods_lead (shaped : (h.db s).Shaped) (named : (h.db s).Named)
    (run : (methods w s).Run moves last) : ((h.db last).Shaped ∧ (h.db last).Named) ∧
      Leads Shelves.Next (h.db s).shelf (trace moves) (h.db last).shelf := by
  refine run.leads (fun s => (h.db s).shelf)
    (I := fun s => (h.db s).Shaped ∧ (h.db s).Named) ⟨shaped, named⟩ ?_
  intro s call t events sound taken
  obtain ⟨rfl, rfl⟩ := Prod.mk.inj (Option.some.inj taken)
  have works := call_works h sound.1 sound.2 call
  exact ⟨⟨works.shaped, works.named⟩, works.leads⟩

theorem empty_named : Named empty := fun _ mem => nomatch mem

theorem empty_shelf : shelf empty = Shelves.Empty := by
  funext sid
  refine Set.eq_empty_of_forall_notMem ?_
  rintro name ⟨f, hf, _⟩
  cases hf.1

/-- Whatever the methods are called with one after another, and whatever becomes of each: they
work the shelves, which are empty at first, as their returns say. -/
theorem shelves_worked (start : h.db s = empty) (run : (methods w s).Run moves last) :
    (h.db last).Shaped ∧ Leads Shelves.Next Shelves.Empty (trace moves) (h.db last).shelf := by
  have worked := methods_lead h (start ▸ empty_shaped) (start ▸ empty_named) run
  rw [start, empty_shelf] at worked
  exact ⟨worked.1.1, worked.2⟩

theorem shelves_worked_retried : ∃ moves,
    (methods Fated.world lostCreation).Run moves Fated.afterRetry ∧
      (Fated.matcher.db Fated.afterRetry).Shaped ∧
      Leads Shelves.Next Shelves.Empty Fated.retryEvents
        (Fated.matcher.db Fated.afterRetry).shelf := by
  obtain ⟨moves, run, told⟩ := Fated.retry_runs
  have worked := shelves_worked Fated.matcher rfl run
  rw [told] at worked
  exact ⟨moves, run, worked⟩

/-- The names listed for a user, as the calls before have it. -/
structure Told (events : List (Shelves.Event SidIdentity String)) (sid : SidIdentity)
    (names : List String) : Prop where
  once : names.Nodup
  asked : ∀ name ∈ names, Shelves.Asked events sid name
  lasting : ∀ name, Shelves.Lasting events sid name → name ∈ names

/-- Behind any calls, a listing tells each finger whose enrolment still stands, and none that was
not to be enrolled since the last deletion; nor is any other finger recognized. -/
theorem listing_told (start : h.db s = empty) (run : (methods w s).Run moves last)
    {passwd : Except String Text} {username : Text} {sid : SidIdentity}
    (resolved : sidForUser passwd username = .ok sid) :
    (∀ names, (Device.listEnrolledFingers w passwd username last).out = .ok names →
      Told (trace moves) sid names) ∧
    ∀ mine fuel calib cfg timeout finger,
      (Device.verify w passwd username mine fuel calib cfg timeout last).out =
        .ok (.matched finger) → Shelves.Asked (trace moves) sid finger := by
  obtain ⟨⟨shaped, named⟩, leads⟩ := methods_lead h (start ▸ empty_shaped) (start ▸ empty_named) run
  rw [start, empty_shelf] at leads
  constructor
  · intro names out
    obtain ⟨_, _, value⟩ := h.listEnrolledFingers_leaves passwd username
      shaped named last rfl
    obtain ⟨once, same⟩ := (value names out).2 sid resolved
    exact ⟨once, fun name mem => Shelves.asked leads ((same name).mp mem),
      fun name lasting => (same name).mpr (lasting.found leads)⟩
  · intro mine fuel calib cfg timeout finger out
    obtain ⟨_, _, value⟩ := h.verify_leaves passwd username mine fuel
      calib cfg timeout last rfl
    exact Shelves.asked leads ((value _ out).2 sid resolved finger rfl)

theorem listing_told_retried :
    Told Fated.retryEvents (syntheticSid 1000) ["right-index-finger"] := by
  obtain ⟨moves, run, told⟩ := Fated.retry_runs
  have resolved : sidForUser DeleteList.onePasswd "ann".toList = .ok (syntheticSid 1000) := by
    decide +kernel
  have listed : (Device.listEnrolledFingers Fated.world DeleteList.onePasswd "ann".toList
      Fated.afterRetry).out = .ok ["right-index-finger"] := by
    decide +kernel
  have behind := (listing_told Fated.matcher rfl run resolved).1 _ listed
  rwa [told] at behind

end Histories

section Beside

variable {S : Type} {w other : Usb.World S}

/-- A sensor that differs from a keeper only where neither a record is read nor one changed. -/
def Keeper.beside (h : Keeper w)
    (same : ∀ out s, Changes (.cmd out) = true ∨ ((h.db s).reply out).isSome = true →
      other (.cmd out) s = w (.cmd out) s)
    (keeps : ∀ q s, Changes q = false → h.db (other q s).2 = h.db s) : Keeper other where
  db := h.db
  answers := by
    intro out s rsp honest sent accepted reply
    rw [same out s (.inr (reply ▸ rfl))] at sent
    exact h.answers out s rsp honest sent accepted reply
  deletes := by
    intro rest s
    rw [same _ s (.inl rfl)]
    exact h.deletes rest s
  creates := by
    intro rest s
    rw [same _ s (.inl rfl)]
    exact h.creates rest s
  keeps := keeps
  missing := by
    intro out s rsp honest quiet sent denied reply
    rw [same out s (.inr (reply ▸ rfl))] at sent
    exact h.missing out s rsp honest quiet sent denied reply
  deleted := by
    intro dbid s rsp sent accepted
    rw [same _ s (.inl rfl)] at sent ⊢
    exact h.deleted dbid s rsp sent accepted
  makes := by
    intro parent kind storage data s creatable
    rw [same _ s (.inl rfl)]
    exact h.makes parent kind storage data s creatable
  made := by
    intro parent kind storage data s rsp creatable sent accepted
    rw [same _ s (.inl rfl)] at sent ⊢
    exact h.made parent kind storage data s rsp creatable sent accepted

end Beside

/-! A sensor that recognizes a finger. -/

namespace Fated

def holds (d : Fated) : Bool := d.db.fingers.any fun f => f.user = 11 ∧ f.ref.subtype = 2

/-- It recognizes the first finger that is enrolled, and is asked by one operation before that and
by the next one then. -/
def seeing : Usb.World Fated
  | .cmd out, d =>
    if out.head? = some 0x60 then
      (.ok (if d.holds then
        [0, 0, 14, 0, 1, 0, 4, 0, 11, 0, 0, 0, 3, 0, 2, 0, 2, 0] else [0, 0]), d)
    else world (.cmd out) d
  | .current, d => (if d.holds then 3 else 2, d)
  | q, d => world q d

theorem seeing_cmd {out : Bytes} (other : out.head? ≠ some 0x60) (d : Fated) :
    seeing (.cmd out) d = world (.cmd out) d :=
  if_neg other

def watcher : Matcher seeing where
  toKeeper := by
    refine keeper.beside (fun out d read => seeing_cmd ?_ d) ?_
    · intro head
      obtain ⟨rest, rfl⟩ := List.head?_eq_some_iff.mp head
      cases read with
      | inl changes => cases changes
      | inr reply => cases reply
    · intro q d quiet
      cases q with
      | cmd out =>
        by_cases head : out.head? = some 0x60
        · rw [seeing, if_pos head]
        · rw [seeing_cmd head]
          exact world_keeps _ d quiet
      | current => rfl
      | _ => exact world_keeps _ d quiet
  matchesEnrolled := by
    intro d rsp m sent parsed
    have answer : rsp = if d.holds then
        [0, 0, 14, 0, 1, 0, 4, 0, 11, 0, 0, 0, 3, 0, 2, 0, 2, 0] else [0, 0] :=
      (Except.ok.inj sent).symm
    rw [answer] at parsed
    split at parsed
    · rename_i holds
      obtain ⟨f, there, this⟩ := List.any_eq_true.mp holds
      have found : parseMatch [14, 0, 1, 0, 4, 0, 11, 0, 0, 0, 3, 0, 2, 0, 2, 0] =
          .ok ⟨11, 2, []⟩ := by decide
      obtain rfl := Outcome.ok.inj (found.symm.trans parsed)
      exact ⟨f, there, of_decide_eq_true this⟩
    · cases parsed

end Fated

end ValidityFprintd.Records
