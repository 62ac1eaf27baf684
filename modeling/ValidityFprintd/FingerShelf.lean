import ValidityFprintd.DeleteList
import ValidityFprintd.EnrollHistory
import ValidityFprintd.Handle
import ValidityFprintd.Shelves

/-! The fingers of each user as a shelf of their names: whatever the methods of a sensor are
called with one after another, and whatever fails of it, they work the shelves as they say. -/

namespace ValidityFprintd.Records
open Effect World Db Traffic EnrollLoss Device Database

/-! A finger's name and its subtype tell the same. -/

theorem fingerName_fingerSubtype {name : String} {subtype : UInt16}
    (h : fingerSubtype name = some subtype) : fingerName subtype = name := by
  unfold fingerSubtype at h
  split at h
  case h_11 => cases h
  all_goals
    cases h
    rfl

/-- Every finger is of a subtype that has a name of its own. -/
def Database.Named (db : Database) : Prop :=
  ∀ f ∈ db.fingers, ∃ name, fingerSubtype name = some f.ref.subtype

theorem Database.Named.subtype {db : Database} (named : db.Named) {f : FingerRecord}
    (hf : f ∈ db.fingers) {name : String} {subtype : UInt16}
    (h : fingerSubtype name = some subtype) :
    fingerName f.ref.subtype = name ↔ f.ref.subtype = subtype := by
  obtain ⟨own, known⟩ := named f hf
  constructor
  · intro same
    rw [fingerName_fingerSubtype known] at same
    rw [same, h] at known
    exact (Option.some.inj known).symm
  · rintro rfl
    exact fingerName_fingerSubtype h

def Database.shelf (db : Database) : Shelves SidIdentity String :=
  fun sid => {name | ∃ f ∈ db.fingerRecords sid, fingerName f.ref.subtype = name}

/-- The database has no finger it did not have, but for some of a kind. -/
def Adds (kind : FingerRecord → Prop) (db db' : Database) : Prop :=
  ∀ f ∈ db'.fingers, f ∈ db.fingers ∨ kind f

section Shelves

variable {D D' : Database} {sid other : SidIdentity}

theorem Database.Shaped.owner (shaped : D.Shaped) {f : FingerRecord} (hf : f ∈ D.fingers) :
    ∃ sid, f ∈ D.fingerRecords sid := by
  obtain ⟨u, hu, under⟩ := shaped.underUser f hf
  obtain ⟨sid, fits, encoded⟩ := shaped.known u hu
  have parsed : Sid.parseIdentity u.identity = .ok sid := by
    rw [encoded, Sid.parseIdentity_identityToBytes fits]
  exact ⟨sid, hf, u, ⟨hu, parsed⟩, under⟩

theorem Database.owner_unique {f : FingerRecord} (mine : f ∈ D.fingerRecords sid)
    (theirs : f ∈ D.fingerRecords other) : sid = other := by
  obtain ⟨_, u, hu, under⟩ := mine
  obtain ⟨_, v, hv, under'⟩ := theirs
  rw [users_inj hu.1 hv.1 (under.symm.trans under')] at hu
  exact Outcome.ok.inj (hu.2.symm.trans hv.2)

theorem Database.Confined.fingerRecords_iff (shaped : D.Shaped) (confined : Confined sid D D')
    {f : FingerRecord} (before : f ∈ D.fingers) (after : f ∈ D'.fingers) :
    f ∈ D'.fingerRecords sid ↔ f ∈ D.fingerRecords sid := by
  constructor
  · intro mine
    obtain ⟨owner, held⟩ := shaped.owner before
    by_cases same : owner = sid
    · rwa [← same]
    · have theirs : f ∈ D'.fingerRecords owner := by rwa [confined.fingers owner same]
      exact absurd (owner_unique theirs mine) same
  · intro mine
    obtain ⟨owner, held⟩ := confined.shaped.owner after
    by_cases same : owner = sid
    · rwa [← same]
    · rw [confined.fingers owner same] at held
      exact absurd (owner_unique held mine) same

theorem Database.Confined.shelf_other (confined : Confined sid D D') (apart : other ≠ sid) :
    D'.shelf other = D.shelf other := by
  rw [shelf, shelf, confined.fingers other apart]

def Database.namesUnder (db : Database) (user : UInt16) : List String :=
  (db.fingersOf user).map fun ref => fingerName ref.subtype

theorem Database.fingersOf_nodup (db : Database) (user : UInt16) : (db.fingersOf user).Nodup := by
  have sub : ((db.fingersOf user).map FingerRef.dbid).Sublist db.ids := by
    rw [fingersOf, List.map_map]
    exact (List.filter_sublist.map _).trans (List.sublist_append_right _ _)
  exact (db.ids_nodup.sublist sub).of_map

theorem Database.Shaped.namesUnder_shelf (shaped : D.Shaped) (named : D.Named) {u : UserRecord}
    (hu : u ∈ D.userRecords sid) :
    (D.namesUnder u.dbid).Nodup ∧ ∀ name, name ∈ D.namesUnder u.dbid ↔ name ∈ D.shelf sid := by
  have own : ∀ ref, ref ∈ D.fingersOf u.dbid ↔ ⟨u.dbid, ref⟩ ∈ D.fingerRecords sid := by
    intro ref
    rw [mem_fingersOf, shaped.mem_fingerRecords hu, and_iff_left rfl]
  constructor
  · refine List.Nodup.map_on (fun ref href ref' href' same => ?_) (D.fingersOf_nodup u.dbid)
    have first := (own ref).mp href
    have second := (own ref').mp href'
    obtain ⟨name, known⟩ := named _ first.1
    have alike := (named.subtype second.1 known).mp (same ▸ fingerName_fingerSubtype known)
    have one := shaped.finger sid ref.subtype ⟨first, rfl⟩ ⟨second, alike⟩
    exact (FingerRecord.mk.inj one).2
  · intro name
    rw [namesUnder, List.mem_map]
    constructor
    · rintro ⟨ref, held, same⟩
      exact ⟨⟨u.dbid, ref⟩, (own ref).mp held, same⟩
    · rintro ⟨⟨user, ref⟩, hf, same⟩
      obtain ⟨held, under⟩ := (shaped.mem_fingerRecords hu).mp hf
      obtain rfl : user = u.dbid := under
      exact ⟨ref, (own ref).mpr hf, same⟩

theorem Database.shelf_eq_empty (none_ : D.userRecords sid = ∅) : D.shelf sid = ∅ := by
  rw [shelf, fingerRecords_eq_empty none_]
  simp

theorem namesOf_decoded {us : List UserRecord} {users : List User}
    (rows : List.Forall₂ (fun u user => D.decoded u = .ok user) us users) :
    namesOf sid users = (us.filter fun u => Sid.parseIdentity u.identity = .ok sid).flatMap
      fun u => D.namesUnder u.dbid := by
  induction rows with
  | nil => rfl
  | @cons u user us users row _ ih =>
    obtain ⟨identity, parsed, rfl⟩ := DeleteList.decoded_ok.mp row
    simp only [namesOf, List.filter_cons, parsed, Outcome.ok.injEq] at ih ⊢
    split
    · rw [List.flatMap_cons, List.flatMap_cons, ih]
      rfl
    · exact ih

theorem Database.usersOf_nodup (db : Database) (storage : UInt16) : (db.usersOf storage).Nodup := by
  have sub : ((db.usersOf storage).map UserRecord.dbid).Sublist db.ids := by
    refine (List.filter_sublist.map _).trans ?_
    exact (List.sublist_append_right _ _).trans (List.sublist_append_left _ _)
  exact (db.ids_nodup.sublist sub).of_map

/-- The user has the record by which the sensor knows them, or no record that is listed. -/
theorem Database.Shaped.namesOf_listed (shaped : D.Shaped) {users : List User}
    (listed : D.listed = .ok users) : (D.userRecords sid = ∅ ∧ namesOf sid users = []) ∨
      ∃ u ∈ D.userRecords sid, namesOf sid users = D.namesUnder u.dbid := by
  unfold Database.listed at listed
  cases main : D.mainStorage with
  | none =>
    rw [main] at listed
    cases listed
    refine .inl ⟨?_, rfl⟩
    ext u
    refine iff_of_false (fun hu => ?_) (Set.notMem_empty u)
    obtain ⟨s, held, _⟩ := shaped.underStorage u hu.1
    rw [main] at held
    cases held
  | some s =>
    rw [main] at listed
    rw [namesOf_decoded (Outcome.each_eq_ok.mp listed)]
    generalize found : (D.usersOf s.dbid).filter
      (fun u => Sid.parseIdentity u.identity = .ok sid) = mine
    have mem : ∀ u, u ∈ mine ↔ u ∈ D.userRecords sid := by
      intro u
      rw [← found, List.mem_filter, DeleteList.mem_listed, decide_eq_true_eq]
      refine ⟨fun ⟨held, parsed⟩ => ⟨held.1, parsed⟩, fun ⟨held, parsed⟩ => ⟨⟨held, ?_⟩, parsed⟩⟩
      obtain ⟨s', main', under⟩ := shaped.underStorage u held
      rw [main] at main'
      rw [under, Option.some.inj main']
    have nodup : mine.Nodup := found ▸ (D.usersOf_nodup s.dbid).filter _
    match mine with
    | [] =>
      refine .inl ⟨?_, rfl⟩
      ext u
      exact iff_of_false (fun hu => List.not_mem_nil ((mem u).mpr hu)) (Set.notMem_empty u)
    | [u] => exact .inr ⟨u, (mem u).mp List.mem_cons_self, List.flatMap_singleton ..⟩
    | u :: v :: rest =>
      have same := shaped.user sid ((mem u).mp List.mem_cons_self)
        ((mem v).mp (List.mem_cons_of_mem u List.mem_cons_self))
      rw [same] at nodup
      exact absurd List.mem_cons_self (List.nodup_cons.mp nodup).1

/-- A listing tells what is on the user's shelf, each name once. -/
theorem Database.Shaped.namesOf_shelf (shaped : D.Shaped) (named : D.Named) {users : List User}
    (listed : D.listed = .ok users) :
    (namesOf sid users).Nodup ∧ ∀ name, name ∈ namesOf sid users ↔ name ∈ D.shelf sid := by
  obtain ⟨absent, told⟩ | ⟨u, hu, told⟩ := shaped.namesOf_listed listed
  · rw [told, shelf_eq_empty absent]
    exact ⟨List.nodup_nil, fun name => iff_of_false List.not_mem_nil (Set.notMem_empty name)⟩
  · rw [told]
    exact shaped.namesUnder_shelf named hu

/-! What a change makes of the shelves, told from what it may do to the fingers. -/

theorem Adds.named {kind : FingerRecord → Prop} (adds : Adds kind D D') (named : D.Named)
    (known : ∀ f, kind f → ∃ name, fingerSubtype name = some f.ref.subtype) : D'.Named := by
  intro f hf
  cases adds f hf with
  | inl before => exact named f before
  | inr new => exact known f new

theorem Database.Confined.shelf_subset (shaped : D.Shaped) (confined : Confined sid D D')
    (adds : Adds (fun _ => False) D D') : D'.shelf sid ⊆ D.shelf sid := by
  rintro name ⟨f, hf, same⟩
  have before := (adds f hf.1).resolve_right id
  exact ⟨f, (confined.fingerRecords_iff shaped before hf.1).mp hf, same⟩

theorem Database.Confined.shelf_apart (shaped : D.Shaped) (confined : Confined sid D D')
    {name : String} {subtype : UInt16} (known : fingerSubtype name = some subtype)
    (adds : Adds (fun f => f.ref.subtype = subtype) D D')
    (kept : ∀ f ∈ D.fingers, f ∈ D'.fingers ∨ f.ref.subtype = subtype) {other : String}
    (apart : other ≠ name) : other ∈ D'.shelf sid ↔ other ∈ D.shelf sid := by
  have unlike : ∀ f : FingerRecord, fingerName f.ref.subtype = other → f.ref.subtype ≠ subtype := by
    rintro f rfl same
    rw [same] at apart
    exact apart (fingerName_fingerSubtype known)
  constructor
  · rintro ⟨f, hf, same⟩
    have before := (adds f hf.1).resolve_right (unlike f same)
    exact ⟨f, (confined.fingerRecords_iff shaped before hf.1).mp hf, same⟩
  · rintro ⟨f, hf, same⟩
    have after := (kept f hf.1).resolve_right (unlike f same)
    exact ⟨f, (confined.fingerRecords_iff shaped hf.1 after).mpr hf, same⟩

theorem Replaced.shelf {subtype recid : UInt16} (replaced : Replaced sid subtype recid D D')
    {name : String} (known : fingerSubtype name = some subtype) : name ∈ D'.shelf sid := by
  obtain ⟨f, _, rfl, fingers⟩ := replaced
  have held : f ∈ D'.fingerRecords sid := by
    rw [fingers]
    exact Set.mem_insert f _
  exact ⟨f, held, fingerName_fingerSubtype known⟩

end Shelves

end ValidityFprintd.Records
