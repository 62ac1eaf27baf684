import ValidityFprintd.Authorize
import ValidityFprintd.Device

/-! The two ways `/etc/passwd` is read, from a uid to a name and from a name to a uid. Where every
name has one line, they meet on the same line. -/

namespace ValidityFprintd.Device

/-- A search for a key that no two entries share finds the entry that has it. -/
theorem find?_of_distinct {α β : Type} [DecidableEq β] {key : α → β} {l : List α}
    (distinct : l.Pairwise fun a b => key a ≠ key b) {a : α} (mem : a ∈ l) :
    l.find? (fun b => key b = key a) = some a := by
  induction l with
  | nil => cases mem
  | cons b l ih =>
    obtain ⟨first, rest⟩ := List.pairwise_cons.mp distinct
    cases List.mem_cons.mp mem with
    | inl here => simp [here]
    | inr later =>
      have other : key b ≠ key a := first a later
      rw [List.find?_cons_of_neg (by simpa using other)]
      exact ih rest later

/-- No two lines have the same first field. -/
def DistinctNames (text : Text) : Prop :=
  (Passwd.lines text).Pairwise fun a b =>
    (Passwd.fields a).head? ≠ (Passwd.fields b).head?

theorem nameIn_eq_some {uid : UInt32} {line name : Text} :
    Passwd.nameIn uid line = some name ↔ ∃ password id rest,
      Passwd.fields line = name :: password :: id :: rest ∧
        (Passwd.parseU32 id).toOption = some uid := by
  unfold Passwd.nameIn
  split
  · rename_i first password id rest shape
    constructor
    · intro found
      split at found
      · rename_i parsed
        obtain rfl := Option.some.inj found
        exact ⟨password, id, rest, shape, parsed⟩
      · cases found
    · rintro ⟨password', id', rest', shape', parsed⟩
      rw [shape] at shape'
      cases shape'
      rw [if_pos parsed]
  · rename_i short
    constructor
    · intro found
      cases found
    · rintro ⟨password, id, rest, shape, _⟩
      exact absurd shape (short name password id rest)

/-- The line that gives a uid its name gives the name its uid. -/
theorem uidForUser_of_name {text : Text} (distinct : DistinctNames text) {uid : UInt32}
    {name : Text} (named : Passwd.usernameForUid (.ok text) uid = .ok name) :
    Passwd.uidForUser (.ok text) name = .ok uid := by
  unfold Passwd.usernameForUid at named
  dsimp only at named
  split at named
  · cases named
  · rename_i name' found
    obtain rfl := Except.ok.inj named
    obtain ⟨line, mem, here⟩ := List.exists_of_findSome?_eq_some found
    obtain ⟨password, id, rest, shape, parsed⟩ := nameIn_eq_some.mp here
    have first : (Passwd.fields line).head? = some name' := by rw [shape]; rfl
    have search := find?_of_distinct distinct mem
    rw [first] at search
    have third : (Passwd.fields line)[2]? = some id := by rw [shape]; rfl
    unfold Passwd.uidForUser
    simp only [search, third]
    cases value : Passwd.parseU32 id with
    | error e =>
      rw [value] at parsed
      cases parsed
    | ok n =>
      rw [value] at parsed
      rw [Option.some.inj parsed]
      rfl

theorem sidForUser_of_name {text : Text} (distinct : DistinctNames text) {uid : UInt32}
    {name : Text} (named : Passwd.usernameForUid (.ok text) uid = .ok name) :
    sidForUser (.ok text) name = .ok (syntheticSid uid) := by
  rw [sidForUser, uidForUser_of_name distinct named]
  rfl

theorem syntheticSid_last (uid : UInt32) : (syntheticSid uid).subauth.getLast? = some uid := rfl

/-- A caller's own fingers are stored under its uid, and nobody else's are. -/
theorem own_uid {text : Text} (distinct : DistinctNames text) :
    (∀ uid name, Passwd.usernameForUid (.ok text) uid = .ok name → ∀ requested,
      (requested = [] ∨ requested = name → Daemon.whose uid name requested = .ok name ∧
        ∃ sid, sidForUser (.ok text) name = .ok sid ∧ sid = syntheticSid uid ∧
          sid.subauth.getLast? = some uid) ∧
      (uid ≠ 0 → requested ≠ [] → requested ≠ name →
        ∃ e, Daemon.whose uid name requested = .error e)) ∧
    ∀ uid uid' name name' sid, Passwd.usernameForUid (.ok text) uid = .ok name →
      Passwd.usernameForUid (.ok text) uid' = .ok name' → sidForUser (.ok text) name = .ok sid →
        sidForUser (.ok text) name' = .ok sid → uid = uid' := by
  constructor
  · intro uid name named requested
    constructor
    · intro own
      refine ⟨?_, _, sidForUser_of_name distinct named, rfl, syntheticSid_last uid⟩
      rw [Daemon.whose, if_pos own]
    · intro user given other
      unfold Daemon.whose
      rw [if_neg (not_or.mpr ⟨given, other⟩), if_neg user]
      exact ⟨_, rfl⟩
  · intro uid uid' name name' sid named named' mine theirs
    rw [sidForUser_of_name distinct named] at mine
    rw [sidForUser_of_name distinct named'] at theirs
    have last := congrArg (fun sid => sid.subauth.getLast?)
      (Except.ok.inj (mine.trans theirs.symm))
    rw [syntheticSid_last, syntheticSid_last] at last
    exact Option.some.inj last

/-- Two users, and a line that is neither's. -/
def sharedPasswd : Text :=
  "broken\nann:x:1000:1000::/home/ann:/bin/sh\nben:x:1001:1001::/home/ben:/bin/sh\n".toList

theorem own_uid_ann : Daemon.whose 1000 "ann".toList [] = .ok "ann".toList ∧
    ∃ sid, sidForUser (.ok sharedPasswd) "ann".toList = .ok sid ∧ sid = syntheticSid 1000 ∧
      sid.subauth.getLast? = some 1000 :=
  have distinct : DistinctNames sharedPasswd := by
    unfold DistinctNames
    decide +kernel
  ((own_uid distinct).1 1000 "ann".toList (by decide +kernel) []).1 (.inl rfl)

end ValidityFprintd.Device
