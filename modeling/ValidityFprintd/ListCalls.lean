import ValidityFprintd.ClaimLook

/-! A call that lists fingers: what it launches, and whose reply names any. -/

namespace ValidityFprintd.Daemon

variable {Client : Type} [DecidableEq Client] {uid : Client → UInt32} {d : System Client}
  {n : Nat} {call : Call Client} {env : Answers} {r : Done Client} {names : List String}
  {events : List (Event Client)}

omit [DecidableEq Client] in
/-- No reply names fingers. -/
def Nameless (events : List (Event Client)) : Prop :=
  ∀ n names, .replied n (.fingers names) ∉ events

section Nameless

omit [DecidableEq Client]

theorem nameless_sights (sights : ∀ e ∈ events, e.sight = true) : Nameless events := by
  intro m names mem
  cases sights _ mem

theorem Nameless.append {more : List (Event Client)} (h : Nameless events) (h' : Nameless more) :
    Nameless (events ++ more) := by
  intro m names mem
  cases List.mem_append.mp mem with
  | inl first => exact h m names first
  | inr second => exact h' m names second

theorem nameless_one {e : Event Client} (other : ∀ m names, e ≠ .replied m (.fingers names)) :
    Nameless [e] := fun m names mem => other m names (List.mem_singleton.mp mem).symm

theorem Nameless.reply (h : Nameless events) {reply : Reply}
    (other : ∀ names, reply ≠ .fingers names) : Nameless (d.reply n reply events).2 :=
  h.append (nameless_one fun _ names same => other names (Event.replied.inj same).2)

theorem nameless_nil : Nameless ([] : List (Event Client)) := fun _ _ mem => nomatch mem

theorem forUser_nameless {username : Text} {launch : Text → Done Client}
    (rest : ∀ user, Nameless (launch user).2) :
    Nameless (forUser uid d n call env username launch).2 := by
  unfold forUser
  split
  · exact (nameless_sights lookups_sight).reply nofun
  · exact rest _

theorem onceAuthorized_nameless {allowed : List (Event Client) → Done Client}
    (rest : ∀ events, Nameless events → Nameless (allowed events).2) :
    Nameless (onceAuthorized uid d n call env allowed).2 := by
  unfold onceAuthorized
  dsimp only
  split
  · exact (nameless_sights sights_append).reply nofun
  · exact rest _ (nameless_sights sights_append)

theorem jobReply_nameless {reply : List String → Reply}
    (other : ∀ found names, reply found ≠ .fingers names) :
    Nameless (jobReply d n env reply).2 := by
  unfold jobReply
  split
  · exact nameless_nil.reply nofun
  · exact nameless_nil.reply (other _)

theorem launchDelete_nameless {user : Text} :
    Nameless (launchDelete uid d n call env user).2 :=
  onceAuthorized_nameless fun _ h => h.append (nameless_one (by nofun))

end Nameless

theorem start_nameless {job : Job} {task : Task} : Nameless (start d n call job task).2 := by
  unfold start
  split
  · exact nameless_nil.reply nofun
  · split
    · exact nameless_nil.reply nofun
    · split
      · exact nameless_nil.reply nofun
      · exact (nameless_one (by nofun)).reply nofun

theorem fingers_replied (h : advance uid d n call env = some r) {m : Nat}
    (mem : .replied m (.fingers names) ∈ r.2) :
    ∃ username, call.method = .listEnrolledFingers username ∧ call.phase = .waiting ∧
      env.job = .ok names := by
  have not_ : ∀ {r' : Done Client}, Nameless r'.2 → some r' = some r → False :=
    fun silent same => silent m names (Option.some.inj same ▸ mem)
  have stops : Nameless (stop d n call).2 := by
    unfold stop
    split
    · exact nameless_nil.reply nofun
    · exact (nameless_one (by nofun)).reply nofun
  unfold advance at h
  split at h
  case h_1 =>
    refine (not_ ?_ h).elim
    unfold claim
    split
    · exact nameless_nil.reply nofun
    · split
      · exact (nameless_sights lookups_sight).reply nofun
      · exact ((nameless_sights lookups_sight).append (nameless_one (by nofun))).reply nofun
  case h_2 =>
    refine (not_ ?_ h).elim
    unfold release
    split
    · exact nameless_nil.reply nofun
    · exact (nameless_one (by nofun)).reply nofun
  case h_3 =>
    refine (not_ (forUser_nameless fun user => ?_) h).elim
    exact (nameless_sights lookups_sight).append (nameless_one (by nofun))
  case h_4 username method phase =>
    refine ⟨username, method, phase, ?_⟩
    obtain rfl := Option.some.inj h
    unfold jobReply at mem
    split at mem
    · cases List.mem_singleton.mp mem
    · rename_i found ended
      cases List.mem_singleton.mp mem
      exact ended
  case h_5 => exact (not_ (forUser_nameless fun user => nameless_sights lookups_sight) h).elim
  case h_6 => exact (not_ launchDelete_nameless h).elim
  case h_7 => exact (not_ (jobReply_nameless fun _ _ => by nofun) h).elim
  case h_8 =>
    refine (not_ ?_ h).elim
    unfold deleteEnrolledFingers2
    split
    · exact nameless_nil.reply nofun
    · split
      · exact nameless_nil.reply nofun
      · exact nameless_nil
  case h_9 => exact (not_ launchDelete_nameless h).elim
  case h_10 => exact (not_ (jobReply_nameless fun _ _ => by nofun) h).elim
  case h_11 =>
    refine (not_ ?_ h).elim
    unfold enrollStart
    split
    · exact nameless_nil.reply nofun
    · exact nameless_nil
  case h_12 => exact (not_ (onceAuthorized_nameless fun _ silent => silent) h).elim
  case h_13 => exact (not_ start_nameless h).elim
  case h_14 => exact (not_ stops h).elim
  case h_15 => exact (not_ start_nameless h).elim
  case h_16 => exact (not_ stops h).elim
  case h_17 => cases h

theorem list_launches {username : Text} (method : call.method = .listEnrolledFingers username)
    (h : advance uid d n call env = some r) {m : Nat} {job : Job} {client : Option Client}
    {user : Text} (mem : .launched m job client user ∈ r.2) : job = .list := by
  obtain ⟨sender, _, phase⟩ := call
  obtain rfl : _ = Method.listEnrolledFingers username := method
  cases phase with
  | arrived =>
    obtain rfl := Option.some.inj h
    simp only [listEnrolledFingers, forUser] at mem
    split at mem
    · obtain looked | reply := List.mem_append.mp mem
      · cases lookups_sight _ looked
      · cases List.mem_singleton.mp reply
    · obtain looked | now := List.mem_append.mp mem
      · cases lookups_sight _ looked
      · cases List.mem_singleton.mp now
        rfl
  | waiting =>
    obtain rfl := Option.some.inj h
    simp only [jobReply] at mem
    split at mem
    · cases List.mem_singleton.mp mem
    · cases List.mem_singleton.mp mem
  | authorizing user => cases h
  | authorized => cases h

theorem advance_method (h : advance uid d n call env = some r) {call' : Call Client}
    (there : r.1.calls n = some call') : call'.method = call.method := by
  have closed : ∀ {d' : System Client} {reply : Reply} {events : List (Event Client)},
      (d'.reply n reply events).1.calls n = some call' → False := by
    intro d' reply events there
    have none_ : (d'.reply n reply events).1.calls n = none := Function.update_self ..
    rw [none_] at there
    cases there
  have open_ : ∀ {phase : Phase} {events : List (Event Client)},
      (d.goOn n call phase events).1.calls n = some call' → call'.method = call.method := by
    intro phase events there
    have some_ : (d.goOn n call phase events).1.calls n = some { call with phase := phase } :=
      Function.update_self ..
    rw [some_] at there
    exact Option.some.inj there ▸ rfl
  cases advance_moves h with
  | quiet q =>
    cases q with
    | fails | answers => exact (closed there).elim
    | named | held | asks | permitted | lists | deletes => exact open_ there
  | claims | releases | stops | starts => exact (closed there).elim

end ValidityFprintd.Daemon
