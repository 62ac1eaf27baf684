import ValidityFprintd.Passwd

/-! Who may ask the daemon to do what: the bus and polkit answer as they like, the daemon
decides from what they say. -/

namespace ValidityFprintd.Daemon

/-- What a method call can fail with. -/
inductive Error where
  | failed (text : String)
  | accessDenied (text : String)
  | bus (text : String)
  deriving DecidableEq

/-- Whose fingerprints a call is about: a caller may name itself, and only root anyone
else. -/
def whose (callerUid : UInt32) (callerName requested : Text) : Except String Text :=
  if requested = [] ∨ requested = callerName then .ok callerName
  else if callerUid = 0 then .ok requested
  else .error (String.ofList callerName ++ " may not act for " ++ String.ofList requested ++
    ": only root can name another account")

theorem whose_ok {uid : UInt32} {name requested user : Text}
    (h : whose uid name requested = .ok user) : uid = 0 ∨ user = name := by
  unfold whose at h
  split at h
  · exact .inr (Except.ok.inj h).symm
  · split at h
    · rename_i root
      exact .inl root
    · cases h

example : whose 1000 "andre".toList [] = .ok "andre".toList := rfl

example : whose 0 "root".toList "andre".toList = .ok "andre".toList := by decide +kernel

def enrollAction : String := "net.reactivated.fprint.device.enroll"

inductive Polkit where
  | unreachable (e : String)
  | failed (e : String)
  | answered (authorized : Bool)
  deriving DecidableEq

/-- What the world around the daemon answers while a call takes a step. -/
structure Answers where
  /-- `NameHasOwner` of the client that holds the claim. -/
  peerIsAlive : Bool
  /-- `GetConnectionUnixUser`: an error where the client is gone. -/
  unixUser : Except String Unit
  passwd : Except String Text
  polkit : Polkit
  /-- What a job came to: the fingers it listed, or its error. -/
  job : Except String (List String)

variable {Client : Type} (uid : Client → UInt32) (env : Answers)

/-- The uid and login name of the process that sent a message. -/
def caller (sender : Option Client) : Except Error (UInt32 × Text) :=
  match sender with
  | none => .error (.failed "message has no sender to resolve")
  | some client =>
    match env.unixUser with
    | .error e => .error (.bus e)
    | .ok () =>
      match Passwd.usernameForUid env.passwd (uid client) with
      | .error e => .error (.failed e)
      | .ok name => .ok (uid client, name)

def resolveUser (sender : Option Client) (username : Text) : Except Error Text :=
  match caller uid env sender with
  | .error e => .error e
  | .ok (callerUid, name) => (whose callerUid name username).mapError .accessDenied

/-- Ask polkit whether the sender may do `action`. Root needs no asking. -/
def authorize (sender : Option Client) (action : String) : Except Error Unit :=
  match caller uid env sender with
  | .error e => .error e
  | .ok (callerUid, _) =>
    if callerUid = 0 then .ok ()
    else
      match env.polkit with
      | .unreachable e => .error (.accessDenied ("polkit is needed to " ++ action ++ ": " ++ e))
      | .failed e => .error (.accessDenied ("polkit: " ++ e))
      | .answered true => .ok ()
      | .answered false => .error (.accessDenied ("not authorized for " ++ action))

variable {uid env}

theorem caller_ok {sender : Option Client} {callerUid : UInt32} {name : Text}
    (h : caller uid env sender = .ok (callerUid, name)) : ∃ client, sender = some client ∧
      callerUid = uid client ∧ env.unixUser = .ok () ∧
      Passwd.usernameForUid env.passwd (uid client) = .ok name := by
  unfold caller at h
  cases sender with
  | none => cases h
  | some client =>
    simp only at h
    split at h
    · cases h
    · rename_i here
      split at h
      · cases h
      · rename_i named
        cases h
        exact ⟨client, rfl, rfl, here, named⟩

/-- A call that is not root's is about the caller itself. -/
theorem resolveUser_ok {sender : Option Client} {username user : Text}
    (h : resolveUser uid env sender username = .ok user) : ∃ client, sender = some client ∧
      env.unixUser = .ok () ∧
      (uid client = 0 ∨ Passwd.usernameForUid env.passwd (uid client) = .ok user) := by
  unfold resolveUser at h
  split at h
  · cases h
  · rename_i callerUid name called
    obtain ⟨client, rfl, rfl, here, named⟩ := caller_ok called
    refine ⟨client, rfl, here, ?_⟩
    cases whoever : whose (uid client) name username with
    | error e =>
      rw [whoever] at h
      cases h
    | ok user' =>
      rw [whoever] at h
      obtain rfl : user' = user := Except.ok.inj h
      cases whose_ok whoever with
      | inl root => exact .inl root
      | inr self => exact .inr (self ▸ named)

/-- Whoever is not root needs polkit's yes. -/
theorem authorize_ok {sender : Option Client} {action : String}
    (h : authorize uid env sender action = .ok ()) : ∃ client name, sender = some client ∧
      caller uid env sender = .ok (uid client, name) ∧
      (uid client = 0 ∨ env.polkit = .answered true) := by
  unfold authorize at h
  split at h
  · cases h
  · rename_i callerUid name called
    obtain ⟨client, rfl, rfl, here, named⟩ := caller_ok called
    refine ⟨client, name, rfl, called, ?_⟩
    split at h
    · rename_i root
      exact .inl root
    · split at h
      · cases h
      · cases h
      · rename_i yes
        exact .inr yes
      · cases h

end ValidityFprintd.Daemon
