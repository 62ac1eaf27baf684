import ValidityFprintd.Enroll

/-! The write transactions: unlock, write, commit. What a log of commands may look like
when a function returns a value and when it does not, and which of them leave the sensor
unlocked. -/

namespace ValidityFprintd.WriteBracket
open Effect Usb

variable {S : Type}

def Unlocked (e : Entry S) : Prop := Sent 0x06 e ∧ Accepted e

def IsWrite (e : Entry S) : Prop := Sent 0x3f e ∨ Sent 0x41 e ∨ Sent 0x47 e ∨ Sent 0x6b e

/-- A commit that succeeded, a sensor with nothing to commit included. -/
def Committed (e : Entry S) : Prop :=
  Sent 0x1a e ∧ ∃ out rsp, exchanged e = some (out, .ok rsp) ∧ (checkStatus rsp = .ok () ∨
    statusIs Flash.statusNothingToCommit rsp = true)

def Plain (e : Entry S) : Prop := ¬ Sent 0x06 e ∧ ¬ IsWrite e ∧ ¬ Sent 0x1a e

/-- A flash write whose transfer failed. -/
def Lost (e : Entry S) : Prop := (Sent 0x3f e ∨ Sent 0x41 e) ∧ Failed e

/-- The log of functions that returned values: whole transactions, and reads between. -/
inductive Brackets : List (Entry S) → Prop
  | nil : Brackets []
  | plain {e : Entry S} {l : List (Entry S)} : Plain e → Brackets l → Brackets (e :: l)
  | bracket {e wr c : Entry S} {l : List (Entry S)} :
      Unlocked e → IsWrite wr → Accepted wr → Committed c → Brackets l →
      Brackets (e :: wr :: c :: l)

/-- What may be left at the end of a log where a function failed. -/
inductive Remains : List (Entry S) → Prop
  | none : Remains []
  | plain {e : Entry S} : Plain e → Remains [e]
  | refused {e : Entry S} : Sent 0x06 e → ¬ Accepted e → Remains [e]
  | closed {e wr c : Entry S} :
      Unlocked e → IsWrite wr → ¬ Lost wr → Sent 0x1a c → Remains [e, wr, c]
  | unclosed {e wr : Entry S} : Unlocked e → Lost wr → Remains [e, wr]

def Broken (l : List (Entry S)) : Prop := ∃ front back, l = front ++ back ∧ Brackets front ∧
  Remains back

theorem Brackets.append {l m : List (Entry S)} (hl : Brackets l) (hm : Brackets m) :
    Brackets (l ++ m) := by
  induction hl with
  | nil => exact hm
  | plain he _ ih => exact .plain he ih
  | bracket he hw ha hc _ ih => exact .bracket he hw ha hc ih

instance brackets_chains : Chains (Brackets (S := S)) Broken where
  nil := .nil
  append := Brackets.append
  cut := by
    rintro l m hl ⟨front, back, rfl, hf, hb⟩
    exact ⟨l ++ front, back, by simp, hl.append hf, hb⟩
  weaken := fun hl => ⟨_, [], by simp, hl, .none⟩

theorem Remains.broken {l : List (Entry S)} (h : Remains l) : Broken l := ⟨[], l, rfl, .nil, h⟩

theorem plain_of_first {e : Entry S} {c : UInt8} (h : Sent c e) (h6 : c ≠ 0x06) (h1a : c ≠ 0x1a)
    (hw : c ≠ 0x3f ∧ c ≠ 0x41 ∧ c ≠ 0x47 ∧ c ≠ 0x6b) : Plain e := by
  refine ⟨fun h' => h6 (h.det h'), ?_, fun h' => h1a (h.det h')⟩
  rintro (h' | h' | h' | h')
  · exact hw.1 (h.det h')
  · exact hw.2.1 (h.det h')
  · exact hw.2.2.1 (h.det h')
  · exact hw.2.2.2 (h.det h')

theorem plain_of_silent {e : Entry S} (h : exchanged e = none) : Plain e := by
  have never : ∀ c, ¬ Sent c e := by
    rintro c ⟨rest, answer, he⟩
    rw [h] at he
    cases he
  refine ⟨never _, ?_, never _⟩
  rintro (h' | h' | h' | h') <;> exact never _ h'

section Steps

variable (w : World S)

theorem cmd_keeps {out rest : Bytes} {c : UInt8} (ho : out = c :: rest) (h6 : c ≠ 0x06)
    (h1a : c ≠ 0x1a) (hw : c ≠ 0x3f ∧ c ≠ 0x41 ∧ c ≠ 0x47 ∧ c ≠ 0x6b) :
    Keeps Brackets Broken (cmd w out) := by
  intro s
  obtain ⟨e, t, ⟨rsp, he, run⟩ | ⟨err, he, run⟩⟩ := cmd_run w out s
  · have plain : Plain e := plain_of_first ⟨rest, _, ho ▸ he⟩ h6 h1a hw
    rw [run]
    exact .plain plain .nil
  · have plain : Plain e := plain_of_first ⟨rest, _, ho ▸ he⟩ h6 h1a hw
    rw [run]
    exact (Remains.plain plain).broken

theorem ask_keeps (q : Query) (h : ∀ s a, exchanged (⟨s, q, a⟩ : Entry S) = none) :
    Keeps Brackets Broken (w.ask q : Drv S (Query.Answer q)) := fun s =>
  .plain (plain_of_silent (h s _)) .nil

theorem waitInt_keeps (fuel deadline : Nat) :
    Keeps Brackets Broken (Capture.waitInt w fuel deadline) := by
  refine .loop (fun _ => ?_) fuel ()
  have poll : Keeps Brackets Broken (pollInterrupt w) :=
    .bind (ask_keeps w _ fun _ _ => rfl) fun b => .lift b
  refine .bind poll fun b => ?_
  cases b with
  | some b => exact .ret _
  | none =>
    refine .bind (ask_keeps w _ fun _ _ => rfl) fun t => ?_
    exact .bind (.bailIf _ _) fun _ => .ret _

theorem writeEnable_run (blob : WriteEnable) (s : S) :
    ∃ e t, Sent 0x06 e ∧ ((Accepted e ∧ Flash.writeEnable w blob s = ⟨.ok (), t, [e]⟩) ∨
      (¬ Accepted e ∧ ∃ err, Flash.writeEnable w blob s = ⟨.err err, t, [e]⟩)) := by
  obtain ⟨e, t, ⟨answer, he⟩, run⟩ := exchange_run w blob.val "enabling database writes" s
  obtain ⟨rest, hb⟩ : ∃ rest, blob.val = 0x06 :: rest := by
    match h : blob.val, blob.property with
    | c :: rest, hc =>
      obtain rfl : c = 0x06 := by simpa using hc
      exact ⟨rest, rfl⟩
  exact ⟨e, t, ⟨rest, answer, hb ▸ he⟩, run⟩

theorem callCleanups_run (s : S) :
    ∃ c t, Sent 0x1a c ∧ ((Committed c ∧ Flash.callCleanups w s = ⟨.ok (), t, [c]⟩) ∨
      ∃ err, Flash.callCleanups w s = ⟨.err err, t, [c]⟩) := by
  obtain ⟨c, t, ⟨rsp, hc, run⟩ | ⟨err, hc, run⟩⟩ := cmd_run w [0x1a] s
  · refine ⟨c, t, ⟨[], _, hc⟩, ?_⟩
    have step : Flash.callCleanups w s = Act.follow (cmd w [0x1a] s) _ := rfl
    rw [step, run, Act.follow_ok]
    by_cases nothing : statusIs Flash.statusNothingToCommit rsp = true
    · exact .inl ⟨⟨⟨[], _, hc⟩, _, rsp, hc, .inr nothing⟩, by simp only [if_pos nothing]; rfl⟩
    · rw [if_neg nothing, checked_run]
      cases status : checkStatus rsp with
      | ok u => exact .inl ⟨⟨⟨[], _, hc⟩, _, rsp, hc, .inl status⟩, rfl⟩
      | error err => exact .inr ⟨context "committing database writes" err, rfl⟩
  · refine ⟨c, t, ⟨[], _, hc⟩, .inr ⟨err, ?_⟩⟩
    have step : Flash.callCleanups w s = Act.follow (cmd w [0x1a] s) _ := rfl
    rw [step, run, Act.follow_err]

theorem closing_run {α : Type} (result : Except String α) (s : S) :
    ∃ c t out, Sent 0x1a c ∧ Flash.closing w result s = ⟨out, t, [c]⟩ ∧
      ∀ a, out = .ok a → result = .ok a ∧ Committed c := by
  have step : Flash.closing w result s = Act.follow (Act.attempt (Flash.callCleanups w) s)
    fun cleanup => Act.lift result >>= fun a => Act.lift cleanup >>= fun _ => Act.ret a := rfl
  obtain ⟨c, t, commit, ⟨done, run⟩ | ⟨err, run⟩⟩ := callCleanups_run w s
  · have tried : Act.attempt (Flash.callCleanups w) s = ⟨.ok (.ok ()), t, [c]⟩ := by
      simp only [Act.attempt, run]
    rw [step, tried, Act.follow_ok]
    cases result with
    | ok a => exact ⟨c, t, .ok a, commit, rfl, fun b hb => ⟨by rw [Outcome.ok.inj hb], done⟩⟩
    | error e => exact ⟨c, t, .err e, commit, rfl, fun b hb => by cases hb⟩
  · have tried : Act.attempt (Flash.callCleanups w) s = ⟨.ok (.error err), t, [c]⟩ := by
      simp only [Act.attempt, run]
    rw [step, tried, Act.follow_ok]
    cases result with
    | ok a => exact ⟨c, t, .err err, commit, rfl, fun b hb => by cases hb⟩
    | error e => exact ⟨c, t, .err e, commit, rfl, fun b hb => by cases hb⟩

theorem bracket_ends {α : Type} {e wr c : Entry S} {t : S} {out : Outcome String α}
    (unlocked : Unlocked e) (isWrite : IsWrite wr) (kept : ¬ Lost wr) (commit : Sent 0x1a c)
    (ok : ∀ a, out = .ok a → Accepted wr ∧ Committed c) :
    Ends Brackets Broken (⟨out, t, [e, wr, c]⟩ : Result String (Entry S) S α) := by
  have remains : Broken [e, wr, c] := (Remains.closed unlocked isWrite kept commit).broken
  cases out with
  | ok a => exact .bracket unlocked isWrite (ok a rfl).1 (ok a rfl).2 .nil
  | err err => exact remains
  | panic => exact remains
  | stuck => exact remains

theorem commitAfter_keeps {α : Type} (blob : WriteEnable) {write : Drv S α}
    (hw : ∀ s, ∃ wr t out, write s = ⟨out, t, [wr]⟩ ∧ IsWrite wr ∧ ¬ Lost wr ∧
      ((∃ a, out = .ok a ∧ Accepted wr) ∨ ∃ err, out = .err err)) :
    Keeps Brackets Broken (Flash.commitAfter w blob write) := by
  intro s
  have step : Flash.commitAfter w blob write s = Act.follow (Flash.writeEnable w blob s) fun _ =>
      Act.attempt write >>= fun result => Flash.closing w result := rfl
  obtain ⟨e, t, unlock, ⟨accepted, run⟩ | ⟨refused, err, run⟩⟩ := writeEnable_run w blob s
  · obtain ⟨wr, u, out, wrote, isWrite, kept, ends⟩ := hw t
    rw [step, run, Act.follow_ok, Act.bind_run]
    obtain ⟨a, rfl, good⟩ | ⟨err, rfl⟩ := ends
    · have tried : Act.attempt write t = ⟨.ok (.ok a), u, [wr]⟩ := by
        simp only [Act.attempt, wrote]
      obtain ⟨c, v, out, commit, closed, ok⟩ := closing_run w (.ok a) u
      rw [tried, Act.follow_ok, closed]
      exact bracket_ends ⟨unlock, accepted⟩ isWrite kept commit fun b hb => ⟨good, (ok b hb).2⟩
    · have tried : Act.attempt write t = ⟨.ok (.error err), u, [wr]⟩ := by
        simp only [Act.attempt, wrote]
      obtain ⟨c, v, out, commit, closed, ok⟩ := closing_run (α := α) w (.error err) u
      rw [tried, Act.follow_ok, closed]
      exact bracket_ends ⟨unlock, accepted⟩ isWrite kept commit fun b hb => by cases (ok b hb).1
  · rw [step, run, Act.follow_err]
    exact (Remains.refused unlock refused).broken

theorem commitAfterReply_keeps (blob : WriteEnable) {out rest : Bytes} {k : UInt8}
    (ho : out = k :: rest) (hk : k = 0x3f ∨ k = 0x41) (text : String) :
    Keeps Brackets Broken (Flash.commitAfterReply w blob out text) := by
  intro s
  have step : Flash.commitAfterReply w blob out text s =
      Act.follow (Flash.writeEnable w blob s) fun _ => cmd w out >>= fun rsp =>
        Flash.closing w ((checkStatus rsp).mapError (context text)) := rfl
  have first : ∀ {wr answer}, exchanged wr = some (out, answer) →
      Sent (S := S) 0x3f wr ∨ Sent 0x41 wr := by
    intro wr answer hwr
    rw [ho] at hwr
    obtain rfl | rfl := hk
    · exact .inl ⟨rest, answer, hwr⟩
    · exact .inr ⟨rest, answer, hwr⟩
  obtain ⟨e, t, unlock, ⟨accepted, run⟩ | ⟨refused, err, run⟩⟩ := writeEnable_run w blob s
  · rw [step, run, Act.follow_ok, Act.bind_run]
    obtain ⟨wr, u, ⟨rsp, hwr, wrote⟩ | ⟨err, hwr, wrote⟩⟩ := cmd_run w out t
    · obtain ⟨c, v, out', commit, closed, ok⟩ :=
        closing_run w ((checkStatus rsp).mapError (context text)) u
      rw [wrote, Act.follow_ok, closed]
      have isWrite : IsWrite wr := (first hwr).elim .inl fun h => .inr (.inl h)
      have kept : ¬ Lost wr := by
        rintro ⟨_, out, err, failed⟩
        rw [hwr] at failed
        cases failed
      refine bracket_ends ⟨unlock, accepted⟩ isWrite kept commit fun a ha => ?_
      obtain ⟨status, committed⟩ := ok a ha
      refine ⟨⟨out, rsp, hwr, ?_⟩, committed⟩
      cases checked : checkStatus rsp with
      | ok u => rfl
      | error err =>
        rw [checked] at status
        cases status
    · rw [wrote, Act.follow_err]
      have lost : Lost wr := ⟨first hwr, out, err, hwr⟩
      exact (Remains.unclosed ⟨unlock, accepted⟩ lost).broken
  · rw [step, run, Act.follow_err]
    exact (Remains.refused unlock refused).broken

theorem write_run {α : Type} {out rest : Bytes} {k : UInt8} (ho : out = k :: rest)
    (hk : k = 0x47 ∨ k = 0x6b) (text : String) {look : Bytes → Drv S α}
    (hl : ∀ rsp t, checkStatus rsp = .ok () →
      (∃ a, look rsp t = ⟨.ok a, t, []⟩) ∨ ∃ err, look rsp t = ⟨.err err, t, []⟩) (s : S) :
    ∃ wr t out', (request w out text >>= look) s = ⟨out', t, [wr]⟩ ∧ IsWrite wr ∧
      ¬ Lost wr ∧ ((∃ a, out' = .ok a ∧ Accepted wr) ∨ ∃ err, out' = .err err) := by
  obtain ⟨wr, t, ⟨answer, hwr⟩, run⟩ := request_run w out text s
  have sent : Sent k wr := ⟨rest, answer, ho ▸ hwr⟩
  have kept : ¬ Lost wr := by
    rintro ⟨h | h, _⟩ <;> have same := sent.det h <;> rcases hk with rfl | rfl <;>
      exact absurd same (by decide)
  have isWrite : IsWrite wr := by
    rcases hk with rfl | rfl
    · exact .inr (.inr (.inl sent))
    · exact .inr (.inr (.inr sent))
  rw [Act.bind_run]
  obtain ⟨rsp, hrsp, status, run⟩ | ⟨_, err, run⟩ := run
  · rw [run, Act.follow_ok]
    obtain ⟨a, looked⟩ | ⟨err, looked⟩ := hl rsp t status
    · rw [looked]
      exact ⟨wr, t, _, rfl, isWrite, kept, .inl ⟨a, rfl, out, rsp, hrsp, status⟩⟩
    · rw [looked]
      exact ⟨wr, t, _, rfl, isWrite, kept, .inr ⟨err, rfl⟩⟩
  · rw [run, Act.follow_err]
    exact ⟨wr, t, _, rfl, isWrite, kept, .inr ⟨err, rfl⟩⟩

theorem createRecord_run (parent kind storage : UInt16) (data : Bytes) (s : S) :
    ∃ wr t out, Db.createRecord w parent kind storage data s = ⟨out, t, [wr]⟩ ∧ IsWrite wr ∧
      ¬ Lost wr ∧ ((∃ a, out = .ok a ∧ Accepted wr) ∨ ∃ err, out = .err err) := by
  refine write_run w rfl (.inl rfl) _ (fun rsp t _ => ?_) s
  rw [Act.bailIf_bind]
  by_cases short : rsp.length < 4
  · rw [if_pos short]
    exact .inr ⟨_, rfl⟩
  · rw [if_neg short]
    obtain ⟨n, hn⟩ := Bytes.rd16_ok (ε := String) (b := rsp) (o := 2) (by omega)
    rw [hn]
    exact .inl ⟨n, rfl⟩

theorem feedTemplate_run (prev : Bytes) (s : S) :
    ∃ wr t out, Enroll.feedTemplate w prev s = ⟨out, t, [wr]⟩ ∧ IsWrite wr ∧
      ¬ Lost wr ∧ ((∃ a, out = .ok a ∧ Accepted wr) ∨ ∃ err, out = .err err) := by
  refine write_run w rfl (.inr rfl) _ (fun rsp t status => ?_) s
  obtain ⟨rest, hr⟩ := (checkStatus_ok_iff rsp).mp status
  have long : 2 ≤ rsp.length := by
    rw [hr, List.length_cons, List.length_cons]
    omega
  rw [Bytes.sliceFrom_eq long]
  exact .inl ⟨_, rfl⟩

theorem dbInfo_keeps : Keeps Brackets Broken (Db.dbInfo w) := by
  refine .bind (cmd_keeps w rfl (by decide) (by decide) (by decide)) fun rsp => ?_
  refine .bind (.lift _) fun _ => ?_
  exact .ofOutcome _

theorem newRecord_keeps (blob : WriteEnable) (parent kind storage : UInt16) (data : Bytes) :
    Keeps Brackets Broken (Db.newRecord w blob parent kind storage data) :=
  .bind (dbInfo_keeps w) fun _ =>
    commitAfter_keeps w blob (createRecord_run w parent kind storage data)

theorem getUserStorage_keeps (name : Bytes) :
    Keeps Brackets Broken (Db.getUserStorage w name) := by
  refine .bind (cmd_keeps w rfl (by decide) (by decide) (by decide)) fun rsp => ?_
  refine .ite (.ret _) ?_
  refine .bind (.lift _) fun _ => ?_
  exact .bind (.ofOutcome _) fun _ => .ret _

theorem ensureUserStorage_keeps (blob : WriteEnable) :
    Keeps Brackets Broken (Db.ensureUserStorage w blob) := by
  refine .bind (getUserStorage_keeps w _) fun storage => ?_
  cases storage with
  | some storage => exact .ret _
  | none =>
    refine .bind (newRecord_keeps w blob _ _ _ _) fun _ => ?_
    refine .bind (getUserStorage_keeps w _) fun storage => ?_
    cases storage with
    | some storage => exact .ret _
    | none => exact .fail _

theorem enrollmentUpdate_keeps (blob : WriteEnable) (prev : Bytes) :
    Keeps Brackets Broken (Enroll.enrollmentUpdate w blob prev) :=
  commitAfter_keeps w blob (feedTemplate_run w prev)

theorem writeFlash_keeps (blob : WriteEnable) (partition : UInt8) (addr : UInt32) (buf : Bytes) :
    Keeps Brackets Broken (Flash.writeFlash w blob partition addr buf) :=
  commitAfterReply_keeps w blob rfl (.inr rfl) _

theorem writeChunks_keeps (blob : WriteEnable) (partition : UInt8) (addr : UInt32)
    (chunks : List Bytes) :
    Keeps Brackets Broken (Flash.writeChunks w blob partition addr chunks) := by
  induction chunks generalizing addr with
  | nil => exact .ret _
  | cons chunk chunks ih =>
    exact .bind (writeFlash_keeps w blob partition addr chunk) fun _ => ih _

theorem appendNewImage_keeps (fuel : Nat) (blob : WriteEnable) (prev : Bytes) :
    Keeps Brackets Broken (Enroll.appendNewImage w fuel blob prev) := by
  refine .bind (enrollmentUpdate_keeps w blob prev) fun _ => ?_
  refine .bind (ask_keeps w _ fun _ _ => rfl) fun start => ?_
  refine .bind (waitInt_keeps w fuel _) fun _ => ?_
  refine .bind (enrollmentUpdate_keeps w blob prev) fun res => ?_
  exact .ofOutcome _

end Steps

/-- The functions that write to the sensor. -/
inductive Writer where
  | eraseFlash (partition : UInt8)
  | writeFlash (partition : UInt8) (addr : UInt32) (buf : Bytes)
  | writeFlashAll (partition : UInt8) (start : UInt32) (buf : Bytes)
  | newRecord (parent kind storage : UInt16) (data : Bytes)
  | newUser (identity : SidIdentity)
  | newFinger (userDbid : UInt16) (template : Bytes)
  | enrollmentUpdate (prev : Bytes)
  | appendNewImage (prev : Bytes)

def Writer.run (w : World S) (blob : WriteEnable) (fuel : Nat) : Writer → Drv S Unit
  | .eraseFlash partition => Flash.eraseFlash w blob partition
  | .writeFlash partition addr buf => Flash.writeFlash w blob partition addr buf
  | .writeFlashAll partition start buf => Flash.writeFlashAll w blob partition start buf
  | .newRecord parent kind storage data => do
    let _ ← Db.newRecord w blob parent kind storage data
    Act.ret ()
  | .newUser identity => do
    let _ ← Db.newUser w blob identity
    Act.ret ()
  | .newFinger userDbid template => do
    let _ ← Db.newFinger w blob userDbid template
    Act.ret ()
  | .enrollmentUpdate prev => do
    let _ ← Enroll.enrollmentUpdate w blob prev
    Act.ret ()
  | .appendNewImage prev => do
    let _ ← Enroll.appendNewImage w fuel blob prev
    Act.ret ()

theorem Writer.run_keeps (w : World S) (blob : WriteEnable) (fuel : Nat) (x : Writer) :
    Keeps Brackets Broken (x.run w blob fuel) := by
  have drop : ∀ {α : Type} {y : Drv S α}, Keeps Brackets Broken y →
      Keeps Brackets Broken (y >>= fun _ => Act.ret ()) := fun hy =>
    .bind hy fun _ => .ret ()
  cases x with
  | eraseFlash partition => exact commitAfterReply_keeps w blob rfl (.inl rfl) _
  | writeFlash partition addr buf => exact writeFlash_keeps w blob partition addr buf
  | writeFlashAll partition start buf => exact writeChunks_keeps w blob partition start _
  | newRecord parent kind storage data => exact drop (newRecord_keeps w blob _ _ _ _)
  | newUser identity =>
    exact drop (.bind (ensureUserStorage_keeps w blob) fun _ =>
      newRecord_keeps w blob _ _ _ _)
  | newFinger userDbid template =>
    exact drop (.bind (ensureUserStorage_keeps w blob) fun _ =>
      newRecord_keeps w blob _ _ _ _)
  | enrollmentUpdate prev => exact drop (enrollmentUpdate_keeps w blob prev)
  | appendNewImage prev => exact drop (appendNewImage_keeps w fuel blob prev)

/-- Every accepted write-enable is followed by a commit. -/
def Closed (log : List (Entry S)) : Prop :=
  ∀ e post, e :: post <:+ log → Unlocked e → ∃ c ∈ post, Sent 0x1a c

/-- Every transaction of the log went through: the write behind each accepted
write-enable was accepted and its commit succeeded, and no other write or commit failed. -/
structure Succeeded (log : List (Entry S)) : Prop where
  brackets : ∀ e post, e :: post <:+ log → Unlocked e →
    ∃ wr c rest, post = wr :: c :: rest ∧ IsWrite wr ∧ Accepted wr ∧ Committed c
  writes : ∀ e ∈ log, IsWrite e → Accepted e
  commits : ∀ e ∈ log, Sent 0x1a e → Committed e

def Transactional {α : Type} (r : Result String (Entry S) S α) : Prop :=
  Closed r.log ∧ ∀ a, r.out = .ok a → Succeeded r.log

theorem IsWrite.not_unlocked {e : Entry S} (h : IsWrite e) : ¬ Sent 0x06 e := by
  intro h'
  rcases h with h | h | h | h <;> exact absurd (h.det h') (by decide)

theorem commit_not_unlocked {e : Entry S} (h : Sent 0x1a e) : ¬ Sent 0x06 e :=
  fun h' => absurd (h.det h') (by decide)

theorem commit_not_write {e : Entry S} (h : Sent 0x1a e) : ¬ IsWrite e := by
  rintro (h' | h' | h' | h') <;> exact absurd (h.det h') (by decide)

theorem Brackets.succeeded {l : List (Entry S)} (h : Brackets l) : Succeeded l := by
  induction h with
  | nil => exact ⟨fun e post h => by simp at h, by simp, by simp⟩
  | @plain e l plain _ ih =>
    refine ⟨fun e' post h unlocked => ?_, fun e' he => ?_, fun e' he => ?_⟩
    · obtain h | h := List.suffix_cons_iff.mp h
      · cases h
        exact absurd unlocked.1 plain.1
      · exact ih.brackets e' post h unlocked
    · obtain rfl | he := List.mem_cons.mp he
      · exact fun write => absurd write plain.2.1
      · exact ih.writes e' he
    · obtain rfl | he := List.mem_cons.mp he
      · exact fun commit => absurd commit plain.2.2
      · exact ih.commits e' he
  | @bracket e wr c l unlocked isWrite accepted committed _ ih =>
    refine ⟨fun e' post h unlocked' => ?_, fun e' he => ?_, fun e' he => ?_⟩
    · obtain h | h := List.suffix_cons_iff.mp h
      · cases h
        exact ⟨wr, c, l, rfl, isWrite, accepted, committed⟩
      obtain h | h := List.suffix_cons_iff.mp h
      · cases h
        exact absurd unlocked'.1 isWrite.not_unlocked
      obtain h | h := List.suffix_cons_iff.mp h
      · cases h
        exact absurd unlocked'.1 (commit_not_unlocked committed.1)
      · exact ih.brackets e' post h unlocked'
    · intro write
      simp only [List.mem_cons] at he
      obtain rfl | rfl | rfl | he := he
      · exact unlocked.2
      · exact accepted
      · exact absurd write (commit_not_write committed.1)
      · exact ih.writes e' he write
    · intro commit
      simp only [List.mem_cons] at he
      obtain rfl | rfl | rfl | he := he
      · exact absurd unlocked.1 (commit_not_unlocked commit)
      · exact absurd isWrite (commit_not_write commit)
      · exact committed
      · exact ih.commits e' he commit

theorem Succeeded.closed {l : List (Entry S)} (h : Succeeded l) : Closed l := by
  intro e post suffix unlocked
  obtain ⟨wr, c, rest, rfl, _, _, committed⟩ := h.brackets e post suffix unlocked
  exact ⟨c, by simp, committed.1⟩

theorem Brackets.not_lost {l : List (Entry S)} (h : Brackets l) : ∀ e ∈ l, ¬ Lost e := by
  intro e he lost
  have isWrite : IsWrite e := lost.1.elim .inl fun h' => .inr (.inl h')
  exact (h.succeeded.writes e he isWrite).not_failed lost.2

theorem Closed.append {l m : List (Entry S)} (hl : Closed l) (hm : Closed m) :
    Closed (l ++ m) := by
  induction l with
  | nil => exact hm
  | cons a l ih =>
    have tail : Closed l := fun e post h => hl e post (h.trans (List.suffix_cons a l))
    intro e post h unlocked
    obtain h | h := List.suffix_cons_iff.mp h
    · cases h
      obtain ⟨c, hc, commit⟩ := hl a l (List.suffix_refl _) unlocked
      exact ⟨c, by simp [hc], commit⟩
    · exact ih tail e post h unlocked

theorem closed_single {e : Entry S} (h : ¬ Unlocked e) : Closed [e] := by
  intro e' post suffix unlocked
  obtain h' | h' := List.suffix_cons_iff.mp suffix
  · cases h'
    exact absurd unlocked h
  · simp at h'

/-- A failed run leaves no transaction open, unless a flash write was lost. -/
theorem Remains.closed_iff {l : List (Entry S)} (h : Remains l) :
    Closed l ↔ ∀ e ∈ l, ¬ Lost e := by
  have never : ∀ {e : Entry S}, Sent 0x06 e → ¬ Lost e := by
    rintro e h ⟨h' | h', _⟩ <;> exact absurd (h.det h') (by decide)
  cases h with
  | none => exact ⟨fun _ => by simp, fun _ e post h => by simp at h⟩
  | plain plain =>
    refine ⟨fun _ e he lost => ?_, fun _ => closed_single fun h => plain.1 h.1⟩
    obtain rfl := List.mem_singleton.mp he
    exact plain.2.1 (lost.1.elim .inl fun h' => .inr (.inl h'))
  | refused sent refused =>
    refine ⟨fun _ e he => ?_, fun _ => closed_single fun h => refused h.2⟩
    obtain rfl := List.mem_singleton.mp he
    exact never sent
  | @closed e wr c unlocked isWrite kept commit =>
    constructor
    · intro _ e' he lost
      simp only [List.mem_cons, List.not_mem_nil, or_false] at he
      obtain rfl | rfl | rfl := he
      · exact never unlocked.1 lost
      · exact kept lost
      · exact commit_not_write commit (lost.1.elim .inl fun h' => .inr (.inl h'))
    · intro _ e' post suffix unlocked'
      obtain h | h := List.suffix_cons_iff.mp suffix
      · cases h
        exact ⟨c, by simp, commit⟩
      obtain h | h := List.suffix_cons_iff.mp h
      · cases h
        exact absurd unlocked'.1 isWrite.not_unlocked
      obtain h | h := List.suffix_cons_iff.mp h
      · cases h
        exact absurd unlocked'.1 (commit_not_unlocked commit)
      · simp at h
  | @unclosed e wr unlocked lost =>
    constructor
    · intro closed
      obtain ⟨c, hc, commit⟩ := closed e [wr] (List.suffix_refl _) unlocked
      obtain rfl := List.mem_singleton.mp hc
      exact absurd (lost.1.elim .inl fun h' => .inr (.inl h')) (commit_not_write commit)
    · intro kept
      exact absurd lost (kept wr (by simp))

/-- Whatever the transport does, a writer keeps its transactions closed, and returns Ok
only if they went through, exactly when no flash erase or write is lost on the way. -/
theorem writers_transactional (w : World S) (blob : WriteEnable) (fuel : Nat) (x : Writer)
    (s : S) :
    Transactional (x.run w blob fuel s) ↔ ∀ e ∈ (x.run w blob fuel s).log, ¬ Lost e := by
  have keeps := x.run_keeps w blob fuel s
  generalize x.run w blob fuel s = r at keeps
  have failed : (∀ a, r.out ≠ .ok a) → Broken r.log →
      (Transactional r ↔ ∀ e ∈ r.log, ¬ Lost e) := by
    rintro no ⟨front, back, log, brackets, remains⟩
    rw [Transactional, log]
    have front' : ∀ e ∈ front, ¬ Lost e := brackets.not_lost
    constructor
    · rintro ⟨closed, _⟩ e he
      obtain he | he := List.mem_append.mp he
      · exact front' e he
      · refine remains.closed_iff.mp (fun e' post h => ?_) e he
        exact closed e' post (h.trans (List.suffix_append front back))
    · intro kept
      have back' : Closed back := remains.closed_iff.mpr fun e he => kept e (by simp [he])
      exact ⟨brackets.succeeded.closed.append back', fun a ha => absurd ha (no a)⟩
  rcases r with ⟨out, t, log⟩
  cases out with
  | ok a =>
    have brackets : Brackets log := keeps
    exact ⟨fun _ => brackets.not_lost, fun _ =>
      ⟨brackets.succeeded.closed, fun _ _ => brackets.succeeded⟩⟩
  | err e => exact failed (fun a h => by cases h) keeps
  | panic => exact failed (fun a h => by cases h) keeps
  | stuck => exact failed (fun a h => by cases h) keeps

/-- A sensor that unlocks and then drops off the bus. -/
def unplugged : World Unit
  | .cmd (0x3f :: _), s => (.error "no device", s)
  | .cmd _, s => (.ok [0, 0], s)
  | .pollInterrupt, s => (.error "no device", s)
  | .readData, s => (.error "no device", s)
  | .now, s => (0, s)
  | .current, s => (0, s)
  | .onStage _ _, s => ((), s)

theorem shortBlob_head : ([0x06, 0x02, 0x00, 0x00, 0x01] : Bytes).head? = some 0x06 := rfl

def shortBlob : WriteEnable := ⟨[0x06, 0x02, 0x00, 0x00, 0x01], shortBlob_head⟩

/-- An erase whose transfer fails leaves the database unlocked. -/
theorem eraseFlash_left_open :
    ¬ Transactional ((Writer.eraseFlash 6).run unplugged shortBlob 0 ()) := by
  intro h
  have log : ((Writer.eraseFlash 6).run unplugged shortBlob 0 ()).log =
      [⟨(), .cmd [0x06, 0x02, 0x00, 0x00, 0x01], .ok [0, 0]⟩,
        ⟨(), .cmd [0x3f, 6], .error "no device"⟩] := rfl
  rw [Transactional, log] at h
  have unlocked : Unlocked (⟨(), .cmd [0x06, 0x02, 0x00, 0x00, 0x01], .ok [0, 0]⟩ : Entry Unit) :=
    ⟨⟨_, _, rfl⟩, _, _, rfl, rfl⟩
  obtain ⟨c, hc, _, _, commit⟩ := h.1 _ _ (List.suffix_refl _) unlocked
  obtain rfl := List.mem_singleton.mp hc
  cases commit

end ValidityFprintd.WriteBracket
