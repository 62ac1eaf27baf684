import ValidityFprintd.CutOff
import ValidityFprintd.Firmware
import ValidityFprintd.Machine
import ValidityFprintd.Partition

/-! Runs of the firmware tool, of which any may be cut off at any command. A sensor that is left
with a signature holds, whole, the payload that was signed. -/

namespace ValidityFprintd.Firmware
open Effect Flash

variable {S : Type}

/-- A file is taken apart into a payload and its signature where, behind the first `0x1a` byte, it
is the one with the other behind it, the payload not empty and the signature of its length. -/
theorem parseXpfwext_grammar {raw payload signature : Bytes} :
    parseXpfwext raw = .ok (payload, signature) ↔ ∃ header, 0x1a ∉ header ∧
      raw = header ++ 0x1a :: (payload ++ signature) ∧ payload ≠ [] ∧
        signature.length = signatureLen := by
  unfold parseXpfwext
  constructor
  · intro parsed
    split at parsed
    · cases parsed
    rename_i i found
    obtain ⟨inside, here, before⟩ := List.findIdx?_eq_some_iff_getElem.mp found
    have here : raw[i] = 0x1a := of_decide_eq_true here
    dsimp only at parsed
    split at parsed
    · cases parsed
    rename_i long
    rw [List.splitAt_eq] at parsed
    obtain ⟨rfl, rfl⟩ := Prod.mk.inj (Except.ok.inj parsed)
    refine ⟨raw.take i, fun mem => ?_, ?_, fun none_ => ?_, ?_⟩
    · obtain ⟨j, lt, at_⟩ := List.mem_take_iff_getElem.mp mem
      have other := before j (by omega)
      rw [at_] at other
      exact other (decide_eq_true rfl)
    · rw [List.take_append_drop, ← here, ← List.drop_eq_getElem_cons inside,
        List.take_append_drop]
    · have size := congrArg List.length none_
      rw [List.length_take, List.length_nil] at size
      omega
    · rw [List.length_drop]
      omega
  · rintro ⟨header, absent, rfl, some', size⟩
    have found : (header ++ 0x1a :: (payload ++ signature)).findIdx? (fun b => b = 0x1a) =
        some header.length := by
      rw [List.findIdx?_append, List.findIdx?_eq_none_iff.mpr fun b mem => ?_]
      · rw [List.findIdx?_cons, if_pos (by decide), Option.map_some, Option.none_or, Nat.zero_add]
      · exact decide_eq_false fun same => absent (same ▸ mem)
    have behind : (header ++ 0x1a :: (payload ++ signature)).drop (header.length + 1) =
        payload ++ signature := by
      rw [List.append_cons, List.drop_left' (by simp)]
    rw [found]
    dsimp only
    rw [behind, List.length_append, size, Nat.add_sub_cancel, if_neg]
    · rw [List.splitAt_eq, List.take_left, List.drop_left]
    · have pos := List.length_pos_iff.mpr some'
      omega

/-- What partition 2 holds, and the signature attached to it. -/
structure Extension where
  bytes : Bytes
  signature : Option Bytes

def signatureCommand (signature : Bytes) : Bytes :=
  [0x42, partitionFirmware, 0] ++ Bytes.le16 (Bytes.len16 signature) ++ signature

def passive : List UInt8 := [0x05, 0x07, 0x08, 0x1a, 0x43, 0x75]

/-- A sensor with a partition for the extension. A write it accepts it has stored; what it does not
accept it may have begun to write. Nothing but the command for it signs what is there, and firmware
is detected where it is signed. -/
structure Bears (w : Usb.World S) (blob : WriteEnable) (ext : S → Extension) : Prop where
  size : ∀ s, (ext s).bytes.length < 2 ^ 32
  keeps : ∀ {c : UInt8} (rest : Bytes) s, c ∈ passive → ext (w (.cmd (c :: rest)) s).2 = ext s
  unlocks : ∀ s, ext (w (.cmd blob.val) s).2 = ext s
  unsigned : ∀ addr buf s, (ext s).signature = none →
    (ext (w (.cmd (writeCommand partitionFirmware addr buf)) s).2).signature = none
  writes : ∀ {addr buf s rsp t},
    w (.cmd (writeCommand partitionFirmware addr buf)) s = (.ok rsp, t) →
    Usb.checkStatus rsp = .ok () → addr.toNat + buf.length ≤ (ext s).bytes.length ∧
      (ext t).bytes = Partition.splice (ext s).bytes addr.toNat buf
  signs : ∀ signature s, ext (w (.cmd (signatureCommand signature)) s).2 = ext s ∨
    ext (w (.cmd (signatureCommand signature)) s).2 = { ext s with signature := some signature }
  detects : ∀ {s rsp t}, w (.cmd [0x43, partitionFirmware]) s = (.ok rsp, t) →
    (rsp = noFirmware → (ext s).signature = none) ∧
      (Usb.checkStatus rsp = .ok () → (ext s).signature ≠ none)

/-- The payload is there, whole, with its signature. -/
def Holds (x : Extension) (payload signature : Bytes) : Prop :=
  x.signature = some signature ∧ x.bytes.take payload.length = payload

section Uploading

variable {w : Usb.World S} {blob : WriteEnable} {ext : S → Extension} (bears : Bears w blob ext)
  {v : Extension}

include bears

theorem Bears.still {c : UInt8} {rest : Bytes} (h : c ∈ passive) :
    Traffic.Asking w (Still ext) (.cmd (c :: rest)) :=
  ask_still w fun s => bears.keeps rest s h

theorem Bears.current_leaves : Leaves ext v (current w)
    (fun fw u => u = v ∧ (fw = none ↔ v.signature = none)) fun u => u = v := by
  have quiet : Respects (Still ext) (current w) := by
    refine .bind (Traffic.cmd_respects (bears.still (by decide))) fun rsp => .ite (.ret _) ?_
    refine .bind (.mapErr _ (.lift _)) fun _ => .bind (.ite (.ret _) .crash) fun body => ?_
    exact .bind (.ofOutcome _) fun info => .ret _
  refine (Leaves.still quiet).mono ?_ fun _ same => same
  rintro fw u ⟨rfl, s, t, rfl, run⟩
  refine ⟨rfl, ?_⟩
  obtain ⟨rsp, s1, asked, rest⟩ := Yields.bind_iff.mp run
  obtain ⟨absent, present⟩ := bears.detects (Usb.cmd_yields.mp asked)
  split at rest
  · rename_i said
    obtain ⟨rfl, _⟩ := Yields.ret_iff.mp rest
    exact ⟨fun _ => absent said, fun _ => rfl⟩
  · obtain ⟨_, _, checked, rest⟩ := Yields.bind_iff.mp rest
    obtain ⟨body, _, _, rest⟩ := Yields.bind_iff.mp rest
    obtain ⟨info, _, _, rest⟩ := Yields.bind_iff.mp rest
    obtain ⟨rfl, _⟩ := Yields.ret_iff.mp rest
    have accepted := (Yields.lift_iff.mp (Yields.mapErr_iff.mp checked)).1
    exact ⟨fun no => absurd no (Option.some_ne_none _), fun none => absurd none (present accepted)⟩

theorem Bears.prepare_still (devices : List Sensor.DeviceInfo) :
    Respects (Still ext) (prepare w devices) := by
  refine .bind (Traffic.exchange_respects (bears.still (by decide)) _) fun _ => ?_
  refine .bind (.bind (Traffic.request_respects (bears.still (by decide)) _) fun rsp => ?_)
    fun status => ?_
  · exact .bind (.bailIf _ _) fun _ => .ofOutcome _
  · refine .bind (.bailIf _ _) fun _ => .ignore (.bind ?_ fun rsp => ?_)
    · exact Traffic.request_respects (bears.still (by decide)) _
    · exact .bind (.ofOutcome _) fun b => .ofOutcome _

theorem Bears.closing_still (result : Except String Unit) :
    Respects (Still ext) (closing w result) := by
  have commit : Respects (Still ext) (callCleanups w) := by
    refine .bind (Traffic.cmd_respects (bears.still (by decide))) fun rsp => ?_
    exact .ite (.ret _) (.mapErr _ (.lift _))
  exact .bind (.attempt commit) fun _ => .bind (.lift _) fun _ => .bind (.lift _) fun _ => .ret _

theorem Bears.writeFlash_leaves (none_ : v.signature = none) (addr : UInt32) (buf : Bytes) :
    Leaves ext v (writeFlash w blob partitionFirmware addr buf)
      (fun _ u => u.signature = none ∧ addr.toNat + buf.length ≤ v.bytes.length ∧
        u.bytes = Partition.splice v.bytes addr.toNat buf) fun u => u.signature = none := by
  have unlock : Respects (Still ext) (writeEnable w blob) :=
    Traffic.exchange_respects (ask_still w bears.unlocks) _
  refine (Leaves.still unlock).bind ?_ fun u same => same ▸ none_
  rintro _ v ⟨rfl, _⟩
  have sent : Leaves ext v (Usb.cmd w (writeCommand partitionFirmware addr buf))
      (fun rsp u => u.signature = none ∧ (Usb.checkStatus rsp = .ok () →
        addr.toNat + buf.length ≤ v.bytes.length ∧
          u.bytes = Partition.splice v.bytes addr.toNat buf)) fun u => u.signature = none := by
    refine Usb.cmd_leaves none_ ?_ ?_
    · rintro s rfl
      exact bears.unsigned addr buf s none_
    · rintro s rsp rfl said
      exact ⟨bears.unsigned addr buf s none_, bears.writes (Prod.ext said rfl)⟩
  refine sent.bind ?_ fun _ cut => cut
  rintro rsp u ⟨unsigned, stored⟩
  refine (Leaves.still (bears.closing_still _)).mono ?_ fun _ same => same ▸ unsigned
  rintro _ _ ⟨rfl, s, t, _, run⟩
  obtain ⟨_, _, _, run⟩ := Yields.bind_iff.mp run
  obtain ⟨_, _, lifted, _⟩ := Yields.bind_iff.mp run
  have accepted := (Yields.lift_iff.mp lifted).1
  refine ⟨unsigned, stored ?_⟩
  cases status : Usb.checkStatus rsp with
  | ok u => rfl
  | error e =>
    rw [status] at accepted
    cases accepted

theorem Bears.writeChunks_leaves (short : v.bytes.length < 2 ^ 32) (none_ : v.signature = none)
    (chunks : List Bytes) {addr : UInt32} (start : addr.toNat ≤ v.bytes.length) :
    Leaves ext v (writeChunks w blob partitionFirmware addr chunks)
      (fun _ u => u.signature = none ∧ addr.toNat + chunks.flatten.length ≤ v.bytes.length ∧
        u.bytes = Partition.splice v.bytes addr.toNat chunks.flatten)
      fun u => u.signature = none := by
  induction chunks generalizing v addr with
  | nil => exact .ret ⟨none_, start, Partition.splice_nil.symm⟩ none_
  | cons chunk chunks ih =>
    refine (bears.writeFlash_leaves none_ addr chunk).bind ?_ fun _ cut => cut
    rintro _ u ⟨none', room, stored⟩
    have size : u.bytes.length = v.bytes.length := by
      rw [stored, Partition.splice_length room]
    have next : (addr + Bytes.len32 chunk).toNat = addr.toNat + chunk.length := by
      rw [UInt32.toNat_add, Bytes.len32, UInt32.toNat_ofNat']
      omega
    have there : (addr + Bytes.len32 chunk).toNat ≤ u.bytes.length := by
      rw [next, size]
      exact room
    refine (ih (size ▸ short) none' there).mono ?_ fun _ cut => cut
    rintro _ x ⟨none', room', stored'⟩
    rw [next, size] at room'
    rw [next, stored, Partition.splice_splice room] at stored'
    rw [List.flatten_cons, List.length_append]
    exact ⟨none', by omega, stored'⟩

theorem Bears.install_leaves (short : v.bytes.length < 2 ^ 32) (none_ : v.signature = none)
    (payload signature : Bytes) : Leaves ext v (install w blob payload signature)
      (fun _ u => Holds u payload signature)
      fun u => u.signature = none ∨ Holds u payload signature := by
  have all : (Bytes.chunks 0x1000 payload).flatten = payload := Bytes.chunks_flatten (by decide) _
  have start : (0 : UInt32).toNat ≤ v.bytes.length := Nat.zero_le _
  have wrote := bears.writeChunks_leaves short none_ (Bytes.chunks 0x1000 payload) start
  rw [all] at wrote
  refine wrote.bind ?_ fun _ none_ => .inl none_
  rintro _ u ⟨none', room, stored⟩
  have whole : u.bytes.take payload.length = payload := by
    rw [stored]
    simp [Partition.splice]
  have signed : Leaves ext u (writeFwSignature w partitionFirmware signature)
      (fun _ x => x.signature = none ∨ Holds x payload signature)
      fun x => x.signature = none ∨ Holds x payload signature := by
    have after : ∀ s, ext s = u →
        (ext (w (.cmd (signatureCommand signature)) s).2).signature = none ∨
          Holds (ext (w (.cmd (signatureCommand signature)) s).2) payload signature := by
      rintro s rfl
      obtain same | done := bears.signs signature s
      · exact .inl (same ▸ none')
      · exact .inr (done ▸ ⟨rfl, whole⟩)
    have asked : Leaves ext u (Usb.request w (signatureCommand signature)
        "writing firmware signature") (fun _ x => x.signature = none ∨ Holds x payload signature)
        fun x => x.signature = none ∨ Holds x payload signature :=
      Usb.request_leaves (.inl none') after fun s _ seen _ _ => after s seen
    exact asked.bind (fun _ _ done => .ret done done) fun _ cut => cut
  refine signed.bind ?_ fun _ cut => cut
  intro _ x done
  refine bears.current_leaves.bind ?_ fun _ same => same ▸ done
  rintro fw x ⟨rfl, found⟩
  refine (Leaves.ofOutcome (J := fun _ y => y = x ∧ fw ≠ none) ?_ done).bind ?_ fun _ cut => cut
  · rintro info present
    refine ⟨rfl, ?_⟩
    rintro rfl
    cases present
  rintro _ _ ⟨rfl, present⟩
  have holds := done.resolve_left fun none => present (found.mpr none)
  have quiet : Respects (Still ext) (Provision.reboot w) :=
    .ignore (Traffic.cmd_respects (bears.still (by decide)))
  exact (Leaves.still quiet).mono (fun _ _ same => same.1 ▸ holds) fun _ same => same ▸ .inr holds

/-- What an upload may leave of `v`: nothing changed, or no signature, or its own. -/
def Passed (v : Extension) (uploads : Bytes → Bytes → Prop) (u : Extension) : Prop :=
  u = v ∨ v.signature = none ∧
    (u.signature = none ∨ ∃ payload signature, uploads payload signature ∧
      Holds u payload signature)

theorem Bears.upload_leaves (short : v.bytes.length < 2 ^ 32) (devices : List Sensor.DeviceInfo)
    (fwext : Bytes) : Leaves ext v (upload w devices blob fwext)
      (fun done u => if done then ∃ payload signature,
          parseXpfwext fwext = .ok (payload, signature) ∧ v.signature = none ∧
            Holds u payload signature
        else u = v ∧ v.signature ≠ none)
      (Passed v fun payload signature => parseXpfwext fwext = .ok (payload, signature)) := by
  refine bears.current_leaves.bind ?_ fun _ same => .inl same
  rintro fw v ⟨rfl, found⟩
  cases fw with
  | some info =>
    exact .ret ⟨rfl, fun none => Option.some_ne_none info (found.mpr none)⟩ (.inl rfl)
  | none =>
    have none_ := found.mp rfl
    refine (Leaves.lift (J := fun p u => u = v ∧ parseXpfwext fwext = .ok p) (K := fun u => u = v)
      (fun p parsed => ⟨rfl, parsed⟩) rfl).bind ?_ fun _ same => .inl same
    rintro ⟨payload, signature⟩ v ⟨rfl, parsed⟩
    refine (Leaves.still (bears.prepare_still devices)).bind ?_ fun _ same => .inl same
    rintro _ v ⟨rfl, _⟩
    have cut : ∀ u, (u.signature = none ∨ Holds u payload signature) → Passed v (fun payload
        signature => parseXpfwext fwext = .ok (payload, signature)) u := fun u left =>
      .inr ⟨none_, left.imp_right fun holds => ⟨payload, signature, parsed, holds⟩⟩
    refine (bears.install_leaves short none_ payload signature).bind ?_ cut
    intro _ u holds
    exact .ret ⟨payload, signature, parsed, none_, holds⟩ (cut u (.inr holds))

end Uploading

/-- A run of the tool: its arguments, and the files there are to read. -/
structure Attempt where
  doUpload : Bool
  file : Option String
  onDisk : Option String
  read : String → Except String Bytes

def Attempt.Uploads (a : Attempt) (payload signature : Bytes) : Prop :=
  a.doUpload = true ∧ ∃ path raw, chooseFile a.file a.onDisk = .ok path ∧ a.read path = .ok raw ∧
    parseXpfwext raw = .ok (payload, signature)

section Attempts

variable {w : Usb.World S} {blob : WriteEnable} {ext : S → Extension}
  {devices : List Sensor.DeviceInfo}

variable (devices) in
/-- A run that returns has found the extension or installed it. -/
theorem Bears.firmwareTool_leaves (bears : Bears w blob ext) {v : Extension}
    (short : v.bytes.length < 2 ^ 32) (a : Attempt) :
    Leaves ext v (firmwareTool w devices blob a.doUpload a.file a.onDisk a.read)
      (fun _ u => (u = v ∧ (a.doUpload = true → v.signature ≠ none)) ∨ v.signature = none ∧
        ∃ payload signature, a.Uploads payload signature ∧ Holds u payload signature)
      (Passed v a.Uploads) := by
  obtain ⟨doUpload, file, onDisk, read⟩ := a
  refine bears.current_leaves.bind ?_ fun _ same => .inl same
  rintro _ v ⟨rfl, _⟩
  dsimp only
  split
  case isTrue no =>
    exact .ret (.inl ⟨rfl, fun yes => absurd (no.symm.trans yes) (by decide)⟩) (.inl rfl)
  case isFalse told =>
    have told : doUpload = true := Bool.not_eq_false _ ▸ told
    refine bears.current_leaves.bind ?_ fun _ same => .inl same
    rintro fw v ⟨rfl, found⟩
    cases fw with
    | some info =>
      have present : v.signature ≠ none := fun none =>
        Option.some_ne_none info (found.mpr none)
      exact .ret (.inl ⟨rfl, fun _ => present⟩) (.inl rfl)
    | none =>
      refine (Leaves.lift (J := fun p u => u = v ∧ chooseFile file onDisk = .ok p)
        (K := fun u => u = v) (fun p chosen => ⟨rfl, chosen⟩) rfl).bind ?_ fun _ same => .inl same
      rintro path v ⟨rfl, chosen⟩
      refine (Leaves.lift (J := fun raw u => u = v ∧ read path = .ok raw) (K := fun u => u = v)
        (fun raw opened => ⟨rfl, opened⟩) rfl).bind ?_ fun _ same => .inl same
      rintro raw v ⟨rfl, opened⟩
      have file_ : ∀ {payload signature}, parseXpfwext raw = .ok (payload, signature) →
          Attempt.Uploads ⟨doUpload, file, onDisk, read⟩ payload signature := fun parsed =>
        ⟨told, path, raw, chosen, opened, parsed⟩
      have cut : ∀ u, Passed v (fun payload signature =>
          parseXpfwext raw = .ok (payload, signature)) u →
            Passed v (Attempt.Uploads ⟨doUpload, file, onDisk, read⟩) u := by
        rintro u (same | ⟨none_, left⟩)
        · exact .inl same
        · refine .inr ⟨none_, left.imp_right ?_⟩
          rintro ⟨payload, signature, parsed, holds⟩
          exact ⟨payload, signature, file_ parsed, holds⟩
      refine (bears.upload_leaves short devices raw).bind ?_ cut
      intro done u ended
      cases done with
      | false => exact .bailIf (fun no => absurd rfl no) (.inl ended.1)
      | true =>
        obtain ⟨payload, signature, parsed, none_, holds⟩ := ended
        exact .bailIf (fun _ => .inr ⟨none_, payload, signature, file_ parsed, holds⟩)
          (.inr ⟨none_, .inr ⟨payload, signature, file_ parsed, holds⟩⟩)

def attempts (w : Usb.World S) (devices : List Sensor.DeviceInfo) (blob : WriteEnable) (s : S) :
    Machine S Attempt (Usb.Entry S) where
  init := s
  step s a :=
    let r := firmwareTool w devices blob a.doUpload a.file a.onDisk a.read s
    some (r.state, r.log)

/-- The partition is as it was at first, or it was not signed then and is not now, or it has the
signature of a file that a run uploaded, and holds its payload. -/
def Sound (first : Extension) (moves : List (Machine.Move S Attempt (Usb.Entry S))) :
    Extension → Prop :=
  Passed first fun payload signature => ∃ move ∈ moves, move.label.Uploads payload signature

theorem Sound.next {first v u : Extension} {moves : List (Machine.Move S Attempt (Usb.Entry S))}
    {move : Machine.Move S Attempt (Usb.Entry S)} (sound : Sound first moves v)
    (passed : Passed v move.label.Uploads u) : Sound first (moves ++ [move]) u := by
  have here : move ∈ moves ++ [move] := List.mem_append_right _ (List.mem_singleton_self _)
  obtain rfl | ⟨none_, left⟩ := passed
  · obtain rfl | ⟨none_, left⟩ := sound
    · exact .inl rfl
    · refine .inr ⟨none_, left.imp_right ?_⟩
      rintro ⟨payload, signature, ⟨earlier, mem, uploads⟩, holds⟩
      exact ⟨payload, signature, ⟨earlier, List.mem_append_left _ mem, uploads⟩, holds⟩
  · have unsigned : first.signature = none := by
      obtain rfl | ⟨none_, _⟩ := sound
      · exact none_
      · exact none_
    refine .inr ⟨unsigned, left.imp_right ?_⟩
    rintro ⟨payload, signature, uploads, holds⟩
    exact ⟨payload, signature, ⟨move, here, uploads⟩, holds⟩

/-- In every history of runs of the tool, of which any may be cut off at any command, the sensor is
at no moment left with a signature on half a payload, nor one that was signed touched. -/
theorem signed_whole (bears : Bears w blob ext) {s last : S}
    {front back : List (Machine.Move S Attempt (Usb.Entry S))}
    {move : Machine.Move S Attempt (Usb.Entry S)}
    (run : (attempts w devices blob s).Run (front ++ move :: back) last) :
    (∀ e ∈ move.events, Sound (ext s) (front ++ [move]) (ext e.before)) ∧
      Sound (ext s) (front ++ [move]) (ext move.after) := by
  have step : ∀ {moves : List (Machine.Move S Attempt (Usb.Entry S))} {a : Attempt} {t u : S}
      {events}, Sound (ext s) moves (ext t) →
      (attempts w devices blob s).step t a = some (u, events) →
      (∀ e ∈ events, Sound (ext s) (moves ++ [⟨t, a, u, events⟩]) (ext e.before)) ∧
        Sound (ext s) (moves ++ [⟨t, a, u, events⟩]) (ext u) := by
    intro moves a t u events sound taken
    obtain ⟨rfl, rfl⟩ := Prod.mk.inj (Option.some.inj taken)
    obtain ⟨passed, ended, _⟩ := bears.firmwareTool_leaves devices (bears.size t) a t rfl
    exact ⟨fun e mem => sound.next (passed e mem), sound.next ended⟩
  obtain ⟨before, taken⟩ := run.move
  have reached : Sound (ext s) front (ext move.before) :=
    before.history_of (p := fun _ => True) (I := fun moves t => Sound (ext s) moves (ext t))
      (.inl rfl) (fun sound _ taken => (step sound taken).2) fun _ _ => trivial
  exact step reached taken

/-- What a sensor answers with this partition and what signs it, and what it makes of them. -/
def obey (x : Partition × Option Bytes) : Bytes → Bytes × Partition × Option Bytes
  | 0x42 :: 2 :: 0 :: _ :: _ :: signature => ([0, 0], x.1, some signature)
  | [0x43, 2] => (if x.2 = none then noFirmware else List.replicate 12 0, x)
  | 0x07 :: _ => ([0, 0, 2, 0, 0, 0], x)
  | out => ((serve 2 x.1 out).1, (serve 2 x.1 out).2, x.2)

def bench : Usb.World (Partition × Option Bytes)
  | .cmd out, x => (.ok (obey x out).1, (obey x out).2)
  | .pollInterrupt, x => (.ok none, x)
  | .readData, x => (.ok [], x)
  | .now, x => (0, x)
  | .current, x => (0, x)
  | .onStage _ _, x => ((), x)

def benchBlob : WriteEnable := ⟨[0x06, 0x02, 0x00], rfl⟩

def benchExt (x : Partition × Option Bytes) : Extension := ⟨x.1.bytes, x.2⟩

theorem obey_passive {c : UInt8} (rest : Bytes) (x : Partition × Option Bytes)
    (known : c ∈ passive) : (obey x (c :: rest)).2 = x := by
  simp only [passive, List.mem_cons, List.not_mem_nil, or_false] at known
  unfold obey
  split
  · rename_i same
    rcases known with rfl | rfl | rfl | rfl | rfl | rfl <;> cases same
  · rfl
  · rfl
  · rcases known with rfl | rfl | rfl | rfl | rfl | rfl <;> rfl

theorem bench_bears : Bears bench benchBlob benchExt where
  size := fun x => by
    rw [benchExt, x.1.size]
    decide
  keeps := fun rest x known => congrArg benchExt (obey_passive rest x known)
  unlocks := fun _ => rfl
  unsigned := fun _ _ _ none_ => none_
  writes := by
    intro addr buf x rsp t said accepted
    obtain ⟨p, signature⟩ := x
    replace said : ((.ok (serve 2 p (writeCommand 2 addr buf)).1 : Except String Bytes),
      ((serve 2 p (writeCommand 2 addr buf)).2, signature)) = (.ok rsp, t) := said
    rw [serve_write] at said
    split at said
    case isTrue room =>
      cases said
      exact ⟨Nat.le_trans room (Nat.le_of_eq p.size.symm), rfl⟩
    case isFalse =>
      cases said
      cases accepted
  signs := fun _ _ => .inr rfl
  detects := by
    intro x rsp t said
    obtain ⟨p, signature⟩ := x
    cases said
    cases signature with
    | none =>
      have refused : ¬ Usb.checkStatus noFirmware = .ok () := by decide
      exact ⟨fun _ => rfl, fun accepted => absurd accepted refused⟩
    | some signature =>
      have other : List.replicate 12 0 ≠ noFirmware := by decide
      exact ⟨fun same => absurd same other, fun _ => Option.some_ne_none _⟩

variable (devices blob) in
theorem attempts_once (a : Attempt) (s : S) : (attempts w devices blob s).Run ([] ++ [⟨s, a,
      (firmwareTool w devices blob a.doUpload a.file a.onDisk a.read s).state,
      (firmwareTool w devices blob a.doUpload a.file a.onDisk a.read s).log⟩])
    (firmwareTool w devices blob a.doUpload a.file a.onDisk a.read s).state :=
  .step .init rfl

def smallFile : Bytes := [0x61, 0x1a, 1, 2, 3] ++ List.replicate 256 9

def smallAttempt : Attempt := ⟨true, some "6_07f.xpfwext", none, fun _ => .ok smallFile⟩

/-- An erased partition is loaded, and signed. -/
theorem signed_whole_loaded : ∃ move last,
    (attempts bench [] benchBlob (.erased, none)).Run ([] ++ [move]) last ∧
      (benchExt last).signature = some (List.replicate 256 9) ∧
      Sound (benchExt (.erased, none)) ([] ++ [move]) (benchExt move.after) := by
  have signed : (benchExt (firmwareTool bench [] benchBlob smallAttempt.doUpload smallAttempt.file
      smallAttempt.onDisk smallAttempt.read (.erased, none)).state).signature =
        some (List.replicate 256 9) := by
    decide +kernel
  have run := attempts_once (w := bench) benchBlob [] smallAttempt (.erased, none)
  have whole := (signed_whole bench_bears run).2
  exact ⟨_, _, run, signed, whole⟩

end Attempts

end ValidityFprintd.Firmware
