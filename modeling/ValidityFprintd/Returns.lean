import ValidityFprintd.Enroll

/-! Whatever the sensor answers, a call that waits for nothing returns: no reply is read
past its end, and no table of one is gone through for ever. -/

namespace ValidityFprintd

open Effect

namespace Bytes

variable {ε : Type}

theorem rd16_returned {b : Bytes} {o : Nat} (h : o + 2 ≤ b.length) :
    Returned (rd16 b o : Outcome ε UInt16).kind := by
  obtain ⟨n, hn⟩ := rd16_ok (ε := ε) h
  rw [hn]
  exact .value

theorem rd32_returned {b : Bytes} {o : Nat} (h : o + 4 ≤ b.length) :
    Returned (rd32 b o : Outcome ε UInt32).kind := by
  have first : b[o]? = some b[o] := List.getElem?_eq_getElem (by omega)
  have second : b[o + 1]? = some b[o + 1] := List.getElem?_eq_getElem (by omega)
  have third : b[o + 2]? = some b[o + 2] := List.getElem?_eq_getElem (by omega)
  have fourth : b[o + 3]? = some b[o + 3] := List.getElem?_eq_getElem (by omega)
  simp only [rd32, first, second, third, fourth]
  exact .value

theorem byteAt_returned {b : Bytes} {i : Nat} (h : i < b.length) :
    Returned (byteAt b i : Outcome ε UInt8).kind := by
  rw [byteAt, List.getElem?_eq_getElem h]
  exact .value

end Bytes

namespace Sid

theorem fromBytes_returned (b : Bytes) : Returned (SidIdentity.fromBytes b).kind := by
  refine Outcome.guard_returned fun long => ?_
  refine Outcome.bind_returned (Bytes.byteAt_returned (by omega)) fun revision _ => ?_
  refine Outcome.bind_returned (Bytes.byteAt_returned (by omega)) fun subcnt _ => ?_
  refine Outcome.guard_returned fun complete => ?_
  refine Outcome.bind_returned (Outcome.each_returned fun i hi => ?_) fun subauth _ => .value
  have inside := List.mem_range.mp hi
  exact Bytes.rd32_returned (by omega)

theorem parseIdentity_returned (b : Bytes) : Returned (parseIdentity b).kind := by
  refine Outcome.guard_returned fun long => ?_
  refine Outcome.bind_returned (Bytes.rd32_returned (by omega)) fun t _ => ?_
  refine Outcome.guard_returned fun _ => ?_
  refine Outcome.bind_returned (Bytes.rd32_returned (by omega)) fun l _ => ?_
  exact Outcome.bind_returned (Outcome.ofOption_returned _ _) fun sid _ => fromBytes_returned sid

end Sid

namespace Db

theorem parseDbInfo_returned (b : Bytes) : Returned (parseDbInfo b).kind := by
  refine Outcome.guard_returned fun long => ?_
  refine Outcome.bind_returned (Bytes.rd16_returned (by omega)) fun nroots _ => ?_
  refine Outcome.bind_returned (Outcome.each_returned fun r hr => ?_) fun roots _ => ?_
  · obtain ⟨i, _, hi⟩ := List.mem_filterMap.mp hr
    have two := Bytes.range?_length hi
    exact Bytes.rd16_returned (by omega)
  · refine Outcome.bind_returned (Bytes.rd32_returned (by omega)) fun total _ => ?_
    refine Outcome.bind_returned (Bytes.rd32_returned (by omega)) fun used _ => ?_
    refine Outcome.bind_returned (Bytes.rd32_returned (by omega)) fun free _ => ?_
    exact Outcome.bind_returned (Bytes.rd16_returned (by omega)) fun records _ => .value

theorem field_returned {tab : Bytes} {n width i o : Nat} (size : tab.length = width * n)
    (hi : i < n) (ho : o + 2 ≤ width) :
    Returned (Bytes.rd16 tab (i * width + o) : Outcome String UInt16).kind := by
  refine Bytes.rd16_returned ?_
  have row : width * (i + 1) ≤ width * n := Nat.mul_le_mul_left width hi
  have split : width * (i + 1) = i * width + width := by
    rw [Nat.mul_succ, Nat.mul_comm]
  omega

theorem parseUserStorage_returned (b : Bytes) : Returned (parseUserStorage b).kind := by
  refine Outcome.guard_returned fun long => ?_
  refine Outcome.bind_returned (Bytes.rd16_returned (by omega)) fun recid _ => ?_
  refine Outcome.bind_returned (Bytes.rd16_returned (by omega)) fun usercnt _ => ?_
  refine Outcome.bind_returned (Bytes.rd16_returned (by omega)) fun namesz _ => ?_
  refine Outcome.bind_returned (Outcome.ofOption_returned _ _) fun tab htab => ?_
  refine Outcome.bind_returned (Outcome.ofOption_returned _ _) fun nameField _ => ?_
  refine Outcome.bind_returned (Outcome.each_returned fun i hi => ?_) fun users _ => .value
  have size : tab.length = 4 * usercnt.toNat := by
    cases h : Bytes.range? b 8 (8 + 4 * usercnt.toNat) with
    | none =>
      rw [h] at htab
      cases htab
    | some tab' =>
      rw [h] at htab
      cases htab
      rw [Bytes.range?_length h]
      omega
  have inside := List.mem_range.mp hi
  refine Outcome.bind_returned (field_returned (o := 0) size inside (by omega)) fun dbid _ => ?_
  exact Outcome.bind_returned (field_returned (o := 2) size inside (by omega)) fun _ _ => .value

theorem parseUser_returned (b : Bytes) : Returned (parseUser b).kind := by
  refine Outcome.guard_returned fun long => ?_
  refine Outcome.bind_returned (Bytes.rd16_returned (by omega)) fun recid _ => ?_
  refine Outcome.bind_returned (Bytes.rd16_returned (by omega)) fun fingercnt _ => ?_
  refine Outcome.bind_returned (Bytes.rd16_returned (by omega)) fun identitysz _ => ?_
  refine Outcome.bind_returned (Outcome.ofOption_returned _ _) fun tab htab => ?_
  refine Outcome.bind_returned (Outcome.ofOption_returned _ _) fun identity _ => ?_
  refine Outcome.bind_returned (Outcome.each_returned fun i hi => ?_) fun fingers _ => ?_
  · have size : tab.length = 8 * fingercnt.toNat := by
      cases h : Bytes.range? b 8 (8 + 8 * fingercnt.toNat) with
      | none =>
        rw [h] at htab
        cases htab
      | some tab' =>
        rw [h] at htab
        cases htab
        rw [Bytes.range?_length h]
        omega
    have inside := List.mem_range.mp hi
    refine Outcome.bind_returned (field_returned (o := 0) size inside (by omega)) fun _ _ => ?_
    refine Outcome.bind_returned (field_returned (o := 2) size inside (by omega)) fun _ _ => ?_
    refine Outcome.bind_returned (field_returned (o := 4) size inside (by omega)) fun _ _ => ?_
    exact Outcome.bind_returned (field_returned (o := 6) size inside (by omega)) fun _ _ => .value
  · exact Outcome.bind_returned (Sid.parseIdentity_returned _) fun _ _ => .value

end Db

namespace Returns

variable {S : Type} (w : Usb.World S)

theorem cmd_returned (out : Bytes) : Within Returned (Usb.cmd w out) :=
  .bind (fun _ => .value) fun rsp => .lift .value .error rsp

theorem check_returned {E T : Type} (rsp : Bytes) :
    Within Returned (Usb.check rsp : Act String E T Unit) := .lift .value .error _

theorem request_returned (out : Bytes) (c : String) : Within Returned (Usb.request w out c) :=
  .bind (cmd_returned w out) fun rsp => .bind (.mapErr _ (check_returned rsp)) fun _ =>
    .ret .value rsp

theorem exchange_returned (out : Bytes) (c : String) : Within Returned (Usb.exchange w out c) :=
  .bind (request_returned w out c) fun _ => .ret .value ()

theorem waitIntStep_returned (deadline : Nat) :
    Within Returned (Capture.waitIntStep w deadline) := by
  refine .bind (.bind (fun _ => .value) fun b => .lift .value .error b) fun b => ?_
  cases b with
  | some b => exact .ret .value _
  | none =>
    exact .bind (fun _ => .value) fun t => .bind (.bailIf .value .error _ _) fun _ =>
      .ret .value _

theorem ignore_returned {ε E T α : Type} {x : Act ε E T α} (hx : Within Returned x) :
    Within Returned (Act.ignore x) := .ignore .value fun s => .inr (hx s)

theorem attempt_returned {ε E T α : Type} {x : Act ε E T α} (hx : Within Returned x) :
    Within Returned (Act.attempt x) := .attempt .value fun s => .inr (hx s)

theorem callCleanups_returned : Within Returned (Flash.callCleanups w) :=
  .bind (cmd_returned w _) fun rsp =>
    .ite (.ret .value ()) (.mapErr _ (check_returned rsp))

theorem commitAfter_returned {α : Type} (blob : WriteEnable) {write : Usb.Drv S α}
    (hw : Within Returned write) : Within Returned (Flash.commitAfter w blob write) := by
  refine .bind (exchange_returned w _ _) fun _ => .bind (attempt_returned hw) fun result => ?_
  refine .bind (attempt_returned (callCleanups_returned w)) fun cleanup => ?_
  refine .bind (.lift .value .error result) fun a => ?_
  exact .bind (.lift .value .error cleanup) fun _ => .ret .value a

theorem newRecord_returned (blob : WriteEnable) (parent kind storage : UInt16) (data : Bytes) :
    Within Returned (Db.newRecord w blob parent kind storage data) := by
  have info : Within Returned (Db.dbInfo w) :=
    .bind (cmd_returned w _) fun rsp => .bind (check_returned rsp) fun _ =>
      .ofOutcome (Db.parseDbInfo_returned _)
  refine .bind info fun _ => commitAfter_returned w blob ?_
  refine .bind (request_returned w _ _) fun rsp => .guard .error fun long => ?_
  exact .ofOutcome (Bytes.rd16_returned (by omega))

theorem getUserStorage_returned (name : Bytes) : Within Returned (Db.getUserStorage w name) :=
  .bind (cmd_returned w _) fun rsp => .ite (.ret .value none) <|
    .bind (check_returned rsp) fun _ =>
      .bind (.ofOutcome (Db.parseUserStorage_returned _)) fun storage => .ret .value (some storage)

theorem lookupUser_returned (identity : SidIdentity) :
    Within Returned (Db.lookupUser w identity) := by
  refine .bind (getUserStorage_returned w _) fun storage => ?_
  cases storage with
  | none => exact .ret .value none
  | some storage =>
    refine .bind (cmd_returned w _) fun rsp => .ite (.ret .value none) ?_
    exact .bind (check_returned rsp) fun _ =>
      .bind (.ofOutcome (Db.parseUser_returned _)) fun user => .ret .value (some user)

theorem ensureUserStorage_returned (blob : WriteEnable) :
    Within Returned (Db.ensureUserStorage w blob) := by
  refine .bind (getUserStorage_returned w _) fun storage => ?_
  cases storage with
  | some storage => exact .ret .value storage
  | none =>
    refine .bind (newRecord_returned w blob _ _ _ _) fun _ => ?_
    refine .bind (getUserStorage_returned w _) fun storage => ?_
    cases storage with
    | some storage => exact .ret .value storage
    | none => exact .fail .error _

theorem delRecords_returned (dbids : List UInt16) : Within Returned (Db.delRecords w dbids) := by
  induction dbids with
  | nil => exact .ret .value ()
  | cons dbid dbids ih => exact .bind (exchange_returned w _ _) fun _ => ih

theorem deleteFingers_returned (identity : SidIdentity) (doomed : Db.FingerRef → Bool) :
    Within Returned (Db.deleteFingers w identity doomed) := by
  refine .bind (lookupUser_returned w identity) fun user => ?_
  cases user with
  | none => exact .ret .value 0
  | some user => exact .bind (delRecords_returned w _) fun _ => .ret .value _

theorem findOrCreateUser_returned (r : Enroll.Request) :
    Within Returned (Enroll.findOrCreateUser w r) := by
  refine .bind (lookupUser_returned w r.identity) fun user => ?_
  cases user with
  | some u => exact .ret .value u.dbid
  | none =>
    exact .bind (ensureUserStorage_returned w r.blob) fun _ => newRecord_returned w r.blob _ _ _ _

theorem newFinger_returned (blob : WriteEnable) (userDbid : UInt16) (template : Bytes) :
    Within Returned (Db.newFinger w blob userDbid template) :=
  .bind (ensureUserStorage_returned w blob) fun _ => newRecord_returned w blob _ _ _ _

end Returns

end ValidityFprintd
