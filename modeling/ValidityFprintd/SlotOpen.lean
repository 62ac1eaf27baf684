import ValidityFprintd.MatchBacked
import ValidityFprintd.Regions
import ValidityFprintd.Reopen

/-! The daemon with the opening of its sensor filled in. It writes to no record of the database,
so that a session may be dropped and opened again at any time. -/

namespace ValidityFprintd.Whole
open Effect World Traffic Device Init Machine
open Regions (Region Permits)
open Records (Matcher)

variable {S D : Type}

/-- A sensor's world, with the disk beside it. -/
def beside (w : Usb.World S) : Usb.World (Host S D) := fun q h =>
  ((w q h.env).1, { h with env := (w q h.env).2 })

section Opening

variable {w : Usb.World S} (h : Matcher w) (disk : Disk D) (devices : List Sensor.DeviceInfo)
  (blobs : DeviceBlobs) (vid pid : UInt16)

/-- What keeps the database of its sensor keeps that of the sensor beside a disk. -/
def matcherBeside : Matcher (beside w : Usb.World (Host S D)) where
  db host := h.db host.env
  answers out host := h.answers out host.env
  deletes rest host := h.deletes rest host.env
  creates rest host := h.creates rest host.env
  keeps q host := h.keeps q host.env
  missing out host := h.missing out host.env
  deleted dbid host := h.deleted dbid host.env
  makes parent kind storage data host := h.makes parent kind storage data host.env
  made parent kind storage data host := h.made parent kind storage data host.env
  matchesEnrolled host := h.matchesEnrolled host.env

variable (w) in
/-- `Sensor::open` on the bare wire: the handle, and what it leaves of the sensor and the disk. -/
def opening (host : Host S D) : Outcome String Handle × Host S D :=
  let r := bareOpen w disk devices (some blobs) vid pid host
  (do let (_, cfg, calib) ← r.out; .ok ⟨cfg, calib, blobs.dbWriteEnable⟩, r.state)

theorem permits_unchanged : Permits w (fun s _ t => h.db t = h.db s) (· ≠ .database) := by
  intro q within
  refine ask_unchanged h.keeps ?_
  cases q with
  | cmd out =>
    cases out with
    | nil => rfl
    | cons c rest =>
      have spared : Regions.touched (c :: rest) ≠ some .database := fun there =>
        within .database there rfl
      by_contra changes
      refine spared ?_
      have head : c = 0x47 ∨ c = 0x48 := by
        by_contra neither
        obtain ⟨not47, not48⟩ := not_or.mp neither
        exact changes (by simp [Db.Changes, not47, not48])
      rcases head with rfl | rfl <;> rfl
  | _ => rfl

/-- The opening writes where `Regions` says, and that is not the database. -/
theorem opening_keeps (host : Host S D) :
    h.db (opening w disk devices blobs vid pid host).2.env = h.db host.env := by
  have hp := permits_unchanged h
  have on {α : Type} {x : Usb.Drv S α} (kept : Respects (fun s _ t => h.db t = h.db s) x) :
      Respects (fun s _ t => h.db t.env = h.db s.env)
        (onSensor x : Act String (Usb.Entry S) (Host S D) α) := fun host => kept host.env
  have opened : Respects (fun (s : Host S D) _ t => h.db t.env = h.db s.env)
      (bareOpen w disk devices (some blobs) vid pid) := by
    refine .bind (on (Regions.sendInit_permitted hp _ _ _)) fun _ => ?_
    refine .bind (on (Regions.readFlash_permitted hp _ _ _)) fun record => ?_
    refine .bind (on (Regions.probe_permitted hp _)) fun cfg => .bind ?_ fun calib => .ret _
    refine .bind (fun _ => rfl) fun here => ?_
    split
    · exact .ret _
    · exact .bind (on (Regions.calibrate_permitted hp _ _ _)) fun c => .bind (fun _ => rfl) fun _ =>
        .ret _
  exact opened host

/-- The daemon that opens its own sensor backs what it tells, from an empty database on. -/
theorem backed_opening {Client : Type} [DecidableEq Client] {uid : Client → UInt32}
    {env : Host S D} (start : h.db env.env = Records.Database.empty)
    {moves : List (Move (System Client (Host S D)) (Label Client) (Event Client))}
    {last : System Client (Host S D)}
    (run : (machine (beside w) (opening w disk devices blobs vid pid) uid env).Run moves last) :
    Always (Backed uid) (trace moves) :=
  backed_always (matcherBeside h) (opening_keeps h disk devices blobs vid pid) start run

end Opening

end ValidityFprintd.Whole
