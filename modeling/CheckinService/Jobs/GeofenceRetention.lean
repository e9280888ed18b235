import CheckinService.Lib.Python.Int
import CheckinService.Models

namespace CheckinService

open Relational

structure PurgeCall where
  maxAgeDays : Option Int := none
  retentionDaysEnv : Option String := none
  utcnow : ℚ

def retentionDays (raw : Option String) : Int :=
  match Py.int (Py.strip (raw.getD "90")) with
  | .error _ => 90
  | .ok value => max value 0

structure PurgeStats where
  rowsScrubbed : Nat := 0
  cutoff : Option ℚ := none
  dryRun : Bool := false
  disabled : Bool := false
  deriving DecidableEq

/-- `datetime.min` and the most days a `timedelta` holds. -/
def datetimeMin : ℚ := -62135596800

def timedeltaMaxDays : Int := 999999999

/-- `none` is the OverflowError of a cutoff before the year 1. -/
def purgeCutoff (days : Int) (utcnow : ℚ) : Option ℚ :=
  let cutoff := utcnow - days * 86400
  if timedeltaMaxDays < days || cutoff < datetimeMin then none else some cutoff

def EventCheckin.expired (cutoff : ℚ) (c : EventCheckin) : Bool :=
  c.checkinAt < cutoff && (c.latHash.isSome || c.lonHash.isSome)

def EventCheckin.scrub (c : EventCheckin) : EventCheckin :=
  { c with latHash := none, lonHash := none }

theorem EventCheckin.scrub_keepsKeys : Table.KeepsKeys EventCheckin.scrub :=
  fun _ => ⟨rfl, rfl⟩

def scrubbed (cutoff : ℚ) (db : Database) : Database :=
  { db with
    checkins := db.checkins.updateWhere (EventCheckin.expired cutoff) EventCheckin.scrub
      EventCheckin.scrub_keepsKeys }

/-- `none` is an exception that reaches the caller. -/
def purgeOldGeofenceHashes (call : PurgeCall) (db : Database) : Database × Option PurgeStats :=
  let days := call.maxAgeDays.getD (retentionDays call.retentionDaysEnv)
  if days ≤ 0 then (db, some { disabled := true })
  else match purgeCutoff days call.utcnow with
    | none => (db, none)
    | some cutoff =>
      (scrubbed cutoff db, some {
        rowsScrubbed := db.checkins.rows.countP (EventCheckin.expired cutoff)
        cutoff := some cutoff })

end CheckinService
