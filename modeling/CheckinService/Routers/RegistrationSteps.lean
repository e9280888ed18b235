import CheckinService.Lib.Locking
import CheckinService.Routers.Registrations

/-! `register_for_event` cut at its SQL statements, under REPEATABLE READ.  The plain SELECTs of
a transaction all read the snapshot that its first one fixes, so those before the lock are one
step, and COUNT and MAX are another.  The locking SELECT waits for the committed row.  The row of an
INSERT shows to nobody before its COMMIT, and its UNIQUE keys are those of the locked event, so
`db.commit()` is one step. -/

namespace CheckinService

open Locking

structure Server (ι : Type) where
  db : Database
  locks : Locks Int ι := Locks.free

inductive RegistrationPhase where
  | start
  | waiting (target : String) (snapshot : Database)
  | locked (target : String) (snapshot : Database) (event : Event)
  | seated (target : String) (event : Event) (seat : Seat)
  | refused (target : String)
  | rolledBack (target : String)
  | ended (result : Handler EventRegistration)

/-- The session has an object for the row since its first SELECT, and hands it out again with the
columns as they were then. -/
def loadedEvent (snapshot : Database) (row : Event) : Event :=
  (snapshot.events.byId row.id).getD row

def registrationStep {ι : Type} (call : RegisterCall) (i : ι) (s : Server ι) :
    RegistrationPhase → Server ι × RegistrationPhase
  | .start =>
    match registerTarget call with
    | .error f => (s, .ended (.error f))
    | .ok target =>
      match registrationReads call target s.db with
      | .error f => (s, .ended (.error f))
      | .ok (some existing) => (s, .ended (.ok existing))
      | .ok none => (s, .waiting target s.db)
  | .waiting target snapshot =>
    match s.locks call.eventId with
    | some _ => (s, .waiting target snapshot)
    | none =>
      match lockEvent s.db call.eventId with
      | .error f => (s, .ended (.error f))
      | .ok row =>
        ({ s with locks := s.locks.acquire call.eventId i },
          .locked target snapshot (loadedEvent snapshot row))
  | .locked target snapshot event => (s, .seated target event (assignSeat snapshot event))
  | .seated target event seat =>
    match insertRegistration call target event seat s.db with
    | none => (s, .refused target)
    | some (registration, db) =>
      (⟨db, s.locks.release call.eventId⟩, .ended (.ok registration))
  | .refused target =>
    ({ s with locks := s.locks.release call.eventId }, .rolledBack target)
  | .rolledBack target => (s, .ended (existingRegistration s.db call.eventId target))
  | .ended result => (s, .ended result)

end CheckinService
