import CheckinService.Routers.Events
import CheckinService.Routers.RegistrationSteps

/-! `create_event` and `delete_event` cut at their SQL statements.  The SELECTs before the insert
read one snapshot, and so does the lookup in the fresh transaction after a rollback. -/

namespace CheckinService

open Locking

inductive CreatePhase where
  | start
  | pending (tenant : String) (key : Option String) (title : String)
  | refused (tenant : String) (key : Option String)
  | rolledBack (tenant : String) (key : Option String)
  | ended (result : Handler Event)

def createStep (call : CreateCall) (db : Database) : CreatePhase → Database × CreatePhase
  | .start =>
    match createReads call db with
    | .error f => (db, .ended (.error f))
    | .ok (_, _, some existing) => (db, .ended (.ok existing))
    | .ok (tenant, key, none) =>
      match sanitizedTitle (some call.payload.title) with
      | .error f => (db, .ended (.error f))
      | .ok title => (db, .pending tenant key title)
  | .pending tenant key title =>
    let event := newEvent call tenant key title db.events.nextId
    match db.events.insert? event with
    | some events => ({ db with events := events }, .ended (.ok event))
    | none => (db, .refused tenant key)
  | .refused tenant key => (db, .rolledBack tenant key)
  | .rolledBack tenant key =>
    match findByIdemKey db tenant key with
    | some existing => (db, .ended (.ok existing))
    | none => (db, .ended (.error (.unhandled .integrityError)))
  | .ended result => (db, .ended result)

def Event.cancel (event : Event) : Event := { event with status := .cancelled }

theorem Event.cancel_keepsKeys : Relational.Table.KeepsKeys Event.cancel := fun _ => ⟨rfl, rfl⟩

/-- `UPDATE events SET status = 'cancelled' WHERE id = …` -/
def cancelEvent (eventId : Int) (db : Database) : Database :=
  { db with events := db.events.update eventId Event.cancel Event.cancel_keepsKeys }

inductive DeletePhase where
  | start
  | found
  | updated
  | ended (result : Handler Int)

/-- The UPDATE keeps the lock of its row until the COMMIT shows it to the others. -/
def deleteStep {ι : Type} (call : DeleteCall) (i : ι) (s : Server ι) :
    DeletePhase → Server ι × DeletePhase
  | .start =>
    match ownEvent call.actor call.eventId s.db with
    | .error f => (s, .ended (.error f))
    | .ok event =>
      -- the session writes nothing where nothing has changed
      if event.status = .cancelled then (s, .ended (.ok call.eventId)) else (s, .found)
  | .found =>
    match s.locks call.eventId with
    | some _ => (s, .found)
    | none => ({ s with locks := s.locks.acquire call.eventId i }, .updated)
  | .updated =>
    (⟨cancelEvent call.eventId s.db, s.locks.release call.eventId⟩, .ended (.ok call.eventId))
  | .ended result => (s, .ended result)

end CheckinService
