import CheckinService.Routers.CheckinSteps

/-! `submit_checkin` beside `cancel_registration`.  The second commit of a check-in, which marks the
registration, is cut once more: its first commit has expired the loaded row, so the status is read
afresh, and written in a statement of its own.  `cancel_registration` reads the row and writes it
likewise. -/

namespace CheckinService

inductive AttendancePhase where
  | checkin (call : CheckinCall) (phase : CheckinPhase)
  -- the status of the registration as it was read
  | marking (call : CheckinCall) (target : String) (plan : CheckinPlan) (checkin : EventCheckin)
      (seen : RegistrationStatus)
  | cancel (call : CancelCall)
  | cancelling (registration : EventRegistration)
  | answered (answer : Handler Int)

/-- `registration.status = "attended"`, whatever the row holds by now. -/
def EventRegistration.markAttended (r : EventRegistration) : EventRegistration :=
  { r with status := .attended }

theorem EventRegistration.markAttended_keepsKeys :
    Relational.Table.KeepsKeys EventRegistration.markAttended := fun _ => ⟨rfl, rfl⟩

def overwriteAttended (registrationId : Int) (db : Database) : Database :=
  { db with
    registrations := db.registrations.update registrationId EventRegistration.markAttended
      EventRegistration.markAttended_keepsKeys }

def CheckinPhase.unmarked : CheckinPhase → Option (String × CheckinPlan × EventCheckin)
  | .inserted target plan checkin => some (target, plan, checkin)
  | _ => none

def cancelRead (call : CancelCall) (db : Database) : AttendancePhase :=
  match cancelTarget call db with
  | .error f => .answered (.error f)
  | .ok registration => .cancelling registration

def attendanceStep (env : Env) (s : Service) : AttendancePhase → Service × AttendancePhase
  | .checkin call phase =>
    match phase.unmarked with
    | some (target, plan, checkin) =>
      match s.db.registrations.byId plan.registration.id with
      | none => (s, .checkin call (.attended target plan checkin))
      | some registration => (s, .marking call target plan checkin registration.status)
    | none => (checkinStep env call s phase).map id (.checkin call)
  | .marking call target plan checkin seen =>
    -- the ORM writes a column only if its value has changed
    if seen = .cancelled || seen = .attended then
      (s, .checkin call (.attended target plan checkin))
    else
      ({ s with db := overwriteAttended plan.registration.id s.db },
        .checkin call (.attended target plan checkin))
  | .cancel call => (s, cancelRead call s.db)
  | .cancelling registration =>
    if registration.status = .cancelled then (s, .answered (.ok registration.id))
    else ({ s with db := cancelled registration.id s.db }, .answered (.ok registration.id))
  | .answered answer => (s, .answered answer)

end CheckinService
