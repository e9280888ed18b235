import CheckinService.Routers.EventSteps

/-! `update_event` cut at its SQL statements.  The session writes the columns in which the loaded
row has changed, whatever they hold by now, and reads the row again once the commit is through. -/

namespace CheckinService

def Field.present : Field (Option α) → Field α
  | .supplied (some value) => .supplied value
  | _ => .unset

def Field.changed [DecidableEq α] (f : Field α) (loaded : α) : Field α :=
  match f with
  | .unset => .unset
  | .supplied value => if value = loaded then .unset else .supplied value

structure Edit where
  title : Field String := .unset
  descriptionSn : Field (Option String) := .unset
  locationName : Field (Option String) := .unset
  latitude : Field (Option Coordinate) := .unset
  longitude : Field (Option Coordinate) := .unset
  geofenceRadiusM : Field (Option Int) := .unset
  startTime : Field (Option ℚ) := .unset
  endTime : Field (Option ℚ) := .unset
  maxCapacity : Field (Option Int) := .unset
  checkinMethod : Field EventCheckinMethod := .unset
  status : Field EventStatus := .unset
  visibility : Field Visibility := .unset
  allowNfcCheckin : Field Bool := .unset
  deriving DecidableEq

namespace Edit

def nothing : Edit := {}

def apply (edit : Edit) (e : Event) : Event :=
  { e with
    title := edit.title.getD e.title
    descriptionSn := edit.descriptionSn.getD e.descriptionSn
    locationName := edit.locationName.getD e.locationName
    latitude := edit.latitude.getD e.latitude
    longitude := edit.longitude.getD e.longitude
    geofenceRadiusM := edit.geofenceRadiusM.getD e.geofenceRadiusM
    startTime := edit.startTime.getD e.startTime
    endTime := edit.endTime.getD e.endTime
    maxCapacity := edit.maxCapacity.getD e.maxCapacity
    checkinMethod := edit.checkinMethod.getD e.checkinMethod
    status := edit.status.getD e.status
    visibility := edit.visibility.getD e.visibility
    allowNfcCheckin := edit.allowNfcCheckin.getD e.allowNfcCheckin }

end Edit

def EventUpdate.edit (payload : EventUpdate) : Edit where
  title := (payload.title.map (sanitizeText · 200)).present
  descriptionSn := payload.description.map (sanitizeText · 5000)
  locationName := payload.locationName.map (sanitizeText · 200)
  latitude := payload.latitude.map (Option.map Coordinate.ofFloat)
  longitude := payload.longitude.map (Option.map Coordinate.ofFloat)
  geofenceRadiusM := payload.geofenceRadiusM
  startTime := payload.startTime.map (Option.map Datetime.wall)
  endTime := payload.endTime.map (Option.map Datetime.wall)
  maxCapacity := payload.maxCapacity
  checkinMethod := payload.checkinMethod.present
  status := payload.status.present
  visibility := payload.visibility.present
  allowNfcCheckin := payload.allowNfcCheckin.present

/-- The columns that the `setattr` loop changes.  A loaded time has no offset, and differs from one
that has; a loaded coordinate is a `Decimal`, and differs from a float that is not exactly it. -/
def EventUpdate.writes (payload : EventUpdate) (loaded : Event) : Edit where
  title := payload.edit.title.changed loaded.title
  descriptionSn := payload.edit.descriptionSn.changed loaded.descriptionSn
  locationName := payload.edit.locationName.changed loaded.locationName
  latitude :=
    (payload.latitude.changed (loaded.latitude.map Coordinate.degrees)).map
      (Option.map Coordinate.ofFloat)
  longitude :=
    (payload.longitude.changed (loaded.longitude.map Coordinate.degrees)).map
      (Option.map Coordinate.ofFloat)
  geofenceRadiusM := payload.geofenceRadiusM.changed loaded.geofenceRadiusM
  startTime :=
    (payload.startTime.changed (storedTime loaded.startTime)).map (Option.map Datetime.wall)
  endTime := (payload.endTime.changed (storedTime loaded.endTime)).map (Option.map Datetime.wall)
  maxCapacity := payload.maxCapacity.changed loaded.maxCapacity
  checkinMethod := payload.edit.checkinMethod.changed loaded.checkinMethod
  status := payload.edit.status.changed loaded.status
  visibility := payload.edit.visibility.changed loaded.visibility
  allowNfcCheckin := payload.edit.allowNfcCheckin.changed loaded.allowNfcCheckin

theorem Edit.apply_keepsKeys (edit : Edit) : Relational.Table.KeepsKeys edit.apply :=
  fun _ => ⟨rfl, rfl⟩

/-- `UPDATE events SET … WHERE id = …` -/
def writeEdit (eventId : Int) (edit : Edit) (db : Database) : Database :=
  { db with events := db.events.update eventId edit.apply edit.apply_keepsKeys }

inductive UpdatePhase where
  | start
  | found (loaded : Event) (writes : Edit)
  | updated (loaded : Event) (writes : Edit)
  | committed (loaded : Event)
  | ended (result : Handler Event)

def updateStep {ι : Type} (call : UpdateCall) (i : ι) (s : Server ι) :
    UpdatePhase → Server ι × UpdatePhase
  | .start =>
    match ownEvent call.actor call.eventId s.db with
    | .error f => (s, .ended (.error f))
    | .ok loaded =>
      match patched call.payload loaded with
      | .error f => (s, .ended (.error f))
      | .ok _ =>
        let writes := call.payload.writes loaded
        if writes = .nothing then (s, .committed loaded) else (s, .found loaded writes)
  | .found loaded writes =>
    match s.locks call.eventId with
    | some _ => (s, .found loaded writes)
    | none => ({ s with locks := s.locks.acquire call.eventId i }, .updated loaded writes)
  | .updated loaded writes =>
    (⟨writeEdit call.eventId writes s.db, s.locks.release call.eventId⟩, .committed loaded)
  -- `db.refresh`: no row is ever deleted, so it finds one
  | .committed loaded => (s, .ended (.ok ((s.db.events.byId call.eventId).getD loaded)))
  | .ended result => (s, .ended result)

end CheckinService
