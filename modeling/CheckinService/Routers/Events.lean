import CheckinService.Auth
import CheckinService.Lib.Except
import CheckinService.Routers.Idempotency
import CheckinService.Schemas
import CheckinService.Services.Hashing

/-! `routers/events.py`.  The time columns store the wall-clock reading, with its fraction. -/

namespace CheckinService

structure CreateCall where
  payload : EventCreate
  actor : Actor
  idempotencyKey : Option String := none

def findByIdemKey (db : Database) (schoolId : String) (key : Option String) : Option Event :=
  key.bind fun key => db.events.first fun e => e.schoolId = schoolId && e.idempotencyKey = some key

def tierTenant (call : CreateCall) (tenant : String) (db : Database) : Handler String :=
  match call.payload.visibility with
  | .schoolOnly => (assertSchoolOnlyEligible call.actor).map fun _ => tenant
  | .groupOnly =>
    match call.payload.groupId, call.payload.groupKind with
    | some groupId, some groupKind => assertGroupEventEligible call.actor groupKind groupId db
    | _, _ => httpError 422 (.dict [("code", "group_required"),
        ("reason", "group_only events must carry both group_id and group_kind")])
  | _ => .ok tenant

def emptyTitle : HTTPException := ⟨422, .text "title cannot be empty after sanitization", []⟩

def sanitizedTitle (title : Option String) : Handler String :=
  match sanitizeText title 200 with
  | none => .error (.http emptyTitle)
  | some title => .ok title

def newEvent (call : CreateCall) (schoolId : String) (key : Option String) (title : String)
    (id : Int) : Event :=
  let payload := call.payload
  let grouped := payload.visibility = .groupOnly
  { id
    schoolId
    ownerUserId := (Py.orNone call.actor.userId).getD "service"
    eventType := payload.eventType
    title
    descriptionSn := sanitizeText payload.description 5000
    locationName := sanitizeText payload.locationName 200
    latitude := (payload.latitude.getD none).map Coordinate.ofFloat
    longitude := (payload.longitude.getD none).map Coordinate.ofFloat
    -- an INSERT gives a column without a value its default
    geofenceRadiusM := some (payload.geofenceRadiusM.getD 100)
    startTime := (payload.startTime.getD none).map Datetime.wall
    endTime := (payload.endTime.getD none).map Datetime.wall
    maxCapacity := payload.maxCapacity
    checkinMethod := payload.checkinMethod
    status := payload.status
    visibility := payload.visibility
    allowNfcCheckin := payload.allowNfcCheckin
    organizerRole := some call.actor.canonicalizeRole
    groupId := if grouped then payload.groupId else none
    groupKind := if grouped then payload.groupKind else none
    idempotencyKey := key }

def createReads (call : CreateCall) (db : Database) :
    Handler (String × Option String × Option Event) := do
  requireEventCreator call.actor
  let own ← resolveEventTenant call.actor
  let key ← validateIdemKey call.idempotencyKey
  let tenant ← tierTenant call own db
  return (tenant, key, findByIdemKey db tenant key)

def createEvent (call : CreateCall) (db : Database) : Database × Handler Event :=
  match createReads call db with
  | .error f => (db, .error f)
  | .ok (_, _, some existing) => (db, .ok existing)
  | .ok (tenant, key, none) =>
    match sanitizedTitle (some call.payload.title) with
    | .error f => (db, .error f)
    | .ok title =>
      let event := newEvent call tenant key title db.events.nextId
      match db.events.insert? event with
      | some events => ({ db with events := events }, .ok event)
      | none =>
        match findByIdemKey db tenant key with
        | some existing => (db, .ok existing)
        | none => (db, .error (.unhandled .integrityError))

def resolveSchoolId (actor : Actor) : Handler String :=
  match Py.orNone actor.schoolId with
  | some sid => .ok sid
  | none => httpError 403 (.dict [("code", "school_id_required"),
      ("reason", "Bearer JWT must include school_id; platform-bypass callers must use the X-Acting-School-Id header (not yet supported).")])

structure ListEventsCall where
  eventType : Option String := none
  statusFilter : Option String := none
  limit : Nat := 50
  offset : Nat := 0
  actor : Actor
  limit_range : within 1 200 limit = true := by decide

def listFilter (call : ListEventsCall) (schoolId : String) (event : Event) : Bool :=
  event.schoolId = schoolId &&
    ((Py.orNone call.eventType).all fun eventType => event.eventType.name = eventType) &&
    (Py.orNone call.statusFilter).all fun status => event.status.name = status

/-- `ORDER BY start_time DESC NULLS LAST, id DESC` -/
def listOrder (a b : Event) : Bool :=
  match a.startTime, b.startTime with
  | some s, some t => t < s || (s = t && b.id ≤ a.id)
  | some _, none => true
  | none, some _ => false
  | none, none => b.id ≤ a.id

def Event.response (stamps : Stamps) (event : Event) : EventResponse where
  id := event.id
  schoolId := event.schoolId
  ownerUserId := event.ownerUserId
  eventType := event.eventType
  title := event.title
  descriptionSn := event.descriptionSn
  locationName := event.locationName
  geofenceRadiusM := event.geofenceRadiusM
  startTime := event.startTime
  endTime := event.endTime
  maxCapacity := event.maxCapacity
  checkinMethod := event.checkinMethod
  status := event.status
  visibility := event.visibility
  allowNfcCheckin := event.allowNfcCheckin
  organizerRole := event.organizerRole
  groupId := event.groupId
  groupKind := event.groupKind
  createdAt := stamps.createdAt event.id
  updatedAt := stamps.updatedAt event.id

def Event.adminResponse (stamps : Stamps) (event : Event) : EventAdminResponse :=
  { event.response stamps with
    latitude := event.latitude.map Coordinate.float
    longitude := event.longitude.map Coordinate.float }

def listEvents (call : ListEventsCall) (s : StampedDatabase) : Handler (List EventResponse) := do
  requireAdmin call.actor
  let schoolId ← resolveSchoolId call.actor
  let found := s.db.events.rows.filter (listFilter call schoolId)
  let page := ((found.mergeSort listOrder).drop call.offset).take call.limit
  return page.map (Event.response s.stamps)

def getEvent (eventId : Int) (actor : Actor) (s : StampedDatabase) :
    Handler EventAdminResponse := do
  requireAdmin actor
  let schoolId ← resolveSchoolId actor
  match s.db.events.first fun e => e.id = eventId && e.schoolId = schoolId with
  | none => .error (.http eventNotFound)
  | some event => return event.adminResponse s.stamps

structure DiscoverCall where
  eventType : Option String := none
  limit : Nat := 50
  offset : Nat := 0
  actor : Actor
  limit_range : within 1 200 limit = true := by decide

def discoverable (actor : Actor) (event : Event) : Bool :=
  event.status.isOpen &&
    match Py.orNone actor.schoolId with
    | some school =>
      event.visibility = .public_ || (event.visibility = .schoolOnly && event.schoolId = school)
    | none => event.visibility = .public_

def discoverFilter (call : DiscoverCall) (event : Event) : Bool :=
  discoverable call.actor event &&
    (Py.orNone call.eventType).all fun eventType => event.eventType.name = eventType

/-- `ORDER BY start_time ASC NULLS LAST, id DESC` -/
def discoverOrder (a b : Event) : Bool :=
  match a.startTime, b.startTime with
  | some s, some t => s < t || (s = t && b.id ≤ a.id)
  | some _, none => true
  | none, some _ => false
  | none, none => b.id ≤ a.id

def Event.discoverResponse (event : Event) : EventDiscoverResponse where
  id := event.id
  eventType := event.eventType
  title := event.title
  descriptionSn := event.descriptionSn
  locationName := event.locationName
  startTime := event.startTime
  endTime := event.endTime
  maxCapacity := event.maxCapacity
  visibility := event.visibility
  status := event.status

structure DiscoverPage where
  events : List EventDiscoverResponse
  total : Nat
  limit : Nat
  offset : Nat
  deriving DecidableEq

def discoverEvents (call : DiscoverCall) (db : Database) : DiscoverPage :=
  let found := db.events.rows.filter (discoverFilter call)
  let page := ((found.mergeSort discoverOrder).drop call.offset).take call.limit
  { events := page.map Event.discoverResponse
    total := found.length
    limit := call.limit
    offset := call.offset }

/-- `actor_tenant`: an admin is anchored in their own school. -/
def actorTenant (actor : Actor) : Handler String := do
  let tenant ← resolveEventTenant actor
  return if actor.isAdmin then (Py.orNone actor.schoolId).getD tenant else tenant

def ownEvent (actor : Actor) (eventId : Int) (db : Database) : Handler Event := do
  let tenant ← actorTenant actor
  match db.events.first fun e => e.id = eventId && e.schoolId = tenant with
  | none => .error (.http eventNotFound)
  | some event =>
    assertEventOwnerOrAdmin actor event.ownerUserId event.schoolId
    return event

structure UpdateCall where
  eventId : Int
  payload : EventUpdate
  actor : Actor

def storedTime (t : Option ℚ) : Option Datetime := t.map fun wall => { wall }

def endsAfterStart (payload : EventUpdate) (event : Event) : Handler Unit :=
  match payload.startTime.getD (storedTime event.startTime),
      payload.endTime.getD (storedTime event.endTime) with
  | some newStart, some newEnd => do
    if ← catchNothing (newEnd.le newStart) then
      httpError 422 (.text "end_time must be strictly after start_time")
  | _, _ => .ok ()

/-- A column that is NOT NULL, set to null: the database refuses the commit. -/
def notNull (f : Field (Option α)) (stored : α) : Handler α :=
  match f with
  | .unset => .ok stored
  | .supplied (some value) => .ok value
  | .supplied none => .error (.unhandled .integrityError)

def patchedTitle (payload : EventUpdate) (event : Event) : Handler String :=
  match payload.title with
  | .unset => .ok event.title
  | .supplied title => sanitizedTitle title

def patched (payload : EventUpdate) (event : Event) : Handler Event := do
  let title ← patchedTitle payload event
  endsAfterStart payload event
  let checkinMethod ← notNull payload.checkinMethod event.checkinMethod
  let status ← notNull payload.status event.status
  let visibility ← notNull payload.visibility event.visibility
  let allowNfcCheckin ← notNull payload.allowNfcCheckin event.allowNfcCheckin
  return { event with
    title
    descriptionSn := match payload.description with
      | .unset => event.descriptionSn
      | .supplied description => sanitizeText description 5000
    locationName := match payload.locationName with
      | .unset => event.locationName
      | .supplied locationName => sanitizeText locationName 200
    latitude := (payload.latitude.map (Option.map Coordinate.ofFloat)).getD event.latitude
    longitude := (payload.longitude.map (Option.map Coordinate.ofFloat)).getD event.longitude
    geofenceRadiusM := payload.geofenceRadiusM.getD event.geofenceRadiusM
    startTime := (payload.startTime.getD (storedTime event.startTime)).map Datetime.wall
    endTime := (payload.endTime.getD (storedTime event.endTime)).map Datetime.wall
    maxCapacity := payload.maxCapacity.getD event.maxCapacity
    checkinMethod
    status
    visibility
    allowNfcCheckin }

def Event.overwrite (new old : Event) : Event :=
  { new with id := old.id, schoolId := old.schoolId, idempotencyKey := old.idempotencyKey }

theorem Event.overwrite_keepsKeys (new : Event) :
    Relational.Table.KeepsKeys (Event.overwrite new) := fun _ => ⟨rfl, rfl⟩

def saveEvent (event : Event) (db : Database) : Database :=
  { db with
    events := db.events.update event.id (Event.overwrite event)
      (Event.overwrite_keepsKeys event) }

def updateEvent (call : UpdateCall) (db : Database) : Database × Handler Event :=
  match (do patched call.payload (← ownEvent call.actor call.eventId db)) with
  | .error f => (db, .error f)
  | .ok event => (saveEvent event db, .ok event)

structure DeleteCall where
  eventId : Int
  actor : Actor

/-- The id in the response body, `{"ok": True, "id": …, "status": "cancelled"}`. -/
def deleteEvent (call : DeleteCall) (db : Database) : Database × Handler Int :=
  match ownEvent call.actor call.eventId db with
  | .error f => (db, .error f)
  | .ok event => (saveEvent { event with status := .cancelled } db, .ok call.eventId)

end CheckinService
