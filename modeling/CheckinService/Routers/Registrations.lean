import CheckinService.Auth
import CheckinService.Routers.Idempotency
import CheckinService.Schemas
import CheckinService.Services.Hashing

/-! `routers/registrations.py`.  `register_for_event` reads, locks the event row, counts, and
inserts; the parts stand apart because in a concurrent run they see different snapshots. -/

namespace CheckinService

namespace Registrations

def adminRoles : List String :=
  ["admin", "platform_admin", "platform_ops", "platform_system_admin",
   "platform_support_admin", "super_admin", "nilbx_admin", "service",
   "school_admin", "college_school_nil_admin", "hs_school_nil_admin",
   "compliance_officer"]

def isAdmin (actor : Actor) : Bool := actor.canonicalizeRole ∈ adminRoles

def schoolFilter (actor : Actor) : Option String :=
  if isAdmin actor then Py.orNone actor.schoolId else none

end Registrations

def resolveEventOr404 (db : Database) (eventId : Int) (schoolId : Option String) :
    Handler Event :=
  match db.events.first fun e => e.id = eventId && schoolId.all fun sid => e.schoolId = sid with
  | none => .error (.http eventNotFound)
  | some event => .ok event

structure RegisterCall where
  eventId : Int
  payload : RegistrationCreateRequest
  actor : Actor
  idempotencyKey : Option String := none

/-- The validated key is dropped: the handler goes on with the header as it came. -/
def registerTarget (call : RegisterCall) : Handler String := do
  let _ ← validateIdemKey call.idempotencyKey
  match targetUserId call.payload.attendeeUserId call.actor with
  | none => httpError 400 (.text
      "attendee_user_id is required when bearer actor has no user_id (e.g. service token)")
  | some target =>
    assertSelfOrAdmin call.actor target
    return target

def openForRegistration (event : Event) : Handler Unit :=
  if event.status.isOpen then .ok ()
  else httpError 409 (.dict [("code", "event_not_open"), ("status", event.status.name)])

def isOwnerOrAdmin (actor : Actor) (event : Event) : Bool :=
  Py.orNone actor.userId = some event.ownerUserId || Registrations.isAdmin actor

def sameSchool (actor : Actor) (event : Event) : Bool :=
  Py.orNone actor.schoolId = some event.schoolId

def acceptedInvitation (db : Database) (eventId : Int) (target : String) :
    Option EventInvitation :=
  db.invitations.first fun i =>
    i.eventId = eventId && i.inviteeUserId = target && i.status = .accepted

def activeMembership (db : Database) (groupId : Option Int) (target : String) :
    Option SchoolAdminGroupMember :=
  db.members.first fun m =>
    groupId = some m.groupId && m.userId = some target && m.status = .active

/-- The lookup does not ask whose cohort the relationship belongs to. -/
def acceptedRelationship (db : Database) (target : String) : Option TeamLeadRelationship :=
  db.relationships.first fun r => r.memberUserId = some target && r.consentStatus = .accepted

def visibilityGate (db : Database) (call : RegisterCall) (target : String) (event : Event) :
    Handler Unit :=
  let hidden := Except.error (Failure.http eventNotFound)
  if isOwnerOrAdmin call.actor event then .ok ()
  else match event.visibility with
    | .schoolOnly => if sameSchool call.actor event then .ok () else hidden
    | .inviteOnly =>
      if (acceptedInvitation db call.eventId target).isSome then .ok ()
      else httpError 403 (.dict [("code", "invitation_required"),
        ("reason", "This event is invite-only; an accepted invitation is required to register.")])
    | .groupOnly =>
      match event.groupKind with
      | some .schoolAdminGroup =>
        if (activeMembership db event.groupId target).isSome then .ok () else hidden
      | some .teamLeadCohort =>
        if (acceptedRelationship db target).isSome then .ok () else hidden
      | none => hidden
    | .public_ => .ok ()
    | .unlisted => .ok ()

def replayedRegistration (db : Database) (call : RegisterCall) : Option EventRegistration :=
  (Py.orNone call.idempotencyKey).bind fun key =>
    db.registrations.first fun r => r.eventId = call.eventId && r.idempotencyKey = some key

/-- The handler up to the lock; `some` is an earlier row for the same Idempotency-Key. -/
def registrationReads (call : RegisterCall) (target : String) (db : Database) :
    Handler (Option EventRegistration) := do
  let event ← resolveEventOr404 db call.eventId (Registrations.schoolFilter call.actor)
  openForRegistration event
  visibilityGate db call target event
  return replayedRegistration db call

/-- `SELECT … FOR UPDATE` of the event row. -/
def lockEvent (db : Database) (eventId : Int) : Handler Event := resolveEventOr404 db eventId none

def activeCount (db : Database) (eventId : Int) : Nat :=
  db.registrations.rows.countP fun r => r.eventId = eventId && r.isActive

def maxWaitlistPosition (db : Database) (eventId : Int) : Int :=
  let waitlisted := db.registrations.rows.filter fun r =>
    r.eventId = eventId && r.status = .waitlisted
  (waitlisted.filterMap EventRegistration.waitlistPosition).max?.getD 0

structure Seat where
  status : RegistrationStatus := .registered
  waitlistPosition : Option Int := none
  deriving DecidableEq

def hasRoom (db : Database) (locked : Event) : Bool :=
  locked.maxCapacity.all fun capacity => (activeCount db locked.id : Int) < capacity

def assignSeat (db : Database) (locked : Event) : Seat :=
  if hasRoom db locked then {}
  else { status := .waitlisted, waitlistPosition := some (maxWaitlistPosition db locked.id + 1) }

def newRegistration (call : RegisterCall) (target : String) (locked : Event) (seat : Seat)
    (id : Int) : EventRegistration where
  id := id
  schoolId := locked.schoolId
  eventId := call.eventId
  attendeeUserId := target
  status := seat.status
  waitlistPosition := seat.waitlistPosition
  idempotencyKey := call.idempotencyKey

/-- `none` is the IntegrityError of either UNIQUE key. -/
def insertRegistration (call : RegisterCall) (target : String) (locked : Event) (seat : Seat)
    (db : Database) : Option (EventRegistration × Database) :=
  let registration := newRegistration call target locked seat db.registrations.nextId
  (db.registrations.insert? registration).map fun registrations =>
    (registration, { db with registrations := registrations })

def findRegistration (db : Database) (eventId : Int) (attendeeUserId : String) :
    Option EventRegistration :=
  db.registrations.first fun r => r.eventId = eventId && r.attendeeUserId = attendeeUserId

def existingRegistration (db : Database) (eventId : Int) (target : String) :
    Handler EventRegistration :=
  match findRegistration db eventId target with
  | some existing => .ok existing
  | none => httpError 409 (.dict [("code", "duplicate_registration")])

def registerForEvent (call : RegisterCall) (db : Database) :
    Database × Handler EventRegistration :=
  match registerTarget call with
  | .error f => (db, .error f)
  | .ok target =>
    match registrationReads call target db with
    | .error f => (db, .error f)
    | .ok (some existing) => (db, .ok existing)
    | .ok none =>
      match lockEvent db call.eventId with
      | .error f => (db, .error f)
      | .ok locked =>
        match insertRegistration call target locked (assignSeat db locked) db with
        | some (registration, db') => (db', .ok registration)
        | none => (db, existingRegistration db call.eventId target)

def EventRegistration.listResponse (c : Crypto) (stamps : Stamps) (r : EventRegistration) :
    RegistrationListResponse where
  id := r.id
  eventId := r.eventId
  hashedAttendeeId := c.hashPii r.attendeeUserId
  status := r.status
  waitlistPosition := r.waitlistPosition
  registeredAt := stamps.registeredAt r.id

/-- Rows registered at the same instant come in the order of the table. -/
def listRegistrations (c : Crypto) (eventId : Int) (actor : Actor) (s : StampedDatabase) :
    Handler (List RegistrationListResponse) := do
  requireAdmin actor
  match Py.orNone actor.schoolId with
  | none => httpError 403 (.text "school_id required")
  | some schoolId =>
    let event ← resolveEventOr404 s.db eventId (some schoolId)
    let rows := s.db.registrations.rows.filter fun r => r.eventId = event.id
    let sorted := rows.mergeSort fun r r' =>
      s.stamps.registeredAt r.id ≤ s.stamps.registeredAt r'.id
    return sorted.map (EventRegistration.listResponse c s.stamps)

structure CancelCall where
  eventId : Int
  attendeeUserId : String
  actor : Actor

def EventRegistration.cancel (r : EventRegistration) : EventRegistration :=
  { r with status := .cancelled }

theorem EventRegistration.cancel_keepsKeys :
    Relational.Table.KeepsKeys EventRegistration.cancel := fun _ => ⟨rfl, rfl⟩

def cancelled (registrationId : Int) (db : Database) : Database :=
  { db with
    registrations := db.registrations.update registrationId EventRegistration.cancel
      EventRegistration.cancel_keepsKeys }

def cancelTarget (call : CancelCall) (db : Database) : Handler EventRegistration := do
  assertSelfOrAdmin call.actor call.attendeeUserId
  let event ← resolveEventOr404 db call.eventId (Registrations.schoolFilter call.actor)
  match findRegistration db event.id call.attendeeUserId with
  | none => httpError 404 (.text "Registration not found")
  | some registration => return registration

/-- The id in the response body, `{"ok": True, "id": …, "status": "cancelled"}`. -/
def cancelRegistration (call : CancelCall) (db : Database) : Database × Handler Int :=
  match cancelTarget call db with
  | .error f => (db, .error f)
  | .ok registration => (cancelled registration.id db, .ok registration.id)

end CheckinService
