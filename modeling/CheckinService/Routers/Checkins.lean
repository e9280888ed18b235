import CheckinService.Auth
import CheckinService.Routers.RateLimit
import CheckinService.Routers.Registrations
import CheckinService.Schemas
import CheckinService.Services.QrToken

/-! `submit_checkin` of `routers/checkins.py`.  The handler reads everything it needs before
its first write; `checkinGates` is that part, cut where other requests can come in between,
and the three commits follow as functions of their own. -/

namespace CheckinService

structure Env where
  crypto : Crypto
  settings : Settings := {}
  haversineDistanceM : ℚ → ℚ → ℚ → ℚ → ℚ

structure CheckinCall where
  eventId : Int
  payload : CheckinRequest
  actor : Actor
  clock : Clock
  headers : List (String × String) := []
  clientHost : Option String := none

inductive CheckinOutcome where
  | raised (f : Failure)
  | returned (r : CheckinResponse)
  deriving DecidableEq

def CheckinOutcome.succeeded : CheckinOutcome → Bool
  | .raised _ => false
  | .returned r => r.status = .success

abbrev Gate (α : Type) := Except CheckinOutcome α

def refuse (status : CheckinStatus) : Gate α := .error (.returned { status })

def ofHandler : Handler α → Gate α := Except.mapError CheckinOutcome.raised

def clientIp (call : CheckinCall) : Option String :=
  let first := (Py.orNone (getHeader call.headers "x-forwarded-for")).bind fun xff =>
    Py.orNone ((Py.split ',' xff).head?.map Py.strip)
  first.orElse fun _ => call.clientHost

inductive CheckinMethod where
  | manual | qr | geo | qrGeo | nfc | none
  deriving DecidableEq

def CheckinMethodAudit.method : CheckinMethodAudit → CheckinMethod
  | .manual => .manual
  | .qr => .qr
  | .geo => .geo
  | .qrGeo => .qrGeo
  | .nfc => .nfc

def EventCheckinMethod.method : EventCheckinMethod → CheckinMethod
  | .manual => .manual
  | .qr => .qr
  | .geo => .geo
  | .qrGeo => .qrGeo
  | .none => .none

def CheckinMethod.audit : CheckinMethod → CheckinMethodAudit
  | .manual => .manual
  | .qr => .qr
  | .geo => .geo
  | .qrGeo => .qrGeo
  | .nfc => .nfc
  | .none => .manual

def CheckinMethod.needsQr (m : CheckinMethod) : Bool := m = .qr || m = .qrGeo

def CheckinMethod.needsGeo (m : CheckinMethod) : Bool := m = .geo || m = .qrGeo

def effectiveMethod (payload : CheckinRequest) (event : Event) : CheckinMethod :=
  match payload.checkinMethod with
  | some declared => declared.method
  | none => event.checkinMethod.method

def attestationGate (settings : Settings) (payload : CheckinRequest) : Gate Unit :=
  if !attestationRequired settings then .ok ()
  else match payload.deviceAttestation with
    | none => refuse .attestationMissing
    | some att =>
      match verifyDeviceAttestation settings (some att.platform.name) (some att.token) with
      | .ok () => .ok ()
      | .error code =>
        if code = "attestation_not_implemented" then refuse .attestationNotImplemented
        else if code = "attestation_missing" then refuse .attestationMissing
        else refuse .attestationInvalid

def findEvent (db : Database) (eventId : Int) : Option Event :=
  db.events.first fun e => e.id = eventId

def findCheckin (db : Database) (eventId : Int) (attendeeUserId : String) :
    Option EventCheckin :=
  db.checkins.first fun c => c.eventId = eventId && c.attendeeUserId = attendeeUserId

def eventGate (db : Database) (eventId : Int) : Gate Event :=
  match findEvent db eventId with
  | none => ofHandler (.error (.http eventNotFound))
  | some event => if event.status.isOpen then .ok event else refuse .eventNotActive

def countryGate (settings : Settings) (event : Event) (headers : List (String × String)) :
    Gate Unit :=
  if ipCountryCheck settings event headers then .ok () else refuse .ipCountryMismatch

def velocityGate (env : Env) (db : Database) (target : String) (event : Event) (now : ℚ) :
    Gate Unit :=
  match velocityCheck env.settings env.haversineDistanceM db target event now with
  | .ok () => .ok ()
  | .error _ => refuse .implausibleVelocity

def methodGate (payload : CheckinRequest) (event : Event) : Gate CheckinMethod :=
  let method := effectiveMethod payload event
  if method = .none then
    ofHandler (httpError 409 (.dict [("code", "checkin_disabled"), ("checkin_method", "none")]))
  else if method = .nfc && !event.allowNfcCheckin then
    ofHandler (httpError 409 (.dict [("code", "nfc_disabled"),
      ("reason", "This event does not have NFC tap check-in enabled.")]))
  else .ok method

/-- The gates that come before the token is read: steps 1 and 2 of the handler. -/
def openGates (env : Env) (call : CheckinCall) (target : String) (db : Database) :
    Gate (Event × CheckinMethod) := do
  attestationGate env.settings call.payload
  let event ← eventGate db call.eventId
  countryGate env.settings event call.headers
  velocityGate env db target event call.clock.utcnow
  let method ← methodGate call.payload event
  return (event, method)

/-- The first phase of the two-phase QR verification; it leaves the token alone. -/
def qrGate (env : Env) (call : CheckinCall) (target : String) (method : CheckinMethod)
    (db : Database) : Gate (Option (QrToken × String)) :=
  if !method.needsQr then .ok none
  else match Py.orNone call.payload.qrToken with
    | none => refuse .invalidToken
    | some rawToken =>
      match peekToken env.crypto rawToken call.eventId "events" (some target) call.clock.time
          call.clock.utcnow db with
      | .error e => .error (.raised (.unhandled e))
      | .ok ⟨.ok, some row⟩ => .ok (some (row, env.crypto.sha256Full rawToken))
      | .ok ⟨.attendeeMismatch, _⟩ => refuse .attendeeMismatch
      | .ok _ => refuse .invalidToken

structure GeoFacts where
  geofencePassed : Option Bool := none
  distanceM : Option ℚ := none
  latHash : Option String := none
  lonHash : Option String := none

def checkDistance (env : Env) (payload : CheckinRequest) (event : Event) : GeofenceCheckResult :=
  verifyDistance env.haversineDistanceM (payload.lat.map Py.Float.value)
    (payload.lon.map Py.Float.value) (event.latitude.map Coordinate.float)
    (event.longitude.map Coordinate.float) event.geofenceRadiusM

def geoGate (env : Env) (payload : CheckinRequest) (method : CheckinMethod) (event : Event) :
    Gate GeoFacts :=
  if !method.needsGeo then .ok {}
  else
    let result := checkDistance env payload event
    if result.passed then
      .ok {
        geofencePassed := some true
        distanceM := result.distanceM
        latHash := env.crypto.hashCoordinate payload.lat
        lonHash := env.crypto.hashCoordinate payload.lon }
    else
      .error (.returned {
        status := .geofenceFailed
        geofencePassed := some false
        distanceM := result.distanceM })

/-- A check-in needs a registration row that is not cancelled; no other status is refused. -/
def registrationGate (db : Database) (eventId : Int) (target : String) :
    Gate EventRegistration :=
  match findRegistration db eventId target with
  | none => refuse .registrationRequired
  | some registration =>
    if registration.status = .cancelled then refuse .registrationRequired
    else .ok registration

structure CheckinPlan where
  event : Event
  method : CheckinMethod
  qr : Option (QrToken × String)
  geo : GeoFacts
  registration : EventRegistration

def checkinGates (env : Env) (call : CheckinCall) (target : String) (db : Database) :
    Gate CheckinPlan := do
  let (event, method) ← openGates env call target db
  let qr ← qrGate env call target method db
  let geo ← geoGate env call.payload method event
  let registration ← registrationGate db call.eventId target
  return { event, method, qr, geo, registration }

def newCheckin (call : CheckinCall) (target : String) (plan : CheckinPlan) (id : Int) :
    EventCheckin where
  id := id
  schoolId := plan.event.schoolId
  eventId := call.eventId
  attendeeUserId := target
  checkinAt := call.clock.dbNow
  checkinMethod := plan.method.audit
  qrTokenHash := plan.qr.map Prod.snd
  latHash := plan.geo.latHash
  lonHash := plan.geo.lonHash
  geofencePassed := plan.geo.geofencePassed
  notesSn := sanitizeText call.payload.notes 500

/-- The first commit; `none` is the IntegrityError that the handler rolls back. -/
def insertCheckin (call : CheckinCall) (target : String) (plan : CheckinPlan) (db : Database) :
    Option (EventCheckin × Database) :=
  let checkin := newCheckin call target plan db.checkins.nextId
  (db.checkins.insert? checkin).map fun checkins => (checkin, { db with checkins := checkins })

def EventRegistration.attend (r : EventRegistration) : EventRegistration :=
  if r.status = .cancelled then r else { r with status := .attended }

theorem EventRegistration.attend_keepsKeys :
    Relational.Table.KeepsKeys EventRegistration.attend := by
  intro r
  unfold EventRegistration.attend
  split <;> exact ⟨rfl, rfl⟩

/-- The second commit. -/
def markAttended (registrationId : Int) (db : Database) : Database :=
  { db with
    registrations := db.registrations.update registrationId EventRegistration.attend
      EventRegistration.attend_keepsKeys }

/-- The third commit. -/
def consumeQr (call : CheckinCall) (target : String) (plan : CheckinPlan) (db : Database) :
    Database :=
  match plan.qr with
  | none => db
  | some (row, _) => consumeToken row.id (some target) call.clock.utcnow db

def duplicateResponse (call : CheckinCall) (target : String) (db : Database) : CheckinResponse :=
  let existing := findCheckin db call.eventId target
  { status := .duplicate
    checkinId := existing.map EventCheckin.id
    checkinAt := existing.map EventCheckin.checkinAt }

def successResponse (plan : CheckinPlan) (checkin : EventCheckin) : CheckinResponse where
  checkinId := some checkin.id
  status := .success
  geofencePassed := plan.geo.geofencePassed
  distanceM := plan.geo.distanceM
  checkinAt := some checkin.checkinAt

def recordCheckin (call : CheckinCall) (target : String) (plan : CheckinPlan) (db : Database) :
    Database × CheckinOutcome :=
  match insertCheckin call target plan db with
  | none => (db, .returned (duplicateResponse call target db))
  | some (checkin, inserted) =>
    let attended := markAttended plan.registration.id inserted
    (consumeQr call target plan attended, .returned (successResponse plan checkin))

def admittedCheckin (env : Env) (call : CheckinCall) (target : String) (db : Database) :
    Database × CheckinOutcome :=
  match checkinGates env call target db with
  | .error outcome => (db, outcome)
  | .ok plan => recordCheckin call target plan db

structure Service where
  db : Database := {}
  limiter : RateLimiter := {}

def checkinTarget (call : CheckinCall) : Handler String :=
  match targetUserId call.payload.attendeeUserId call.actor with
  | none => httpError 400 (.dict [("code", "attendee_user_id_required")])
  | some target => (assertSelfOrAdmin call.actor target).map fun _ => target

def throttled (code : String) (retry : Int) : HTTPException :=
  ⟨429, .dict [("code", code)], [("Retry-After", toString retry)]⟩

def submitCheckin (env : Env) (call : CheckinCall) (s : Service) : Service × CheckinOutcome :=
  match checkinTarget call with
  | .error f => (s, .raised f)
  | .ok target =>
    match s.limiter.rateLimit target call.eventId (clientIp call) call.clock.monotonic with
    | (limiter, some (code, retry)) =>
      ({ s with limiter := limiter }, .raised (.http (throttled code retry)))
    | (limiter, none) =>
      let (db, outcome) := admittedCheckin env call target s.db
      (⟨db, limiter⟩, outcome)

end CheckinService
