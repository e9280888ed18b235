import CheckinService.Models
import CheckinService.Services.GeoVerification

/-! `schemas/`: the request bodies, as pydantic hands them to the handlers.  The coordinates of an
event are `float`s of which only the exact value matters. -/

namespace CheckinService

structure Datetime where
  wall : ℚ
  offset : Option ℚ := none
  deriving DecidableEq

/-- `a <= b`; a naive and an aware datetime do not compare. -/
def Datetime.le (a b : Datetime) : Except Py.Exc Bool :=
  match a.offset, b.offset with
  | none, none => .ok (a.wall ≤ b.wall)
  | some x, some y => .ok (a.wall - x ≤ b.wall - y)
  | _, _ => .error .typeError

inductive Field (α : Type) where
  | unset
  | supplied (value : α)
  deriving DecidableEq

def Field.getD (f : Field α) (default : α) : α :=
  match f with
  | .unset => default
  | .supplied value => value

def Field.map (f : α → β) : Field α → Field β
  | .unset => .unset
  | .supplied value => .supplied (f value)

def lengthIn (lo hi : Nat) (s : String) : Bool := lo ≤ s.length && s.length ≤ hi

def within [LE α] [DecidableLE α] (lo hi x : α) : Bool := lo ≤ x && x ≤ hi

structure DeviceAttestation where
  platform : Platform
  token : String
  token_length : lengthIn 1 4096 token = true := by decide

structure CheckinRequest where
  attendeeUserId : Option String := none
  qrToken : Option String := none
  lat : Option Py.Float := none
  lon : Option Py.Float := none
  notes : Option String := none
  checkinMethod : Option CheckinMethodAudit := none
  deviceAttestation : Option DeviceAttestation := none
  attendeeUserId_length : attendeeUserId.all (lengthIn 0 36) = true := by decide
  qrToken_length : qrToken.all (lengthIn 0 512) = true := by decide
  lat_range : (lat.map Py.Float.value).all (within (-90) 90) = true := by decide +kernel
  lon_range : (lon.map Py.Float.value).all (within (-180) 180) = true := by decide +kernel
  notes_length : notes.all (lengthIn 0 500) = true := by decide

structure RegistrationCreateRequest where
  attendeeUserId : Option String := none
  attendeeUserId_length : attendeeUserId.all (lengthIn 0 36) = true := by decide

def CheckinRequest.empty : CheckinRequest := {}

def RegistrationCreateRequest.empty : RegistrationCreateRequest := {}

inductive CheckinStatus where
  | success | duplicate | geofenceFailed | invalidToken | eventNotActive | registrationRequired
  | implausibleVelocity | ipCountryMismatch | attestationMissing | attestationNotImplemented
  | attestationInvalid | attendeeMismatch
  deriving DecidableEq

structure CheckinResponse where
  checkinId : Option Int := none
  status : CheckinStatus
  geofencePassed : Option Bool := none
  distanceM : Option ℚ := none
  checkinAt : Option ℚ := none
  deriving DecidableEq

structure EventCreate where
  eventType : EventType := .generic
  title : String
  description : Option String := none
  locationName : Option String := none
  latitude : Field (Option ℚ) := .unset
  longitude : Field (Option ℚ) := .unset
  geofenceRadiusM : Option Int := some 100
  startTime : Field (Option Datetime) := .unset
  endTime : Field (Option Datetime) := .unset
  maxCapacity : Option Int := none
  checkinMethod : EventCheckinMethod := .none
  status : EventStatus := .draft
  visibility : Visibility := .public_
  allowNfcCheckin : Bool := false
  groupId : Option Int := none
  groupKind : Option GroupKind := none

/-- A field validator runs only on a field that is present in the body. -/
def EventCreate.endAfterStart (b : EventCreate) : Except Py.Exc Bool :=
  match b.endTime, b.startTime.getD none with
  | .supplied (some v), some start => do return !(← v.le start)
  | _, _ => .ok true

def EventCreate.lonRequiresLat (b : EventCreate) : Bool :=
  match b.longitude with
  | .unset => true
  | .supplied v => v.isNone == (b.latitude.getD none).isNone

def EventCreate.accepted (geofenceMax : Int) (b : EventCreate) : Bool :=
  lengthIn 1 200 b.title && b.description.all (lengthIn 0 5000) &&
    b.locationName.all (lengthIn 0 200) && (b.latitude.getD none).all (within (-90) 90) &&
    (b.longitude.getD none).all (within (-180) 180) &&
    b.geofenceRadiusM.all (within 10 geofenceMax) && b.maxCapacity.all (within 1 100000) &&
    b.lonRequiresLat && b.endAfterStart = .ok true

structure EventUpdate where
  title : Field (Option String) := .unset
  description : Field (Option String) := .unset
  locationName : Field (Option String) := .unset
  latitude : Field (Option ℚ) := .unset
  longitude : Field (Option ℚ) := .unset
  geofenceRadiusM : Field (Option Int) := .unset
  startTime : Field (Option Datetime) := .unset
  endTime : Field (Option Datetime) := .unset
  maxCapacity : Field (Option Int) := .unset
  checkinMethod : Field (Option EventCheckinMethod) := .unset
  status : Field (Option EventStatus) := .unset
  visibility : Field (Option Visibility) := .unset
  allowNfcCheckin : Field (Option Bool) := .unset

def EventUpdate.accepted (geofenceMax : Int) (b : EventUpdate) : Bool :=
  (b.title.getD none).all (lengthIn 1 200) && (b.description.getD none).all (lengthIn 0 5000) &&
    (b.locationName.getD none).all (lengthIn 0 200) &&
    (b.latitude.getD none).all (within (-90) 90) &&
    (b.longitude.getD none).all (within (-180) 180) &&
    (b.geofenceRadiusM.getD none).all (within 10 geofenceMax) &&
    (b.maxCapacity.getD none).all (within 1 100000)

structure EventResponse where
  id : Int
  schoolId : String
  ownerUserId : String
  eventType : EventType
  title : String
  descriptionSn : Option String := none
  locationName : Option String := none
  geofenceRadiusM : Option Int := none
  startTime : Option ℚ := none
  endTime : Option ℚ := none
  maxCapacity : Option Int := none
  checkinMethod : EventCheckinMethod
  status : EventStatus
  visibility : Visibility := .public_
  allowNfcCheckin : Bool := false
  organizerRole : Option String := none
  groupId : Option Int := none
  groupKind : Option GroupKind := none
  createdAt : ℚ
  updatedAt : ℚ
  deriving DecidableEq

structure EventAdminResponse extends EventResponse where
  latitude : Option ℚ := none
  longitude : Option ℚ := none
  deriving DecidableEq

structure EventDiscoverResponse where
  id : Int
  eventType : EventType
  title : String
  descriptionSn : Option String := none
  locationName : Option String := none
  startTime : Option ℚ := none
  endTime : Option ℚ := none
  maxCapacity : Option Int := none
  visibility : Visibility
  status : EventStatus
  deriving DecidableEq

structure RegistrationListResponse where
  id : Int
  eventId : Int
  hashedAttendeeId : String
  status : RegistrationStatus
  waitlistPosition : Option Int := none
  registeredAt : ℚ
  deriving DecidableEq

structure QrTokenMintRequest where
  ttlMinutes : Int := 60
  singleUse : Bool := true
  attendeeUserId : Option String := none
  ttlMinutes_range : within 1 720 ttlMinutes = true := by decide
  attendeeUserId_length : attendeeUserId.all (lengthIn 0 36) = true := by decide

def QrTokenMintRequest.empty : QrTokenMintRequest := {}

structure QrTokenMintResponse where
  qrTokenId : Int
  eventId : Int
  eventTable : EventTable
  rawToken : String
  expiresAt : ℚ
  singleUse : Bool
  deriving DecidableEq

structure QrTokenListItem where
  id : Int
  eventId : Int
  eventTable : EventTable
  issuedAt : ℚ
  expiresAt : ℚ
  singleUse : Bool
  usedAt : Option ℚ := none
  deriving DecidableEq

structure InvitationSendItem where
  inviteeUserId : String
  reason : Option String := none
  inviteeUserId_length : lengthIn 1 36 inviteeUserId = true := by decide
  reason_length : reason.all (lengthIn 0 2000) = true := by decide

def InvitationSendItem.plain (inviteeUserId : String)
    (h : lengthIn 1 36 inviteeUserId = true) : InvitationSendItem where
  inviteeUserId := inviteeUserId
  inviteeUserId_length := h

structure InvitationSendRequest where
  invitees : List InvitationSendItem
  invitees_length : within 1 500 invitees.length = true := by decide

structure InvitationCreateBatchRow where
  id : Int
  eventId : Int
  hashedInviteeId : String
  status : InvitationStatus
  reasonSn : Option String := none
  deriving DecidableEq

structure InvitationCreateBatchResponse where
  sent : Nat
  alreadyExisted : Nat
  invitations : List InvitationCreateBatchRow
  deriving DecidableEq

structure InvitationOrganizerRow where
  id : Int
  eventId : Int
  inviteeUserId : String
  hashedInviteeId : String
  status : InvitationStatus
  reasonSn : Option String := none
  respondedAt : Option ℚ := none
  deriving DecidableEq

structure InvitationListResponse where
  invitations : List InvitationOrganizerRow
  total : Nat
  deriving DecidableEq

structure MyInvitationRow where
  id : Int
  eventId : Int
  hashedInviteeId : String
  status : InvitationStatus
  reasonSn : Option String := none
  createdAt : ℚ
  respondedAt : Option ℚ := none
  deriving DecidableEq

structure MyInvitationsResponse where
  invitations : List MyInvitationRow
  total : Nat
  deriving DecidableEq

inductive InvitationDecision where
  | accepted | declined
  deriving DecidableEq

structure InvitationRespondResponse where
  id : Int
  eventId : Int
  status : InvitationStatus
  respondedAt : Option ℚ := none
  deriving DecidableEq

end CheckinService
