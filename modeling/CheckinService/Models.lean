import CheckinService.Lib.Table
import CheckinService.Lib.Python.Float

/-! The rows of the service's tables, with their UNIQUE constraints.  Instants are seconds
since the epoch; the automatic `created_at`, `updated_at`, `registered_at` and `issued_at`
stamps stand apart from the rows.  A value too wide for its column, which the database's strict
mode refuses, is stored. -/

namespace CheckinService

open Relational

inductive EventType where
  | rush | coachClinic | brandActivation | agencyMixer | generic
  deriving DecidableEq

def EventType.name : EventType → String
  | .rush => "rush"
  | .coachClinic => "coach_clinic"
  | .brandActivation => "brand_activation"
  | .agencyMixer => "agency_mixer"
  | .generic => "generic"

inductive EventStatus where
  | draft | published | active | completed | cancelled
  deriving DecidableEq

def EventStatus.name : EventStatus → String
  | .draft => "draft"
  | .published => "published"
  | .active => "active"
  | .completed => "completed"
  | .cancelled => "cancelled"

def EventStatus.isOpen (s : EventStatus) : Bool := s = .published || s = .active

inductive EventCheckinMethod where
  | manual | qr | geo | qrGeo | none
  deriving DecidableEq

inductive CheckinMethodAudit where
  | manual | qr | geo | qrGeo | nfc
  deriving DecidableEq

inductive Visibility where
  | public_ | schoolOnly | unlisted | inviteOnly | groupOnly
  deriving DecidableEq

inductive GroupKind where
  | schoolAdminGroup | teamLeadCohort
  deriving DecidableEq

inductive RegistrationStatus where
  | registered | waitlisted | cancelled | attended | noShow
  deriving DecidableEq

inductive InvitationStatus where
  | sent | accepted | declined | revoked | expired
  deriving DecidableEq

inductive MemberStatus where
  | pending | active | declined | removed
  deriving DecidableEq

inductive ConsentStatus where
  | pending | accepted | declined | revoked
  deriving DecidableEq

inductive EventTable where
  | events | greekRushEvents
  deriving DecidableEq

def EventTable.name : EventTable → String
  | .events => "events"
  | .greekRushEvents => "greek_rush_events"

/-- A coordinate as its column keeps it, `Numeric(10, 7)`. -/
structure Coordinate where
  tenMillionths : Int
  deriving DecidableEq

namespace Coordinate

def degrees (c : Coordinate) : ℚ := c.tenMillionths / 10 ^ 7

def float (c : Coordinate) : ℚ := Py.double c.degrees

/-- What the column makes of a float.  MySQL rounds the decimal that stands in the statement, and
that is the shortest one for the float; only a decimal of eight places can be halfway, and it goes
away from zero. -/
def ofFloat (value : ℚ) : Coordinate :=
  let eight := Py.roundTo 8 value
  let written := (if Py.double eight = value then eight else value) * 10 ^ 7
  ⟨if 0 ≤ written then ⌊written + 1 / 2⌋ else ⌈written - 1 / 2⌉⟩

theorem ofFloat_degrees (c : Coordinate) : ofFloat c.degrees = c := by
  have height : Py.roundTo 8 c.degrees = c.degrees := by
    have hdegrees : c.degrees = ((c.tenMillionths * 10 : Int) : ℚ) / 10 ^ 8 := by
      rw [degrees]
      push_cast
      ring
    rw [hdegrees, Py.roundTo_div]
  have hscaled : c.degrees * 10 ^ 7 = c.tenMillionths := div_mul_cancel₀ _ (by norm_num)
  have hfloor : ⌊(c.tenMillionths : ℚ) + 1 / 2⌋ = c.tenMillionths := by
    rw [Int.floor_intCast_add]
    norm_num
  have hceil : ⌈(c.tenMillionths : ℚ) - 1 / 2⌉ = c.tenMillionths := by
    rw [sub_eq_add_neg, Int.ceil_intCast_add]
    norm_num
  simp only [ofFloat, height, ite_self, hscaled, hfloor, hceil]

example : ofFloat (Py.double 12.00000006) = ⟨120000001⟩ := by decide +kernel

end Coordinate

structure Event where
  id : Int
  schoolId : String
  ownerUserId : String
  eventType : EventType := .generic
  title : String
  descriptionSn : Option String := none
  locationName : Option String := none
  latitude : Option Coordinate := none
  longitude : Option Coordinate := none
  geofenceRadiusM : Option Int := some 100
  startTime : Option ℚ := none
  endTime : Option ℚ := none
  maxCapacity : Option Int := none
  checkinMethod : EventCheckinMethod := .none
  status : EventStatus := .draft
  visibility : Visibility := .public_
  allowNfcCheckin : Bool := false
  organizerRole : Option String := none
  groupId : Option Int := none
  groupKind : Option GroupKind := none
  idempotencyKey : Option String := none
  deriving DecidableEq

/-- The events table has no country column: `getattr(event, "country", None)`. -/
def Event.country (_ : Event) : Option String := none

structure EventRegistration where
  id : Int
  schoolId : String
  eventId : Int
  attendeeUserId : String
  status : RegistrationStatus := .registered
  waitlistPosition : Option Int := none
  idempotencyKey : Option String := none
  deriving DecidableEq

def EventRegistration.isActive (r : EventRegistration) : Bool :=
  r.status = .registered || r.status = .attended

structure EventCheckin where
  id : Int
  schoolId : String
  eventId : Int
  attendeeUserId : String
  checkinAt : ℚ
  checkinMethod : CheckinMethodAudit
  qrTokenHash : Option String := none
  latHash : Option String := none
  lonHash : Option String := none
  geofencePassed : Option Bool := none
  notesSn : Option String := none
  deriving DecidableEq

structure QrToken where
  id : Int
  schoolId : String
  eventTable : EventTable := .events
  eventId : Int
  tokenHash : String
  nonce : String
  expiresAt : ℚ
  singleUse : Bool := true
  usedAt : Option ℚ := none
  usedByUserId : Option String := none
  issuedByUserId : String
  deriving DecidableEq

structure EventInvitation where
  id : Int
  schoolId : String
  eventId : Int
  inviterUserId : String
  hashedInviterId : String
  inviteeUserId : String
  hashedInviteeId : String
  status : InvitationStatus := .sent
  reasonSn : Option String := none
  respondedAt : Option ℚ := none
  deriving DecidableEq

structure SchoolAdminGroup where
  id : Int
  schoolId : String
  name : String
  sport : Option String := none
  teamLeadUserId : Option String := none
  createdByUserId : String
  isActive : Bool := true
  deriving DecidableEq

structure SchoolAdminGroupMember where
  id : Int
  groupId : Int
  userId : Option String := none
  status : MemberStatus := .pending
  deriving DecidableEq

structure TeamLeadRelationship where
  id : Int
  teamLeadUserId : String
  memberUserId : Option String := none
  sport : Option String := none
  consentStatus : ConsentStatus := .pending
  deriving DecidableEq

instance : Row Event (String × String) where
  id := Event.id
  keys e := e.idempotencyKey.toList.map fun k => (e.schoolId, k)

inductive RegistrationKey where
  | eventAttendee (eventId : Int) (attendee : String)
  | eventIdem (eventId : Int) (key : String)
  deriving DecidableEq

instance : Row EventRegistration RegistrationKey where
  id := EventRegistration.id
  keys r := .eventAttendee r.eventId r.attendeeUserId ::
    r.idempotencyKey.toList.map (.eventIdem r.eventId)

instance : Row EventCheckin (Int × String) where
  id := EventCheckin.id
  keys c := [(c.eventId, c.attendeeUserId)]

instance : Row QrToken String where
  id := QrToken.id
  keys t := [t.tokenHash]

instance : Row EventInvitation (Int × String) where
  id := EventInvitation.id
  keys i := [(i.eventId, i.inviteeUserId)]

instance : Row SchoolAdminGroup (String × String) where
  id := SchoolAdminGroup.id
  keys g := [(g.schoolId, g.name)]

instance : Row SchoolAdminGroupMember Empty where
  id := SchoolAdminGroupMember.id
  keys _ := []

instance : Row TeamLeadRelationship Empty where
  id := TeamLeadRelationship.id
  keys _ := []

/-- The clock readings of one request: `time.monotonic()`, `time.time()`,
`datetime.now(timezone.utc)` and the database's own `now()`. -/
structure Clock where
  monotonic : ℚ
  time : ℚ
  utcnow : ℚ
  dbNow : ℚ
  time_nonneg : 0 ≤ time

@[ext] structure Database where
  events : Table Event := .empty
  registrations : Table EventRegistration := .empty
  checkins : Table EventCheckin := .empty
  qrTokens : Table QrToken := .empty
  invitations : Table EventInvitation := .empty
  groups : Table SchoolAdminGroup := .empty
  members : Table SchoolAdminGroupMember := .empty
  relationships : Table TeamLeadRelationship := .empty

/-- The automatic stamps, by the id of the row; only the lists read them. -/
structure Stamps where
  createdAt : Int → ℚ
  updatedAt : Int → ℚ
  registeredAt : Int → ℚ
  issuedAt : Int → ℚ

structure StampedDatabase where
  db : Database := {}
  stamps : Stamps

end CheckinService
