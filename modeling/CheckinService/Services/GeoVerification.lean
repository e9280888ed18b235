import CheckinService.Models
import CheckinService.Services.Geofence
import Mathlib.Data.List.MinMax

/-! `services/geo_verification.py`.  The knobs are read from the process environment. -/

namespace CheckinService

structure Settings where
  isDev : Bool := true
  velocityCheckEnabled : Bool := true
  velocityWindowSeconds : Int := 7200
  velocityMaxMph : ℚ := 500
  ipCountryCheckEnabled : Bool := true
  requireDeviceAttestation : Bool := false
  skipDeviceAttestation : Bool := false

structure VelocityReject where
  code : String := "velocity_implausible"
  impliedMph : ℚ
  maxMph : ℚ
  deriving DecidableEq

def priorCheckin (db : Database) (attendeeUserId : String) (eventId : Int) (since : ℚ) :
    Option EventCheckin :=
  (db.checkins.rows.filter fun c =>
    c.attendeeUserId = attendeeUserId && c.eventId ≠ eventId && since ≤ c.checkinAt).argmax
      EventCheckin.checkinAt

def velocityCheck (settings : Settings) (haversineDistanceM : ℚ → ℚ → ℚ → ℚ → ℚ)
    (db : Database) (attendeeUserId : String) (event : Event) (now : ℚ) :
    Except VelocityReject Unit :=
  if !settings.velocityCheckEnabled then .ok ()
  else match event.latitude, event.longitude with
    | some lat, some lon =>
      match priorCheckin db attendeeUserId event.id (now - settings.velocityWindowSeconds) with
      | none => .ok ()
      | some prior =>
        match db.events.first fun e => e.id = prior.eventId with
        | none => .ok ()
        | some priorEvent =>
          match priorEvent.latitude, priorEvent.longitude with
          | some plat, some plon =>
            let distanceM :=
              haversineDistanceM plat.float plon.float lat.float lon.float
            let elapsed := now - prior.checkinAt
            if elapsed ≤ 0 then .ok ()
            else
              let speedMph := distanceM / elapsed * (22369362921 / 10000000000)
              if settings.velocityMaxMph < speedMph then
                .error { impliedMph := Py.roundTo 1 speedMph, maxMph := settings.velocityMaxMph }
              else .ok ()
          | _, _ => .ok ()
    | _, _ => .ok ()

def getHeader (headers : List (String × String)) (key : String) : Option String :=
  headers.lookup key

def extractViewerCountry (headers : List (String × String)) : Option String :=
  let keys := ["CloudFront-Viewer-Country", "cloudfront-viewer-country", "X-Appengine-Country",
    "x-appengine-country"]
  match keys.findSome? fun k => Py.orNone (getHeader headers k) with
  | none => none
  | some value => Py.orNone (some (Py.take 2 (Py.upper (Py.strip value))))

def ipCountryCheck (settings : Settings) (event : Event) (headers : List (String × String)) :
    Bool :=
  if !settings.ipCountryCheckEnabled then true
  else match Py.orNone event.country with
    | none => true
    | some country =>
      match extractViewerCountry headers with
      | none => true
      | some viewer => Py.take 2 (Py.upper (Py.strip country)) = viewer

inductive Platform where
  | ios | android
  deriving DecidableEq

def Platform.name : Platform → String
  | .ios => "ios"
  | .android => "android"

/-- No platform token is ever verified; the error is the code of the rejection. -/
def verifyDeviceAttestation (settings : Settings) (platform token : Option String) :
    Except String Unit :=
  if settings.isDev && settings.skipDeviceAttestation then .ok ()
  else match Py.orNone platform, Py.orNone token with
    | some platform, some _ =>
      if platform ∉ ["ios", "android"] then .error "attestation_invalid_platform"
      else .error "attestation_not_implemented"
    | _, _ => .error "attestation_missing"

def attestationRequired (settings : Settings) : Bool :=
  settings.requireDeviceAttestation && !(settings.isDev && settings.skipDeviceAttestation)

end CheckinService
