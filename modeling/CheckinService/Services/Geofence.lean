import CheckinService.Services.Hashing

/-! `services/geofence_service.py`.  The great-circle distance is floating-point
trigonometry and enters as the parameter `haversineDistanceM`. -/

namespace CheckinService

def maxGeofenceRadiusM : Int := 5000

def hashPrecisionDigits : Nat := 3

def roundForHash (value : Py.Float) : Py.Float := value.round hashPrecisionDigits

/-- `str` of the rounded coordinate: below half a cell it is `0.0` or `-0.0`. -/
def Crypto.roundedText (c : Crypto) (value : Py.Float) : String := c.strFloat (roundForHash value)

def Crypto.hashCoordinate (c : Crypto) (value : Option Py.Float) : Option String :=
  value.map fun v => c.hashPii (c.roundedText v)

structure GeofenceCheckResult where
  passed : Bool
  distanceM : Option ℚ := none
  reason : Option String := none
  deriving DecidableEq

def coordsInRange (lat lon : ℚ) : Bool := -90 ≤ lat && lat ≤ 90 && -180 ≤ lon && lon ≤ 180

def verifyDistance (haversineDistanceM : ℚ → ℚ → ℚ → ℚ → ℚ)
    (submittedLat submittedLon eventLat eventLon : Option ℚ) (radiusM : Option Int) :
    GeofenceCheckResult :=
  match submittedLat, submittedLon with
  | some lat, some lon =>
    match eventLat, eventLon with
    | some elat, some elon =>
      if !coordsInRange lat lon then ⟨false, none, some "submitted_coords_out_of_range"⟩
      else if !coordsInRange elat elon then ⟨false, none, some "event_coords_out_of_range"⟩
      else
        -- `radius_m or 100`: a radius of 0 counts as absent
        let radius := match radiusM with
          | some r => if r = 0 then 100 else r
          | none => 100
        if radius ≤ 0 || maxGeofenceRadiusM < radius then ⟨false, none, some "invalid_radius"⟩
        else
          let distance := haversineDistanceM lat lon elat elon
          if distance ≤ radius then ⟨true, some distance, none⟩
          else ⟨false, some distance, some "out_of_range"⟩
    | _, _ => ⟨false, none, some "missing_event_coords"⟩
  | _, _ => ⟨false, none, some "missing_submitted_coords"⟩

end CheckinService
