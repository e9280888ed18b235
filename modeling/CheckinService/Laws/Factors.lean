import CheckinService.Laws.Checkins
import CheckinService.Laws.TokenLedger

namespace CheckinService

def QrVerified (env : Env) (call : CheckinCall) (target : String) (event : Event)
    (db : Database) : Prop :=
  (effectiveMethod call.payload event).needsQr = true ∧
    ∃ rawToken row, PeeksOk env call target db rawToken row

def GeoVerified (env : Env) (call : CheckinCall) (event : Event) : Prop :=
  (effectiveMethod call.payload event).needsGeo = true ∧
    (checkDistance env call.payload event).passed = true

def NotDowngraded (env : Env) (call : CheckinCall) (s : Service) : Prop :=
  (submitCheckin env call s).2.succeeded = true →
    ∀ target event, checkinTarget call = .ok target → findEvent s.db call.eventId = some event →
      (effectiveMethod call.payload event = .nfc ∧ event.allowNfcCheckin = true) ∨
        (event.checkinMethod ≠ .none ∧
          (event.checkinMethod.method.needsQr = true →
            QrVerified env call target event s.db) ∧
          (event.checkinMethod.method.needsGeo = true → GeoVerified env call event))

/-- The method in force is an NFC tap, or demands all that the event's own method does. -/
def KeepsFactors (method : CheckinMethod) (own : EventCheckinMethod) : Prop :=
  method = .nfc ∨
    (own ≠ .none ∧ (own.method.needsQr = true → method.needsQr = true) ∧
      (own.method.needsGeo = true → method.needsGeo = true))

instance (method : CheckinMethod) (own : EventCheckinMethod) :
    Decidable (KeepsFactors method own) := by
  unfold KeepsFactors
  infer_instance

theorem keepsFactors_undeclared {payload : CheckinRequest} {event : Event}
    (h : payload.checkinMethod = none) (hnone : event.checkinMethod ≠ .none) :
    KeepsFactors (effectiveMethod payload event) event.checkinMethod := by
  rw [effectiveMethod, h]
  exact Or.inr ⟨hnone, id, id⟩

section

variable {env : Env} {call : CheckinCall} {target : String} {db : Database} {plan : CheckinPlan}

theorem Cleared.qrVerified_iff (h : Cleared env call target db plan) :
    QrVerified env call target plan.event db ↔
      (effectiveMethod call.payload plan.event).needsQr = true := by
  constructor
  · exact And.left
  · intro hneeds
    exact ⟨hneeds, h.peeked hneeds⟩

theorem Cleared.geoVerified_iff (h : Cleared env call target db plan) :
    GeoVerified env call plan.event ↔
      (effectiveMethod call.payload plan.event).needsGeo = true := by
  constructor
  · exact And.left
  · intro hneeds
    refine ⟨hneeds, (geoGate_eq_ok h.geo).1 ?_⟩
    rw [h.effective]
    exact hneeds

theorem Cleared.nfc_allowed (h : Cleared env call target db plan)
    (hnfc : effectiveMethod call.payload plan.event = .nfc) :
    plan.event.allowNfcCheckin = true := (methodGate_eq_ok.mp h.method).2.2 hnfc

end

/-- Factors are safe from downgrading exactly for the requests whose method in force keeps
them, or that are not recorded anyway: the method a caller declares is checked against the
event only when it is `nfc`. -/
theorem notDowngraded_iff (env : Env) (call : CheckinCall) (s : Service) :
    NotDowngraded env call s ↔
      ∀ target plan, Recorded env call s target plan →
        KeepsFactors (effectiveMethod call.payload plan.event) plan.event.checkinMethod := by
  constructor
  · intro h target plan hrec
    have hsuccess := submitCheckin_succeeded.mpr ⟨target, plan, hrec⟩
    have hcleared := hrec.cleared
    rcases h hsuccess target plan.event hrec.resolved hcleared.event_found with hnfc | hown
    · exact Or.inl hnfc.1
    · rw [hcleared.qrVerified_iff, hcleared.geoVerified_iff] at hown
      exact Or.inr hown
  · intro h hsuccess target event htarget hevent
    obtain ⟨target', plan, hrec⟩ := submitCheckin_succeeded.mp hsuccess
    have hcleared := hrec.cleared
    have hkeeps := h target' plan hrec
    have htarget' := hrec.resolved
    rw [htarget] at htarget'
    cases htarget'
    have hevent' := hcleared.event_found
    rw [hevent] at hevent'
    cases hevent'
    rcases hkeeps with hnfc | hown
    · exact Or.inl ⟨hnfc, hcleared.nfc_allowed hnfc⟩
    · rw [hcleared.qrVerified_iff, hcleared.geoVerified_iff]
      exact Or.inr hown

def sampleEnv : Env := { crypto := sampleCrypto, haversineDistanceM := fun _ _ _ _ => 0 }

def sampleEvent : Event :=
  { id := 1, schoolId := "school-1", ownerUserId := "coach-1", title := "Mixer"
    checkinMethod := .qr, status := .published }

def sampleRegistration : EventRegistration :=
  { id := 1, schoolId := "school-1", eventId := 1, attendeeUserId := "fan-1" }

def sampleFan : Actor := ⟨some "fan-1", some "fan", none, none⟩

def sampleCoach : Actor := ⟨some "coach-1", some "coach", none, some "school-1"⟩

def sampleSchoolAdmin : Actor := ⟨some "admin-2", some "school_admin", none, some "school-2"⟩

def sampleDatabase : Database :=
  { events := .single sampleEvent, registrations := .single sampleRegistration }

/-- A fan with no token declares `manual` at an event that demands one. -/
theorem notDowngraded_fails_manual :
    sampleFan.isAdmin = false ∧
      ¬ NotDowngraded sampleEnv
        { eventId := 1, payload := { CheckinRequest.empty with checkinMethod := some .manual }
          actor := sampleFan, clock := sampleClock } { db := sampleDatabase } := by
  refine ⟨by decide, ?_⟩
  intro h
  rcases h (by decide +kernel) "fan-1" sampleEvent (by decide +kernel) (by decide +kernel)
    with hnfc | hown
  · revert hnfc
    decide
  · exact absurd (hown.2.1 rfl).1 (by decide)

end CheckinService
