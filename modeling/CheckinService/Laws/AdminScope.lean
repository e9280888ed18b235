import CheckinService.Laws.Admission

namespace CheckinService

open Relational

def AttendeeCall.actor : AttendeeCall → Actor
  | .register call => call.actor
  | .cancel call => call.actor
  | .checkin call => call.actor

def AttendeeCall.eventId : AttendeeCall → Int
  | .register call => call.eventId
  | .cancel call => call.eventId
  | .checkin call => call.eventId

def AttendeeCall.attendee : AttendeeCall → Option String
  | .register call => targetUserId call.payload.attendeeUserId call.actor
  | .cancel call => some call.attendeeUserId
  | .checkin call => targetUserId call.payload.attendeeUserId call.actor

structure ActsForOther (call : AttendeeCall) (school : String) : Prop where
  isAdmin : call.actor.isAdmin = true
  school : Py.orNone call.actor.schoolId = some school
  other : ∀ target, call.attendee = some target → call.actor.userId ≠ some target

def WritesAttendance (db db' : Database) : Prop :=
  db'.registrations.rows ≠ db.registrations.rows ∨ db'.checkins.rows ≠ db.checkins.rows ∨
    db'.qrTokens.rows ≠ db.qrTokens.rows

def WritesInSchool (env : Env) (s : Service) (call : AttendeeCall) (school : String) : Prop :=
  WritesAttendance s.db (attendeeStep env s call).db →
    ∃ event, findEvent s.db call.eventId = some event ∧ event.schoolId = school

def ChecksInAtSchool (env : Env) (s : Service) (school : String) : AttendeeCall → Prop
  | .checkin call =>
    (∃ target plan, Recorded env call s target plan) →
      ∃ event, findEvent s.db call.eventId = some event ∧ event.schoolId = school
  | _ => True

theorem not_writesAttendance_self (db : Database) : ¬ WritesAttendance db db := by
  simp [WritesAttendance]

theorem Recorded.writesAttendance {env : Env} {call : CheckinCall} {s : Service} {target : String}
    {plan : CheckinPlan} (h : Recorded env call s target plan) :
    WritesAttendance s.db (submitCheckin env call s).1.db := by
  obtain ⟨checkin, hrows, -⟩ := h.effect.checkins
  refine Or.inr (Or.inl ?_)
  rw [hrows]
  simp

section

variable {school : String} {db : Database}

theorem registerForEvent_inSchool {call : RegisterCall} (hadmin : call.actor.isAdmin = true)
    (hschool : Py.orNone call.actor.schoolId = some school)
    (h : WritesAttendance db (registerForEvent call db).1) :
    ∃ event, findEvent db call.eventId = some event ∧ event.schoolId = school := by
  rcases registerForEvent_cases call db with hsame | ⟨target, event, hregisters⟩
  · rw [hsame] at h
    exact absurd h (not_writesAttendance_self db)
  · obtain ⟨hfound, hscope⟩ := resolveEventOr404_eq_ok.mp hregisters.inScope
    exact ⟨event, hfound, hscope school (schoolFilter_eq_some.mpr ⟨hadmin, hschool⟩)⟩

theorem cancelRegistration_inSchool {call : CancelCall} (hadmin : call.actor.isAdmin = true)
    (hschool : Py.orNone call.actor.schoolId = some school)
    (h : WritesAttendance db (cancelRegistration call db).1) :
    ∃ event, findEvent db call.eventId = some event ∧ event.schoolId = school := by
  unfold cancelRegistration at h
  cases htarget : cancelTarget call db with
  | error f =>
    rw [htarget] at h
    exact absurd h (not_writesAttendance_self db)
  | ok r =>
    obtain ⟨-, ⟨event, hevent⟩, -⟩ := cancelTarget_eq_ok.mp htarget
    obtain ⟨hfound, hscope⟩ := resolveEventOr404_eq_ok.mp hevent
    exact ⟨event, hfound, hscope school (schoolFilter_eq_some.mpr ⟨hadmin, hschool⟩)⟩

end

/-- Registering and cancelling stay inside the admin's school; a check-in does so exactly when
it is refused or its event happens to be the school's. -/
theorem writesInSchool_iff (env : Env) (s : Service) (call : AttendeeCall) (school : String)
    (h : ActsForOther call school) :
    WritesInSchool env s call school ↔ ChecksInAtSchool env s school call := by
  cases call with
  | register call =>
    simp only [ChecksInAtSchool, iff_true, WritesInSchool, attendeeStep]
    exact registerForEvent_inSchool h.isAdmin h.school
  | cancel call =>
    simp only [ChecksInAtSchool, iff_true, WritesInSchool, attendeeStep]
    exact cancelRegistration_inSchool h.isAdmin h.school
  | checkin call =>
    constructor
    · rintro hwrites ⟨target, plan, hrec⟩
      exact hwrites hrec.writesAttendance
    · intro hschool hwrites
      apply hschool
      rw [← submitCheckin_succeeded]
      by_contra hrefused
      rw [Bool.not_eq_true] at hrefused
      simp only [attendeeStep, submitCheckin_unchanged hrefused] at hwrites
      exact not_writesAttendance_self s.db hwrites

def sampleSchoolEventCall : CreateCall where
  payload := { title := "Tryouts", checkinMethod := .manual, status := .published }
  actor := sampleCoach

def sampleSchoolService : Service where
  db := (registerForEvent (sampleRegister sampleFan) (createEvent sampleSchoolEventCall {}).1).1

def sampleWalkIn : CheckinRequest :=
  { CheckinRequest.empty with
    attendeeUserId := some "fan-1", attendeeUserId_length := by decide }

def sampleAdminCheckin : CheckinCall where
  eventId := 1
  payload := sampleWalkIn
  actor := sampleSchoolAdmin
  clock := sampleClock

theorem sampleAdminCheckin_forOther : ActsForOther (.checkin sampleAdminCheckin) "school-2" := by
  refine ⟨by decide +kernel, by decide, ?_⟩
  intro target htarget
  cases htarget
  decide

theorem writesInSchool_sample :
    WritesInSchool sampleEnv sampleSchoolService
      (.cancel { eventId := 1, attendeeUserId := "fan-1", actor := sampleSchoolAdmin })
      "school-2" := by
  rw [writesInSchool_iff]
  · trivial
  · refine ⟨by decide +kernel, by decide, ?_⟩
    intro target htarget
    cases htarget
    decide

/-- The admin of school-2 checks the fan in at school-1. -/
theorem writesInSchool_fails_checkin :
    ¬ ∀ env s call school, ActsForOther call school → WritesInSchool env s call school := by
  intro h
  have hwrites : WritesAttendance sampleSchoolService.db
      (attendeeStep sampleEnv sampleSchoolService (.checkin sampleAdminCheckin)).db := by
    refine Or.inr (Or.inl ?_)
    decide +kernel
  obtain ⟨event, hfound, hschool⟩ := h sampleEnv sampleSchoolService _ _
    sampleAdminCheckin_forOther hwrites
  have hevent : (findEvent sampleSchoolService.db 1).map Event.schoolId = some "school-1" := by
    decide +kernel
  change findEvent sampleSchoolService.db 1 = some event at hfound
  rw [hfound, Option.map_some, hschool] at hevent
  exact absurd hevent (by decide)

end CheckinService
