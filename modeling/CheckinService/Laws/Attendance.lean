import CheckinService.Laws.Capacity

namespace CheckinService

open Relational

def CheckedIn (db : Database) (eventId : Int) (attendee : String) : Prop :=
  ∃ c ∈ db.checkins.rows, c.eventId = eventId ∧ c.attendeeUserId = attendee

def Attended (db : Database) (eventId : Int) (attendee : String) : Prop :=
  ∃ r ∈ db.registrations.rows,
    r.eventId = eventId ∧ r.attendeeUserId = attendee ∧ r.status = .attended

def AttendanceAgrees (db : Database) : Prop :=
  ∀ eventId attendee, CheckedIn db eventId attendee ↔ Attended db eventId attendee

def CancelsInTime (s : Service) : AttendeeCall → Prop
  | .cancel call => ∀ r, cancelTarget call s.db = .ok r → r.status ≠ .attended
  | _ => True

section

variable {db db' : Database}

theorem AttendanceAgrees.register {call : RegisterCall} (h : AttendanceAgrees db) :
    AttendanceAgrees (registerForEvent call db).1 := by
  rcases registerForEvent_cases call db with hsame | ⟨target, event, hregisters⟩
  · rw [hsame]
    exact h
  · obtain ⟨registrations, hresult, hrows⟩ := hregisters.result
    rw [hresult]
    intro eventId attendee
    refine (h eventId attendee).trans ?_
    have hnew : (newRegistration call target event (assignSeat db event)
        db.registrations.nextId).status ≠ .attended := by
      simp only [newRegistration, assignSeat]
      split <;> simp
    simp only [Attended, hrows, List.mem_append, List.mem_singleton]
    constructor
    · rintro ⟨r, hr, hkey⟩
      exact ⟨r, Or.inl hr, hkey⟩
    · rintro ⟨r, hr | rfl, hkey⟩
      · exact ⟨r, hr, hkey⟩
      · exact absurd hkey.2.2 hnew

theorem attended_cancelled {r : EventRegistration} (hr : r ∈ db.registrations.rows)
    {eventId : Int} {attendee : String} :
    Attended (cancelled r.id db) eventId attendee ↔
      Attended db eventId attendee ∧ ¬ (r.eventId = eventId ∧ r.attendeeUserId = attendee) := by
  constructor
  · rintro ⟨r', hr', hevent, hattendee, hstatus⟩
    simp only [cancelled, Table.update_rows] at hr'
    obtain ⟨r₀, hr₀, rfl⟩ := List.mem_map.mp hr'
    split at hevent
    · rename_i hid
      rw [if_pos hid] at hstatus
      cases hstatus
    · rename_i hid
      rw [if_neg hid] at hattendee hstatus
      refine ⟨⟨r₀, hr₀, hevent, hattendee, hstatus⟩, ?_⟩
      rintro ⟨hevent', hattendee'⟩
      apply hid
      rw [eq_of_attendee hr₀ hr (hevent.trans hevent'.symm) (hattendee.trans hattendee'.symm)]
      rfl
  · rintro ⟨⟨r', hr', hevent, hattendee, hstatus⟩, hother⟩
    refine ⟨r', ?_, hevent, hattendee, hstatus⟩
    simp only [cancelled, Table.update_rows]
    refine List.mem_map.mpr ⟨r', hr', if_neg ?_⟩
    intro hid
    have hsame := db.registrations.eq_of_id hr' hr hid
    subst hsame
    exact hother ⟨hevent, hattendee⟩

theorem attendanceAgrees_cancel_iff {call : CancelCall} {s : Service}
    (h : AttendanceAgrees s.db) :
    AttendanceAgrees (cancelRegistration call s.db).1 ↔ CancelsInTime s (.cancel call) := by
  unfold cancelRegistration
  rw [CancelsInTime]
  cases htarget : cancelTarget call s.db with
  | error f => simp [h]
  | ok r =>
    obtain ⟨-, -, hfound⟩ := cancelTarget_eq_ok.mp htarget
    obtain ⟨hmem, hevent, hattendee⟩ := findRegistration_eq_some.mp hfound
    simp only [Except.ok.injEq, forall_eq']
    constructor
    · intro hagrees hattended
      have hchecked : CheckedIn s.db r.eventId r.attendeeUserId :=
        (h _ _).mpr ⟨r, hmem, rfl, rfl, hattended⟩
      exact ((attended_cancelled hmem).mp ((hagrees _ _).mp hchecked)).2 ⟨rfl, rfl⟩
    · intro hlive eventId attendee
      rw [attended_cancelled hmem]
      refine (h eventId attendee).trans ⟨fun hattended => ⟨hattended, ?_⟩, And.left⟩
      rintro ⟨rfl, rfl⟩
      obtain ⟨r', hr', hevent', hattendee', hstatus⟩ := hattended
      rw [eq_of_attendee hr' hmem hevent' hattendee'] at hstatus
      exact hlive hstatus

theorem Recorded.attendanceAgrees {env : Env} {call : CheckinCall} {s : Service}
    {target : String} {plan : CheckinPlan} (hrec : Recorded env call s target plan)
    (h : AttendanceAgrees s.db) : AttendanceAgrees (submitCheckin env call s).1.db := by
  obtain ⟨checkin, hcheckins, hevent, hattendee, -⟩ := hrec.effect.checkins
  obtain ⟨r, hr, hrevent, hrattendee⟩ := hrec.effect.registered
  have hregistrations := hrec.effect.registrations
  intro eventId attendee
  have hnew : CheckedIn (submitCheckin env call s).1.db eventId attendee ↔
      CheckedIn s.db eventId attendee ∨ (call.eventId = eventId ∧ target = attendee) := by
    simp only [CheckedIn, hcheckins, List.mem_append, List.mem_singleton]
    constructor
    · rintro ⟨c, hc | rfl, hkey⟩
      · exact Or.inl ⟨c, hc, hkey⟩
      · exact Or.inr ⟨hevent.symm.trans hkey.1, hattendee.symm.trans hkey.2⟩
    · rintro (⟨c, hc, hkey⟩ | ⟨hid, htarget⟩)
      · exact ⟨c, Or.inl hc, hkey⟩
      · exact ⟨checkin, Or.inr rfl, hevent.trans hid, hattendee.trans htarget⟩
  have hattended : Attended (submitCheckin env call s).1.db eventId attendee ↔
      Attended s.db eventId attendee ∨ (call.eventId = eventId ∧ target = attendee) := by
    simp only [Attended, hregistrations, List.mem_map]
    constructor
    · rintro ⟨_, ⟨r₀, hr₀, rfl⟩, hkey⟩
      by_cases hown : r₀.eventId = call.eventId ∧ r₀.attendeeUserId = target
      · rw [if_pos hown] at hkey
        exact Or.inr ⟨hown.1.symm.trans hkey.1, hown.2.symm.trans hkey.2.1⟩
      · rw [if_neg hown] at hkey
        exact Or.inl ⟨r₀, hr₀, hkey⟩
    · rintro (⟨r₀, hr₀, hkey⟩ | ⟨hid, htarget⟩)
      · refine ⟨_, ⟨r₀, hr₀, rfl⟩, ?_⟩
        split
        · exact ⟨hkey.1, hkey.2.1, rfl⟩
        · exact hkey
      · refine ⟨_, ⟨r, hr, rfl⟩, ?_⟩
        rw [if_pos ⟨hrevent, hrattendee⟩]
        exact ⟨hrevent.trans hid, hrattendee.trans htarget, rfl⟩
  rw [hnew, hattended, h eventId attendee]

end

/-- Over every run from empty tables, the two records agree exactly as long as nobody's
registration is cancelled after they have attended. -/
theorem attendanceAgrees_iff_cancelsInTime (env : Env) (s : Service) (calls : List AttendeeCall) :
    Machine.Always (attendeeStep env) (fun s => AttendanceAgrees s.db)
        { s with db := { s.db with registrations := .empty, checkins := .empty } } calls ↔
      Machine.Guarded (attendeeStep env) CancelsInTime
        { s with db := { s.db with registrations := .empty, checkins := .empty } } calls := by
  apply Machine.always_iff_guarded_of_step
  · intro s call h
    cases call with
    | register call =>
      simp only [CancelsInTime, iff_true, attendeeStep]
      exact h.register
    | cancel call =>
      simp only [attendeeStep]
      exact attendanceAgrees_cancel_iff h
    | checkin call =>
      simp only [CancelsInTime, iff_true, attendeeStep]
      rcases submitCheckin_cases env call s with hsame | ⟨target, plan, hrec⟩
      · rw [hsame]
        exact h
      · exact hrec.attendanceAgrees h
  · intro eventId attendee
    constructor
    · rintro ⟨c, hc, -⟩
      cases hc
    · rintro ⟨r, hr, -⟩
      cases hr

def sampleManualEvent : CreateCall where
  payload := { title := "Mixer", checkinMethod := .manual, status := .published }
  actor := ⟨some "7", some "creator", none, none⟩

def sampleRegret : List AttendeeCall :=
  [.register (sampleRegister sampleFan),
    .checkin { eventId := 1, payload := .empty, actor := sampleFan, clock := sampleClock },
    .cancel { eventId := 1, attendeeUserId := "fan-1", actor := sampleFan }]

theorem attendanceAgrees_fails_cancelled :
    sampleManualEvent.payload.accepted 500 = true ∧
      ¬ Machine.Always (attendeeStep sampleEnv) (fun s => AttendanceAgrees s.db)
        { db := (createEvent sampleManualEvent {}).1 } sampleRegret := by
  refine ⟨by decide +kernel, ?_⟩
  intro h
  have hagrees := h.run 1 "fan-1"
  have hchecked : ∃ c ∈ (Machine.run (attendeeStep sampleEnv)
      { db := (createEvent sampleManualEvent {}).1 } sampleRegret).db.checkins.rows,
      c.eventId = 1 ∧ c.attendeeUserId = "fan-1" := by
    decide +kernel
  obtain ⟨r, hr, -, -, hstatus⟩ := hagrees.mp hchecked
  have hnone : ∀ r ∈ (Machine.run (attendeeStep sampleEnv)
      { db := (createEvent sampleManualEvent {}).1 } sampleRegret).db.registrations.rows,
      r.status ≠ .attended := by
    decide +kernel
  exact hnone r hr hstatus

end CheckinService
