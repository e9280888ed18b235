import CheckinService.Laws.CheckinEffect
import CheckinService.Laws.Factors
import CheckinService.Laws.Registrations
import CheckinService.Routers.Events

namespace CheckinService

open Relational

inductive AttendeeCall where
  | register (call : RegisterCall)
  | cancel (call : CancelCall)
  | checkin (call : CheckinCall)

def attendeeStep (env : Env) (s : Service) : AttendeeCall → Service
  | .register call => { s with db := (registerForEvent call s.db).1 }
  | .cancel call => { s with db := (cancelRegistration call s.db).1 }
  | .checkin call => (submitCheckin env call s).1

def WithinCapacity (eventId capacity : Int) (db : Database) : Prop :=
  (activeCount db eventId : Int) ≤ capacity

instance (eventId capacity : Int) (db : Database) :
    Decidable (WithinCapacity eventId capacity db) := by
  unfold WithinCapacity
  infer_instance

def Capped (eventId capacity : Int) (db : Database) : Prop :=
  ∃ event, findEvent db eventId = some event ∧ event.maxCapacity = some capacity

def SeatLeft (env : Env) (eventId capacity : Int) (s : Service) : AttendeeCall → Prop
  | .checkin call =>
    ∀ target plan, Recorded env call s target plan → call.eventId = eventId →
      plan.registration.isActive = false → (activeCount s.db eventId : Int) < capacity
  | _ => True

def Seat.isActive (seat : Seat) : Bool := seat.status = .registered || seat.status = .attended

section Steps

variable {eventId capacity : Int}

theorem registerForEvent_events (call : RegisterCall) (db : Database) :
    (registerForEvent call db).1.events = db.events := by
  rcases registerForEvent_cases call db with hsame | ⟨target, event, hregisters⟩
  · rw [hsame]
  · obtain ⟨registrations, hresult, -⟩ := hregisters.result
    rw [hresult]

theorem cancelRegistration_cases (call : CancelCall) (db : Database) :
    (cancelRegistration call db).1 = db ∨
      ∃ r ∈ db.registrations.rows, (cancelRegistration call db).1 = cancelled r.id db := by
  unfold cancelRegistration
  cases h : cancelTarget call db with
  | error f => exact Or.inl rfl
  | ok r =>
    obtain ⟨-, -, hfound⟩ := cancelTarget_eq_ok.mp h
    exact Or.inr ⟨r, (findRegistration_eq_some.mp hfound).1, rfl⟩

theorem cancelRegistration_events (call : CancelCall) (db : Database) :
    (cancelRegistration call db).1.events = db.events := by
  rcases cancelRegistration_cases call db with h | ⟨r, -, h⟩
  · rw [h]
  · rw [h, cancelled]

theorem submitCheckin_events (env : Env) (call : CheckinCall) (s : Service) :
    (submitCheckin env call s).1.db.events = s.db.events := by
  rcases submitCheckin_cases env call s with hsame | ⟨target, plan, hrec⟩
  · rw [hsame]
  · exact hrec.effect.events

theorem attendeeStep_events (env : Env) (s : Service) (call : AttendeeCall) :
    (attendeeStep env s call).db.events = s.db.events := by
  cases call with
  | register call =>
    simp only [attendeeStep]
    exact registerForEvent_events call s.db
  | cancel call =>
    simp only [attendeeStep]
    exact cancelRegistration_events call s.db
  | checkin call =>
    simp only [attendeeStep]
    exact submitCheckin_events env call s

theorem Capped.of_events {db db' : Database} (h : Capped eventId capacity db)
    (hevents : db'.events = db.events) : Capped eventId capacity db' := by
  rw [Capped, findEvent, hevents]
  exact h

theorem Capped.hasRoom_iff {db : Database} (h : Capped eventId capacity db) {event : Event}
    (hfind : findEvent db eventId = some event) (counted : Database) :
    hasRoom counted event = true ↔ (activeCount counted eventId : Int) < capacity := by
  obtain ⟨event', hfind', hcapacity⟩ := h
  cases hfind.symm.trans hfind'
  rw [hasRoom, hcapacity, (findEvent_eq_some.mp hfind).2]
  simp

theorem activeCount_append {db db' : Database} {r : EventRegistration}
    (hrows : db'.registrations.rows = db.registrations.rows ++ [r]) :
    activeCount db' eventId =
      activeCount db eventId + if r.eventId = eventId ∧ r.isActive = true then 1 else 0 := by
  rw [activeCount, hrows, List.countP_append, List.countP_singleton, activeCount]
  by_cases hid : r.eventId = eventId
  · simp [hid]
  · simp [hid]

theorem assignSeat_isActive (counted : Database) (locked : Event) :
    (assignSeat counted locked).isActive = hasRoom counted locked := by
  rw [Seat.isActive, assignSeat]
  split <;> simp [*]

theorem Registers.activeCount_eq {call : RegisterCall} {target : String} {event : Event}
    {db : Database} (h : Registers call target event db) :
    activeCount (registerForEvent call db).1 eventId =
      activeCount db eventId +
        if call.eventId = eventId ∧ hasRoom db event = true then 1 else 0 := by
  obtain ⟨registrations, hresult, hrows⟩ := h.result
  rw [hresult, activeCount_append hrows, ← assignSeat_isActive]
  rfl

theorem registerForEvent_within {call : RegisterCall} {db : Database}
    (hcapped : Capped eventId capacity db) (h : WithinCapacity eventId capacity db) :
    WithinCapacity eventId capacity (registerForEvent call db).1 := by
  rw [WithinCapacity] at h ⊢
  rcases registerForEvent_cases call db with hsame | ⟨target, event, hregisters⟩
  · rw [hsame]
    exact h
  · rw [hregisters.activeCount_eq]
    split
    · rename_i htaken
      have hfound := hregisters.found
      rw [htaken.1] at hfound
      have hroom := (hcapped.hasRoom_iff hfound db).mp htaken.2
      omega
    · exact h

theorem cancelled_activeCount (eventId : Int) {db : Database} {r : EventRegistration}
    (hr : r ∈ db.registrations.rows) :
    activeCount (cancelled r.id db) eventId +
      (if r.eventId = eventId ∧ r.isActive = true then 1 else 0) = activeCount db eventId := by
  have hcount := Table.countP_update EventRegistration.cancel_keepsKeys
    (fun r => r.eventId = eventId && r.isActive) hr (i := r.id) rfl
  have hfree : r.cancel.isActive = false := rfl
  simp only [hfree, Bool.and_false, Bool.toNat_false] at hcount
  simp only [activeCount, cancelled]
  by_cases hevent : r.eventId = eventId
  · cases hactive : r.isActive with
    | false => simpa [hevent, hactive] using hcount
    | true => simpa [hevent, hactive] using hcount
  · simpa [hevent] using hcount

theorem cancelRegistration_within {call : CancelCall} {db : Database}
    (h : WithinCapacity eventId capacity db) :
    WithinCapacity eventId capacity (cancelRegistration call db).1 := by
  rw [WithinCapacity] at h ⊢
  rcases cancelRegistration_cases call db with hcancel | ⟨r, hr, hcancel⟩
  · rw [hcancel]
    exact h
  · have hle := Nat.le.intro (cancelled_activeCount eventId hr)
    rw [hcancel]
    omega

theorem Recorded.activeCount_eq {env : Env} {call : CheckinCall} {s : Service} {target : String}
    {plan : CheckinPlan} (h : Recorded env call s target plan) :
    activeCount (submitCheckin env call s).1.db eventId =
      activeCount s.db eventId +
        if call.eventId = eventId ∧ plan.registration.isActive = false then 1 else 0 := by
  obtain ⟨inserted, limiter, hinsert, hsubmit⟩ := h.result
  obtain ⟨-, -, -, hinserted⟩ := insertCheckin_eq_some hinsert
  obtain ⟨hfind, hlive⟩ := h.cleared.registered
  obtain ⟨hmem, hevent, -⟩ := findRegistration_eq_some.mp hfind
  have hsame : inserted.registrations = s.db.registrations := by rw [hinserted]
  have hcount := Table.countP_update EventRegistration.attend_keepsKeys
    (fun r => r.eventId = eventId && r.isActive) hmem (i := plan.registration.id) rfl
  have hattend : plan.registration.attend = { plan.registration with status := .attended } := by
    rw [EventRegistration.attend, if_neg hlive]
  have hattended : plan.registration.attend.isActive = true := by
    rw [hattend]
    rfl
  have hattendedEvent : plan.registration.attend.eventId = call.eventId := by
    rw [hattend, ← hevent]
  simp only [hattended, hattendedEvent, hevent, Bool.and_true] at hcount
  rw [hsubmit, consumeQr_frame]
  simp only [activeCount, markAttended, hsame]
  by_cases hid : call.eventId = eventId
  · cases hactive : plan.registration.isActive with
    | false => simpa [hid, hactive] using hcount
    | true => simpa [hid, hactive] using hcount
  · simpa [hid] using hcount

theorem submitCheckin_within_iff {env : Env} {call : CheckinCall} {s : Service}
    (h : WithinCapacity eventId capacity s.db) :
    WithinCapacity eventId capacity (submitCheckin env call s).1.db ↔
      SeatLeft env eventId capacity s (.checkin call) := by
  rw [WithinCapacity] at h ⊢
  rw [SeatLeft]
  cases hsuccess : (submitCheckin env call s).2.succeeded with
  | false =>
    rw [submitCheckin_unchanged hsuccess]
    simp only [h, true_iff]
    intro target plan hrec
    rw [submitCheckin_succeeded.mpr ⟨target, plan, hrec⟩] at hsuccess
    cases hsuccess
  | true =>
    constructor
    · intro hwithin target plan hrec hid hinactive
      rw [hrec.activeCount_eq, if_pos ⟨hid, hinactive⟩] at hwithin
      omega
    · intro hseat
      obtain ⟨target, plan, hrec⟩ := submitCheckin_succeeded.mp hsuccess
      rw [hrec.activeCount_eq]
      split
      · rename_i htaken
        have hleft := hseat target plan hrec htaken.1 htaken.2
        omega
      · exact h

end Steps

/-- Over every run, the seats taken stay within the capacity exactly as long as whoever checks
in from the waitlist finds one free. -/
theorem withinCapacity_iff_seatLeft (env : Env) (eventId capacity : Int) (s : Service)
    (calls : List AttendeeCall) (hcapped : Capped eventId capacity s.db)
    (hstart : WithinCapacity eventId capacity s.db) :
    Machine.Always (attendeeStep env) (fun s => WithinCapacity eventId capacity s.db) s calls ↔
      Machine.Guarded (attendeeStep env) (SeatLeft env eventId capacity) s calls := by
  apply Machine.always_iff_guarded (J := fun s => Capped eventId capacity s.db)
  · intro s call h
    exact h.of_events (attendeeStep_events env s call)
  · intro s call hcapped h
    cases call with
    | register call =>
      simp only [SeatLeft, iff_true, attendeeStep]
      exact registerForEvent_within hcapped h
    | cancel call =>
      simp only [SeatLeft, iff_true, attendeeStep]
      exact cancelRegistration_within h
    | checkin call => exact submitCheckin_within_iff h
  · exact hcapped
  · exact hstart

def sampleSmallEvent : CreateCall where
  payload :=
    { title := "Mixer"
      maxCapacity := some 1
      checkinMethod := .manual
      status := .published }
  actor := ⟨some "7", some "creator", none, none⟩

def sampleSmallService : Service := { db := (createEvent sampleSmallEvent {}).1 }

def sampleSecondFan : Actor := ⟨some "fan-2", some "fan", none, none⟩

def sampleRegister (actor : Actor) : RegisterCall where
  eventId := 1
  payload := .empty
  actor := actor

theorem withinCapacity_iff_seatLeft_sample :
    Machine.Always (attendeeStep sampleEnv) (fun s => WithinCapacity 1 1 s.db) sampleSmallService
      [.register (sampleRegister sampleFan), .register (sampleRegister sampleSecondFan),
        .cancel { eventId := 1, attendeeUserId := "fan-1", actor := sampleFan }] := by
  rw [withinCapacity_iff_seatLeft]
  · exact ⟨trivial, trivial, trivial, trivial⟩
  · exact ⟨newEvent sampleSmallEvent "user:7" none "Mixer" 1, by decide +kernel, rfl⟩
  · decide +kernel

def sampleOverflow : List AttendeeCall :=
  [.register (sampleRegister sampleFan), .register (sampleRegister sampleSecondFan),
    .checkin
      { eventId := 1, payload := .empty, actor := sampleSecondFan, clock := sampleClock }]

/-- The second fan waits for the only seat, and checks in without one. -/
theorem withinCapacity_fails_waitlisted :
    sampleSmallEvent.payload.accepted 500 = true ∧
      ¬ Machine.Always (attendeeStep sampleEnv) (fun s => WithinCapacity 1 1 s.db)
        sampleSmallService sampleOverflow := by
  refine ⟨by decide +kernel, ?_⟩
  intro h
  have hover : ¬ WithinCapacity 1 1
      (Machine.run (attendeeStep sampleEnv) sampleSmallService sampleOverflow).db := by
    decide +kernel
  exact hover h.run

end CheckinService
