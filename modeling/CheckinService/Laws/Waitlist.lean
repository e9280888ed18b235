import CheckinService.Laws.Capacity

namespace CheckinService

open Relational

def Waiting (db : Database) (eventId : Int) : Prop :=
  ∃ r ∈ db.registrations.rows, r.eventId = eventId ∧ r.status = .waitlisted

def WaitsOnlyFull (eventId capacity : Int) (db : Database) : Prop :=
  Waiting db eventId → capacity ≤ activeCount db eventId

def KeepsSeats (eventId : Int) (s : Service) : AttendeeCall → Prop
  | .cancel call =>
    ∀ r, cancelTarget call s.db = .ok r → r.eventId = eventId → r.isActive = true →
      ¬ Waiting s.db eventId
  | _ => True

section

variable {eventId capacity : Int} {db : Database}

theorem Registers.waiting {call : RegisterCall} {target : String} {event : Event}
    (h : Registers call target event db)
    (hnew : ¬ (call.eventId = eventId ∧ hasRoom db event = false))
    (hwaiting : Waiting (registerForEvent call db).1 eventId) : Waiting db eventId := by
  obtain ⟨registrations, hresult, hrows⟩ := h.result
  obtain ⟨r, hr, hevent, hstatus⟩ := hwaiting
  rw [hresult] at hr
  simp only [hrows, List.mem_append, List.mem_singleton] at hr
  rcases hr with hr | rfl
  · exact ⟨r, hr, hevent, hstatus⟩
  · cases hroom : hasRoom db event with
    | true => simp [newRegistration, assignSeat, hroom] at hstatus
    | false => exact absurd ⟨hevent, hroom⟩ hnew

theorem WaitsOnlyFull.register {call : RegisterCall} (hcapped : Capped eventId capacity db)
    (h : WaitsOnlyFull eventId capacity db) :
    WaitsOnlyFull eventId capacity (registerForEvent call db).1 := by
  rcases registerForEvent_cases call db with hsame | ⟨target, event, hregisters⟩
  · rw [hsame]
    exact h
  · intro hwaiting
    rw [hregisters.activeCount_eq]
    by_cases hnew : call.eventId = eventId ∧ hasRoom db event = false
    · have hfound := hregisters.found
      rw [hnew.1] at hfound
      have hfull := (hcapped.hasRoom_iff hfound db).not.mp (by simp [hnew.2])
      omega
    · have hfull := h (hregisters.waiting hnew hwaiting)
      omega

theorem waiting_cancelled {registrationId : Int}
    (h : Waiting (cancelled registrationId db) eventId) : Waiting db eventId := by
  obtain ⟨_, hr, hevent, hstatus⟩ := h
  simp only [cancelled, Table.update_rows] at hr
  obtain ⟨r, hmem, rfl⟩ := List.mem_map.mp hr
  split at hstatus
  · cases hstatus
  · rename_i hid
    rw [if_neg hid] at hevent
    exact ⟨r, hmem, hevent, hstatus⟩

theorem WaitsOnlyFull.cancel {call : CancelCall} {s : Service}
    (h : WaitsOnlyFull eventId capacity s.db) (hkeeps : KeepsSeats eventId s (.cancel call)) :
    WaitsOnlyFull eventId capacity (cancelRegistration call s.db).1 := by
  unfold cancelRegistration
  rw [KeepsSeats] at hkeeps
  cases htarget : cancelTarget call s.db with
  | error f => exact h
  | ok r =>
    obtain ⟨-, -, hfound⟩ := cancelTarget_eq_ok.mp htarget
    have hmem := (findRegistration_eq_some.mp hfound).1
    intro hwaiting
    have hwaiting := waiting_cancelled hwaiting
    have hcount := cancelled_activeCount eventId hmem
    have hfull := h hwaiting
    by_cases hseat : r.eventId = eventId ∧ r.isActive = true
    · exact absurd hwaiting (hkeeps r htarget hseat.1 hseat.2)
    · rw [if_neg hseat] at hcount
      simp only
      omega

theorem WaitsOnlyFull.checkin {env : Env} {call : CheckinCall} {s : Service}
    (h : WaitsOnlyFull eventId capacity s.db) :
    WaitsOnlyFull eventId capacity (submitCheckin env call s).1.db := by
  rcases submitCheckin_cases env call s with hsame | ⟨target, plan, hrec⟩
  · rw [hsame]
    exact h
  · rintro ⟨r, hr, hevent, hstatus⟩
    rw [hrec.effect.registrations] at hr
    obtain ⟨r₀, hr₀, rfl⟩ := List.mem_map.mp hr
    have hwaiting : Waiting s.db eventId := by
      split at hstatus
      · cases hstatus
      · rename_i hother
        rw [if_neg hother] at hevent
        exact ⟨r₀, hr₀, hevent, hstatus⟩
    have hfull := h hwaiting
    rw [hrec.activeCount_eq]
    omega

theorem seat_free_of_registered {call : RegisterCall} {r : EventRegistration}
    (hcapped : Capped eventId capacity db)
    (hinserted : r ∈ (registerForEvent call db).1.registrations.rows)
    (hnew : r ∉ db.registrations.rows) (hevent : r.eventId = eventId)
    (hregistered : r.status = .registered) : (activeCount db eventId : Int) < capacity := by
  obtain ⟨target, event, hregisters⟩ : ∃ target event, Registers call target event db := by
    by_contra h
    rw [registerForEvent_unchanged h] at hinserted
    exact hnew hinserted
  obtain ⟨registrations, hresult, hrows⟩ := hregisters.result
  rw [hresult] at hinserted
  simp only [hrows, List.mem_append, List.mem_singleton] at hinserted
  rcases hinserted with hinserted | rfl
  · exact absurd hinserted hnew
  · have hid : call.eventId = eventId := hevent
    have hfound := hregisters.found
    rw [hid] at hfound
    apply (hcapped.hasRoom_iff hfound db).mp
    cases hroom : hasRoom db event with
    | true => rfl
    | false => simp [newRegistration, assignSeat, hroom] at hregistered

end

theorem waitsOnlyFull_of_keepsSeats {env : Env} {eventId capacity : Int} {s : Service}
    {calls : List AttendeeCall} (hcapped : Capped eventId capacity s.db)
    (hstart : WaitsOnlyFull eventId capacity s.db)
    (hkeeps : Machine.Guarded (attendeeStep env) (KeepsSeats eventId) s calls) :
    Machine.Always (attendeeStep env) (fun s => WaitsOnlyFull eventId capacity s.db) s calls := by
  apply Machine.always_of_guarded (J := fun s => Capped eventId capacity s.db)
    (G := KeepsSeats eventId)
  · intro s call h
    exact h.of_events (attendeeStep_events env s call)
  · intro s call hcapped h hkeeps
    cases call with
    | register call =>
      simp only [attendeeStep]
      exact h.register hcapped
    | cancel call =>
      simp only [attendeeStep]
      exact h.cancel hkeeps
    | checkin call =>
      simp only [attendeeStep]
      exact h.checkin
  · exact hcapped
  · exact hstart
  · exact hkeeps

/-- Whoever gets a seat after a run gets one that is free, and, as long as no seat was given back
while somebody waited, gets it past nobody. -/
theorem seated_past_nobody (env : Env) (eventId capacity : Int) (s : Service)
    (calls : List AttendeeCall) (call : RegisterCall) (r : EventRegistration)
    (hcapped : Capped eventId capacity s.db) (hstart : WaitsOnlyFull eventId capacity s.db)
    (hinserted : r ∈ (registerForEvent call
      (Machine.run (attendeeStep env) s calls).db).1.registrations.rows)
    (hnew : r ∉ (Machine.run (attendeeStep env) s calls).db.registrations.rows)
    (hevent : r.eventId = eventId) (hregistered : r.status = .registered) :
    (activeCount (Machine.run (attendeeStep env) s calls).db eventId : Int) < capacity ∧
      (Machine.Guarded (attendeeStep env) (KeepsSeats eventId) s calls →
        ¬ Waiting (Machine.run (attendeeStep env) s calls).db eventId) := by
  have hcappedEnd : Capped eventId capacity (Machine.run (attendeeStep env) s calls).db :=
    Machine.run_invariant (I := fun s => Capped eventId capacity s.db)
      (fun s call h => h.of_events (attendeeStep_events env s call)) hcapped calls
  have hfree := seat_free_of_registered hcappedEnd hinserted hnew hevent hregistered
  refine ⟨hfree, ?_⟩
  intro hkeeps hwaiting
  have hfull := (waitsOnlyFull_of_keepsSeats hcapped hstart hkeeps).run hwaiting
  omega

def sampleThirdFan : Actor := ⟨some "fan-3", some "fan", none, none⟩

def sampleSecondRow : EventRegistration where
  id := 2
  schoolId := "user:7"
  eventId := 1
  attendeeUserId := "fan-2"
  status := .waitlisted
  waitlistPosition := some 1

def sampleThirdRow : EventRegistration where
  id := 3
  schoolId := "user:7"
  eventId := 1
  attendeeUserId := "fan-3"

def sampleGivenBack : List AttendeeCall :=
  [.register (sampleRegister sampleFan), .register (sampleRegister sampleSecondFan),
    .cancel { eventId := 1, attendeeUserId := "fan-1", actor := sampleFan }]

theorem sampleSmallService_capped : Capped 1 1 sampleSmallService.db :=
  ⟨newEvent sampleSmallEvent "user:7" none "Mixer" 1, by decide +kernel, rfl⟩

theorem sampleSmallService_nobody_waits : WaitsOnlyFull 1 1 sampleSmallService.db := by
  rintro ⟨r, hr, -⟩
  cases hr

theorem seated_past_nobody_sample :
    (activeCount sampleSmallService.db 1 : Int) < 1 ∧ ¬ Waiting sampleSmallService.db 1 := by
  have h := seated_past_nobody sampleEnv 1 1 sampleSmallService [] (sampleRegister sampleFan)
    { sampleThirdRow with id := 1, attendeeUserId := "fan-1" } sampleSmallService_capped
    sampleSmallService_nobody_waits (by decide +kernel) (by decide +kernel) rfl rfl
  exact ⟨h.1, h.2 trivial⟩

/-- The third fan comes last and gets the seat that the second is waiting for. -/
theorem seated_past_nobody_fails_given_back :
    ¬ ∀ env eventId capacity s calls call r, Capped eventId capacity s.db →
      (∀ r ∈ s.db.registrations.rows, r.eventId ≠ eventId) →
        r ∈ (registerForEvent call
          (Machine.run (attendeeStep env) s calls).db).1.registrations.rows →
        r ∉ (Machine.run (attendeeStep env) s calls).db.registrations.rows →
        r.eventId = eventId → r.status = .registered →
          ¬ Waiting (Machine.run (attendeeStep env) s calls).db eventId := by
  intro h
  apply h sampleEnv 1 1 sampleSmallService sampleGivenBack (sampleRegister sampleThirdFan)
    sampleThirdRow sampleSmallService_capped (by decide +kernel) (by decide +kernel)
    (by decide +kernel) rfl rfl
  refine ⟨sampleSecondRow, ?_, rfl, rfl⟩
  decide +kernel

end CheckinService
