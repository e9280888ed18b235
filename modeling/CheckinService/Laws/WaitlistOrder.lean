import CheckinService.Laws.Operations
import CheckinService.Lib.Machine

namespace CheckinService

open Relational

structure NumberedInOrder (db : Database) : Prop where
  numbered : ∀ r ∈ db.registrations.rows, r.status = .waitlisted →
    ∃ position, r.waitlistPosition = some position ∧ 1 ≤ position
  rising : ∀ r ∈ db.registrations.rows, ∀ r' ∈ db.registrations.rows,
    r.status = .waitlisted → r'.status = .waitlisted → r.eventId = r'.eventId → r.id < r'.id →
      ∀ position position', r.waitlistPosition = some position →
        r'.waitlistPosition = some position' → position < position'

section

variable {db db' : Database} {eventId : Int}

theorem le_maxWaitlistPosition {r : EventRegistration} {position : Int}
    (hr : r ∈ db.registrations.rows) (hevent : r.eventId = eventId)
    (hstatus : r.status = .waitlisted) (hposition : r.waitlistPosition = some position) :
    position ≤ maxWaitlistPosition db eventId := by
  rw [maxWaitlistPosition]
  have hmem : position ∈ (db.registrations.rows.filter fun r =>
      r.eventId = eventId && r.status = .waitlisted).filterMap
        EventRegistration.waitlistPosition := by
    rw [List.mem_filterMap]
    exact ⟨r, List.mem_filter.mpr ⟨hr, by simp [hevent, hstatus]⟩, hposition⟩
  generalize List.filterMap EventRegistration.waitlistPosition _ = positions at hmem ⊢
  cases hmax : positions.max? with
  | none =>
    rw [List.max?_eq_none_iff.mp hmax] at hmem
    cases hmem
  | some top => exact (List.max?_eq_some_iff.mp hmax).2 position hmem

theorem NumberedInOrder.max_nonneg (h : NumberedInOrder db) (eventId : Int) :
    0 ≤ maxWaitlistPosition db eventId := by
  rw [maxWaitlistPosition]
  cases hmax : (List.filterMap EventRegistration.waitlistPosition _).max? with
  | none => exact le_rfl
  | some top =>
    have htop := (List.max?_eq_some_iff.mp hmax).1
    obtain ⟨r, hr, hposition⟩ := List.mem_filterMap.mp htop
    obtain ⟨hmem, hwaits⟩ := List.mem_filter.mp hr
    simp only [Bool.and_eq_true, decide_eq_true_eq] at hwaits
    obtain ⟨position, hnumber, hone⟩ := h.numbered r hmem hwaits.2
    rw [hposition, Option.some.injEq] at hnumber
    simp only [Option.getD_some]
    omega

theorem NumberedInOrder.of_waitlisted (h : NumberedInOrder db)
    (hkept : ∀ r ∈ db'.registrations.rows, r.status = .waitlisted →
      r ∈ db.registrations.rows) : NumberedInOrder db' where
  numbered r hr hstatus := h.numbered r (hkept r hr hstatus) hstatus
  rising r hr r' hr' hstatus hstatus' :=
    h.rising r (hkept r hr hstatus) r' (hkept r' hr' hstatus') hstatus hstatus'

theorem NumberedInOrder.register {call : RegisterCall} {target : String} {event : Event}
    (h : NumberedInOrder db) (hregisters : Registers call target event db) :
    NumberedInOrder (registerForEvent call db).1 := by
  obtain ⟨registrations, hresult, hrows⟩ := hregisters.result
  have hid : event.id = call.eventId := (findEvent_eq_some.mp hregisters.found).2
  have hnew : ∀ r, r = newRegistration call target event (assignSeat db event)
      db.registrations.nextId → r.status = .waitlisted →
        r.id = db.registrations.nextId ∧ r.eventId = call.eventId ∧
          r.waitlistPosition = some (maxWaitlistPosition db call.eventId + 1) := by
    rintro r rfl hstatus
    cases hroom : hasRoom db event with
    | true => simp [newRegistration, assignSeat, hroom] at hstatus
    | false => simp [newRegistration, assignSeat, hroom, hid]
  have hrows' : ∀ r, r ∈ (registerForEvent call db).1.registrations.rows →
      r ∈ db.registrations.rows ∨ r = newRegistration call target event (assignSeat db event)
        db.registrations.nextId := by
    intro r hr
    rw [hresult] at hr
    simpa only [hrows, List.mem_append, List.mem_singleton] using hr
  constructor
  · intro r hr hstatus
    rcases hrows' r hr with hr | hr
    · exact h.numbered r hr hstatus
    · have hmax := h.max_nonneg call.eventId
      exact ⟨_, (hnew r hr hstatus).2.2, by omega⟩
  · intro r hr r' hr' hstatus hstatus' hevent hlt position position' hposition hposition'
    rcases hrows' r hr with hr | hr
    · rcases hrows' r' hr' with hr' | hr'
      · exact h.rising r hr r' hr' hstatus hstatus' hevent hlt position position' hposition
          hposition'
      · obtain ⟨-, hevent', hnumber⟩ := hnew r' hr' hstatus'
        have hle := le_maxWaitlistPosition hr (hevent.trans hevent') hstatus hposition
        rw [hposition', Option.some.injEq] at hnumber
        omega
    · -- the new row has the largest id
      have hlast := (hnew r hr hstatus).1
      rcases hrows' r' hr' with hr' | hr'
      · have hbelow : r'.id < db.registrations.nextId := Table.id_lt_nextId hr'
        omega
      · have hlast' := (hnew r' hr' hstatus').1
        omega

theorem NumberedInOrder.cancel (h : NumberedInOrder db) (registrationId : Int) :
    NumberedInOrder (cancelled registrationId db) := by
  apply h.of_waitlisted
  intro r hr hstatus
  simp only [cancelled, Table.update_rows] at hr
  obtain ⟨r₀, hr₀, rfl⟩ := List.mem_map.mp hr
  split at hstatus
  · cases hstatus
  · rename_i hother
    rw [if_neg hother]
    exact hr₀

theorem NumberedInOrder.checkin {env : Env} {call : CheckinCall} {s : Service} {target : String}
    {plan : CheckinPlan} (h : NumberedInOrder s.db) (hrec : Recorded env call s target plan) :
    NumberedInOrder (submitCheckin env call s).1.db := by
  apply h.of_waitlisted
  intro r hr hstatus
  rw [hrec.effect.registrations] at hr
  obtain ⟨r₀, hr₀, rfl⟩ := List.mem_map.mp hr
  split at hstatus
  · cases hstatus
  · rename_i hother
    rw [if_neg hother]
    exact hr₀

end

theorem NumberedInOrder.serve {env : Env} {s : Service} {op : Operation}
    (h : NumberedInOrder s.db) : NumberedInOrder (serve env s op).db := by
  have hserves := serve_serves env s op
  generalize (CheckinService.serve env s op).db = db' at hserves ⊢
  have hframe := hserves.frame
  have hother : op.writes .registrations = false → NumberedInOrder db' := by
    intro hreads
    apply h.of_waitlisted
    intro r hr _
    rwa [hframe.registrations hreads] at hr
  cases hserves with
  | nothing _ => exact h
  | registers hregisters => exact h.register hregisters
  | cancels _ => exact h.cancel _
  | records hrec => exact h.checkin hrec
  | creates _ => exact hother rfl
  | updates _ => exact hother rfl
  | deletes _ => exact hother rfl
  | mints _ => exact hother rfl
  | invites _ _ => exact hother rfl
  | responds _ => exact hother rfl
  | scrubs => exact hother rfl
  | rosters => exact hother rfl

/-- In every state of every run that begins without registrations, the waitlist of every event is
numbered in the order in which its rows came. -/
theorem waitlist_numbered_in_order (env : Env) (s : Service) (ops : List Operation) :
    Machine.Always (serve env) (fun s => NumberedInOrder s.db)
      { s with db := { s.db with registrations := .empty } } ops := by
  apply Machine.always_invariant
  · intro s op h
    exact h.serve
  · constructor
    · intro r hr
      cases hr
    · intro r hr
      cases hr

end CheckinService
