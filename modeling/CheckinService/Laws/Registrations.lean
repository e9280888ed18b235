import CheckinService.Laws.Checkins
import CheckinService.Lib.Except

namespace CheckinService

open Relational

theorem resolveEventOr404_eq_ok {db : Database} {eventId : Int} {schoolId : Option String}
    {event : Event} :
    resolveEventOr404 db eventId schoolId = .ok event ↔
      findEvent db eventId = some event ∧ ∀ sid, schoolId = some sid → event.schoolId = sid := by
  have hfirst : (db.events.first fun e =>
        e.id = eventId && schoolId.all fun sid => e.schoolId = sid) = some event ↔
      findEvent db eventId = some event ∧ ∀ sid, schoolId = some sid → event.schoolId = sid := by
    rw [findEvent_eq_some]
    apply Table.first_id_eq_some.trans
    cases schoolId <;> simp [Row.id, and_assoc]
  rw [← hfirst, resolveEventOr404]
  split <;> simp [*]

theorem lockEvent_eq_ok {db : Database} {eventId : Int} {event : Event} :
    lockEvent db eventId = .ok event ↔ findEvent db eventId = some event := by
  simp [lockEvent, resolveEventOr404_eq_ok]

theorem openForRegistration_eq_ok {event : Event} :
    openForRegistration event = .ok () ↔ event.status.isOpen = true := by
  rw [openForRegistration]
  split <;> simp [httpError, *]

def Unclaimed (call : RegisterCall) (target : String) (db : Database) : Prop :=
  ∀ r ∈ db.registrations.rows, r.eventId = call.eventId →
    r.attendeeUserId ≠ target ∧
      ∀ key, call.idempotencyKey = some key → r.idempotencyKey ≠ some key

instance (call : RegisterCall) (target : String) (db : Database) :
    Decidable (Unclaimed call target db) :=
  inferInstanceAs (Decidable (∀ r ∈ db.registrations.rows, r.eventId = call.eventId →
    r.attendeeUserId ≠ target ∧ ∀ key ∈ call.idempotencyKey, r.idempotencyKey ≠ some key))

theorem insertRegistration_eq_none {call : RegisterCall} {target : String} {locked : Event}
    {seat : Seat} {db : Database} :
    insertRegistration call target locked seat db = none ↔ ¬ Unclaimed call target db := by
  rw [insertRegistration, Option.map_eq_none_iff, Table.insert?_nextId_eq_none rfl, Unclaimed]
  push Not
  refine exists_congr fun r => and_congr_right fun _ => ?_
  simp only [Row.keys, newRegistration, List.mem_cons, List.mem_map, Option.mem_toList]
  constructor
  · rintro ⟨k, hk, hk'⟩
    rcases hk with rfl | ⟨key, hkey, rfl⟩
    · rcases hk' with hk' | ⟨key, _, hk'⟩
      · simp only [RegistrationKey.eventAttendee.injEq] at hk'
        exact ⟨hk'.1, fun h => absurd hk'.2 h⟩
      · cases hk'
    · rcases hk' with hk' | ⟨key', hkey', hk'⟩
      · cases hk'
      · simp only [RegistrationKey.eventIdem.injEq] at hk'
        exact ⟨hk'.1.symm, fun _ => ⟨key, by rw [← hk'.2, hkey'], hkey⟩⟩
  · rintro ⟨hevent, h⟩
    by_cases htarget : r.attendeeUserId = target
    · exact ⟨_, Or.inl rfl, Or.inl (by rw [hevent, htarget])⟩
    · obtain ⟨key, hcall, hr⟩ := h htarget
      exact ⟨_, Or.inr ⟨key, hr, rfl⟩, Or.inr ⟨key, hcall, by rw [hevent]⟩⟩

theorem insertRegistration_eq_some {call : RegisterCall} {target : String} {locked : Event}
    {seat : Seat} {db db' : Database} {registration : EventRegistration}
    (h : insertRegistration call target locked seat db = some (registration, db')) :
    registration = newRegistration call target locked seat db.registrations.nextId ∧
      db'.registrations.rows = db.registrations.rows ++ [registration] ∧
      db' = { db with registrations := db'.registrations } := by
  rw [insertRegistration, Option.map_eq_some_iff] at h
  obtain ⟨registrations, hinsert, heq⟩ := h
  cases heq
  exact ⟨rfl, (Table.insert?_eq_some.mp hinsert).2, rfl⟩

theorem Unclaimed.of_insert {call : RegisterCall} {target : String} {locked : Event}
    {seat : Seat} {db : Database} {inserted : EventRegistration × Database}
    (h : insertRegistration call target locked seat db = some inserted) :
    Unclaimed call target db := by
  by_contra hclaimed
  rw [insertRegistration_eq_none.mpr hclaimed] at h
  cases h

theorem Unclaimed.not_replayed {call : RegisterCall} {target : String} {db : Database}
    (h : Unclaimed call target db) : replayedRegistration db call = none := by
  rw [replayedRegistration]
  cases hkey : Py.orNone call.idempotencyKey with
  | none => rfl
  | some key =>
    change (db.registrations.first fun r =>
      r.eventId = call.eventId && r.idempotencyKey = some key) = none
    rw [Table.first_eq_none]
    intro r hr
    by_cases hevent : r.eventId = call.eventId
    · have := (h r hr hevent).2 key (Py.orNone_eq_some.mp hkey).1
      simp [this]
    · simp [hevent]

structure Registers (call : RegisterCall) (target : String) (event : Event) (db : Database) :
    Prop where
  resolved : registerTarget call = .ok target
  inScope : resolveEventOr404 db call.eventId (Registrations.schoolFilter call.actor) = .ok event
  isOpen : event.status.isOpen = true
  visible : visibilityGate db call target event = .ok ()
  unclaimed : Unclaimed call target db

section

variable {call : RegisterCall} {target : String} {event : Event} {db : Database}

theorem Registers.found (h : Registers call target event db) :
    findEvent db call.eventId = some event := (resolveEventOr404_eq_ok.mp h.inScope).1

theorem registrationReads_eq_ok {replay : Option EventRegistration} :
    registrationReads call target db = .ok replay ↔
      ∃ event, resolveEventOr404 db call.eventId (Registrations.schoolFilter call.actor) =
          .ok event ∧ event.status.isOpen = true ∧
        visibilityGate db call target event = .ok () ∧ replay = replayedRegistration db call := by
  simp only [registrationReads, Except.bind_eq_ok, pure, Except.pure, Except.ok.injEq]
  constructor
  · rintro ⟨event, hevent, _, hopen, _, hvisible, hreplay⟩
    exact ⟨event, hevent, openForRegistration_eq_ok.mp hopen, hvisible, hreplay.symm⟩
  · rintro ⟨event, hevent, hopen, hvisible, hreplay⟩
    exact ⟨event, hevent, (), openForRegistration_eq_ok.mpr hopen, (), hvisible, hreplay.symm⟩

theorem Registers.result (h : Registers call target event db) :
    ∃ registrations, registerForEvent call db =
        ({ db with registrations := registrations },
          .ok (newRegistration call target event (assignSeat db event)
            db.registrations.nextId)) ∧
      registrations.rows = db.registrations.rows ++
        [newRegistration call target event (assignSeat db event) db.registrations.nextId] := by
  have hreads : registrationReads call target db = .ok none :=
    registrationReads_eq_ok.mpr
      ⟨event, h.inScope, h.isOpen, h.visible, h.unclaimed.not_replayed.symm⟩
  cases hinsert : insertRegistration call target event (assignSeat db event) db with
  | none => exact absurd h.unclaimed (insertRegistration_eq_none.mp hinsert)
  | some result =>
    obtain ⟨registration, db'⟩ := result
    obtain ⟨hregistration, hrows, hdb⟩ := insertRegistration_eq_some hinsert
    refine ⟨db'.registrations, ?_, ?_⟩
    · simp only [registerForEvent, h.resolved, hreads, lockEvent_eq_ok.mpr h.found, hinsert,
        hregistration, ← hdb]
    · rw [hrows, hregistration]

theorem newRegistration_fresh (call : RegisterCall) (target : String) (locked : Event)
    (seat : Seat) (db : Database) :
    newRegistration call target locked seat db.registrations.nextId ∉
      db.registrations.rows := by
  intro hmem
  have hlt := Table.id_lt_nextId hmem
  simp only [Row.id, newRegistration] at hlt
  omega

theorem registerForEvent_unchanged (h : ¬ ∃ target event, Registers call target event db) :
    (registerForEvent call db).1 = db := by
  rw [registerForEvent]
  split
  · rfl
  · rename_i target htarget
    split
    · rfl
    · rfl
    · rename_i hreads
      obtain ⟨event, hscope, hopen, hvisible, -⟩ := registrationReads_eq_ok.mp hreads
      split
      · rfl
      · split
        · rename_i registration db' hinsert
          exact absurd ⟨target, event, htarget, hscope, hopen, hvisible, .of_insert hinsert⟩ h
        · rfl

theorem registerForEvent_cases (call : RegisterCall) (db : Database) :
    (registerForEvent call db).1 = db ∨ ∃ target event, Registers call target event db := by
  by_cases hregisters : ∃ target event, Registers call target event db
  · exact Or.inr hregisters
  · exact Or.inl (registerForEvent_unchanged hregisters)

end

theorem assertSelfOrAdmin_eq_ok {actor : Actor} {target : String} :
    assertSelfOrAdmin actor target = .ok () ↔
      actor.userId = some target ∨ actor.isAdmin = true := by
  rw [assertSelfOrAdmin]
  split
  · rename_i h
    simpa [or_comm] using h
  · rename_i h
    simpa [httpError, or_comm] using h

theorem cancelTarget_eq_ok {call : CancelCall} {db : Database} {r : EventRegistration} :
    cancelTarget call db = .ok r ↔
      (call.actor.userId = some call.attendeeUserId ∨ call.actor.isAdmin = true) ∧
        (∃ event, resolveEventOr404 db call.eventId (Registrations.schoolFilter call.actor) =
          .ok event) ∧
        findRegistration db call.eventId call.attendeeUserId = some r := by
  simp only [cancelTarget, Except.bind_eq_ok]
  constructor
  · rintro ⟨_, hself, event, hevent, h⟩
    rw [(findEvent_eq_some.mp (resolveEventOr404_eq_ok.mp hevent).1).2] at h
    refine ⟨assertSelfOrAdmin_eq_ok.mp hself, ⟨event, hevent⟩, ?_⟩
    split at h
    · cases h
    · rename_i found hfound
      cases h
      exact hfound
  · rintro ⟨hself, ⟨event, hevent⟩, hfound⟩
    refine ⟨(), assertSelfOrAdmin_eq_ok.mpr hself, event, hevent, ?_⟩
    rw [(findEvent_eq_some.mp (resolveEventOr404_eq_ok.mp hevent).1).2, hfound]
    rfl

end CheckinService
