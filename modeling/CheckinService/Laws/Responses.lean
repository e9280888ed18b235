import CheckinService.Laws.Admission

namespace CheckinService

open Relational

section

variable {call : RegisterCall} {target : String} {event : Event} {db db' : Database}
  {r : EventRegistration}

theorem registerForEvent_ok (h : registerForEvent call db = (db', .ok r)) :
    ∃ target, registerTarget call = .ok target ∧
      ((db' = db ∧ replayedRegistration db call = some r) ∨
        (db' = db ∧ findRegistration db call.eventId target = some r) ∨
        ∃ event, Registers call target event db ∧ r ∈ db'.registrations.rows ∧
          Seated call target event db r) := by
  by_cases hregisters : ∃ target event, Registers call target event db
  · obtain ⟨target, event, hregisters⟩ := hregisters
    obtain ⟨registrations, hresult, hrows⟩ := hregisters.result
    rw [h] at hresult
    cases hresult
    refine ⟨target, hregisters.resolved, Or.inr (Or.inr ⟨event, hregisters, ?_, hregisters.seated⟩)⟩
    rw [hrows]
    exact List.mem_append_right _ (List.mem_singleton.mpr rfl)
  · have hsame : db' = db := by
      rw [← registerForEvent_unchanged hregisters, h]
    subst hsame
    rw [registerForEvent] at h
    split at h
    · cases h
    · rename_i target htarget
      refine ⟨target, htarget, ?_⟩
      split at h
      · cases h
      · rename_i existing hreads
        cases h
        obtain ⟨-, -, -, -, hreplay⟩ := registrationReads_eq_ok.mp hreads
        exact Or.inl ⟨rfl, hreplay.symm⟩
      · rename_i hreads
        obtain ⟨event, hscope, hopen, hvisible, -⟩ := registrationReads_eq_ok.mp hreads
        split at h
        · cases h
        · split at h
          · rename_i hinsert
            exact absurd ⟨target, event, htarget, hscope, hopen, hvisible, .of_insert hinsert⟩
              hregisters
          · simp only [Prod.mk.injEq, true_and, existingRegistration] at h
            split at h
            · rename_i existing hfound
              cases h
              exact Or.inr (Or.inl ⟨rfl, hfound⟩)
            · cases h

structure Answers (call : RegisterCall) (target : String) (db db' : Database)
    (r : EventRegistration) : Prop where
  eventId : r.eventId = call.eventId
  stored : r ∈ db'.registrations.rows
  attendee : r.attendeeUserId = target ∨
    r ∈ db.registrations.rows ∧ ∃ key, key ≠ "" ∧ call.idempotencyKey = some key ∧
      r.idempotencyKey = some key
  live : r.status ≠ .cancelled ∨ r ∈ db.registrations.rows

theorem replayedRegistration_eq_some (h : replayedRegistration db call = some r) :
    r ∈ db.registrations.rows ∧ r.eventId = call.eventId ∧
      ∃ key, key ≠ "" ∧ call.idempotencyKey = some key ∧ r.idempotencyKey = some key := by
  rw [replayedRegistration, Option.bind_eq_some_iff] at h
  obtain ⟨key, hkey, hfirst⟩ := h
  obtain ⟨hmem, hp⟩ := Table.first_eq_some hfirst
  simp only [Bool.and_eq_true, decide_eq_true_eq] at hp
  obtain ⟨hcall, hne⟩ := Py.orNone_eq_some.mp hkey
  exact ⟨hmem, hp.1, key, hne, hcall, hp.2⟩

theorem Seated.live (h : Seated call target event db r) : r.status ≠ .cancelled := by
  by_cases hbelow : ∀ capacity, event.maxCapacity = some capacity →
      (activeCount db call.eventId : Int) < capacity
  · rw [(h.registered hbelow).1]
    decide
  · push Not at hbelow
    rw [(h.waitlisted hbelow).1]
    decide

/-- A 201 carries a stored row of the event, of the attendee unless an Idempotency-Key is
replayed, and live unless it was there before. -/
theorem registerForEvent_answers (h : registerForEvent call db = (db', .ok r)) :
    ∃ target, targetUserId call.payload.attendeeUserId call.actor = some target ∧
      Answers call target db db' r := by
  obtain ⟨target, htarget, hcases⟩ := registerForEvent_ok h
  refine ⟨target, registerTarget_eq_ok htarget, ?_⟩
  rcases hcases with ⟨rfl, hreplay⟩ | ⟨rfl, hfound⟩ | ⟨event, -, hmem, hseated⟩
  · obtain ⟨hmem, hevent, hkey⟩ := replayedRegistration_eq_some hreplay
    exact ⟨hevent, hmem, Or.inr ⟨hmem, hkey⟩, Or.inr hmem⟩
  · obtain ⟨hmem, hevent, hattendee⟩ := findRegistration_eq_some.mp hfound
    exact ⟨hevent, hmem, Or.inl hattendee, Or.inr hmem⟩
  · exact ⟨hseated.eventId, hmem, Or.inl hseated.attendeeUserId, Or.inl hseated.live⟩

end

def LiveResponse (call : RegisterCall) (db : Database) : Prop :=
  ∀ db' r, registerForEvent call db = (db', .ok r) →
    ∀ target, targetUserId call.payload.attendeeUserId call.actor = some target →
      r.eventId = call.eventId ∧ r.attendeeUserId = target ∧ r.status ≠ .cancelled

def sampleKeyed (actor : Actor) : RegisterCall where
  eventId := 1
  payload := .empty
  actor := actor
  idempotencyKey := some "rsvp-0001"

def sampleKeyedRow : EventRegistration where
  id := 1
  schoolId := "user:7"
  eventId := 1
  attendeeUserId := "fan-1"
  idempotencyKey := some "rsvp-0001"

theorem registerForEvent_answers_sample :
    ∃ target, targetUserId none sampleFan = some target ∧
      Answers (sampleKeyed sampleFan) target sampleSmallService.db
        (registerForEvent (sampleKeyed sampleFan) sampleSmallService.db).1 sampleKeyedRow := by
  have hok : (registerForEvent (sampleKeyed sampleFan) sampleSmallService.db).2 =
      .ok sampleKeyedRow := by decide +kernel
  exact registerForEvent_answers (Prod.ext rfl hok)

def sampleKeyedRun : List AttendeeCall :=
  [.register (sampleKeyed sampleFan),
    .cancel { eventId := 1, attendeeUserId := "fan-1", actor := sampleFan }]

/-- The second fan sends the key of the first, who has cancelled, and is shown their row. -/
theorem liveResponse_fails_shared_key :
    ¬ ∀ calls call, LiveResponse call
      (Machine.run (attendeeStep sampleEnv) sampleSmallService calls).db := by
  intro h
  have hresponse := h sampleKeyedRun (sampleKeyed sampleSecondFan) _ sampleKeyedRow.cancel
    (Prod.ext rfl (by decide +kernel)) "fan-2" (by decide)
  exact absurd hresponse.2.1 (by decide)

def Database.withoutEvent (db : Database) (eventId : Int) : Database :=
  { db with events := db.events.remove eventId }

structure HiddenFrom (call : RegisterCall) (event : Event) (db : Database) : Prop where
  found : findEvent db call.eventId = some event
  notOwner : call.actor.userId ≠ some event.ownerUserId
  notAdmin : call.actor.isAdmin = false
  hidden : (event.visibility = .schoolOnly ∧
      Py.orNone call.actor.schoolId ≠ some event.schoolId) ∨
    (event.visibility = .groupOnly ∧
      ∀ target, targetUserId call.payload.attendeeUserId call.actor = some target →
        ¬ GroupMember db event target)

section

variable {call : RegisterCall} {target : String} {event : Event} {db : Database}

theorem registerForEvent_of_unresolved {f : Failure} (h : registerTarget call = .error f) :
    registerForEvent call db = (db, .error f) := by
  simp only [registerForEvent, h]

theorem registerForEvent_of_refused {f : Failure} (htarget : registerTarget call = .ok target)
    (h : registrationReads call target db = .error f) :
    registerForEvent call db = (db, .error f) := by
  simp only [registerForEvent, htarget, h]

theorem resolveEventOr404_withoutEvent (db : Database) (eventId : Int) (school : Option String) :
    resolveEventOr404 (db.withoutEvent eventId) eventId school =
      .error (.http eventNotFound) := by
  have hnone : ((db.events.remove eventId).first fun e =>
      e.id = eventId && school.all fun sid => e.schoolId = sid) = none := by
    rw [Table.first_eq_none]
    intro e he
    have hne : e.id ≠ eventId := (Table.mem_remove.mp he).2
    simp [hne]
  simp only [resolveEventOr404, Database.withoutEvent, hnone]

theorem registerForEvent_withoutEvent (htarget : registerTarget call = .ok target) :
    (registerForEvent call (db.withoutEvent call.eventId)).2 =
      .error (.http eventNotFound) := by
  have hreads : registrationReads call target (db.withoutEvent call.eventId) =
      .error (.http eventNotFound) := by
    rw [registrationReads, resolveEventOr404_withoutEvent]
    rfl
  rw [registerForEvent_of_refused htarget hreads]

theorem HiddenFrom.outsider (h : HiddenFrom call event db) :
    isOwnerOrAdmin call.actor event = false := by
  simp [isOwnerOrAdmin, Py.orNone_eq_some, h.notOwner, h.notAdmin]

theorem HiddenFrom.visibilityGate_eq (h : HiddenFrom call event db)
    (htarget : targetUserId call.payload.attendeeUserId call.actor = some target) :
    visibilityGate db call target event = .error (.http eventNotFound) := by
  rw [visibilityGate, h.outsider]
  rcases h.hidden with ⟨htier, hschool⟩ | ⟨htier, hmember⟩
  · simp [htier, sameSchool, hschool]
  · have hmember := hmember target htarget
    simp only [htier, Bool.false_eq_true, ↓reduceIte]
    rw [GroupMember] at hmember
    cases hkind : event.groupKind with
    | none => rfl
    | some kind =>
      rw [hkind] at hmember
      cases kind with
      | schoolAdminGroup =>
        simp only at hmember
        rw [← activeMembership_isSome] at hmember
        simp [hmember]
      | teamLeadCohort =>
        simp only at hmember
        rw [← acceptedRelationship_isSome] at hmember
        simp [hmember]

theorem HiddenFrom.registrationReads_eq (h : HiddenFrom call event db)
    (htarget : targetUserId call.payload.attendeeUserId call.actor = some target) :
    registrationReads call target db =
      openForRegistration event >>= fun _ => .error (.http eventNotFound) := by
  have hscope : resolveEventOr404 db call.eventId (Registrations.schoolFilter call.actor) =
      .ok event := by
    rw [resolveEventOr404_eq_ok, schoolFilter_of_not_admin h.notAdmin]
    exact ⟨h.found, by simp⟩
  rw [registrationReads, hscope]
  simp only [bind, Except.bind, h.visibilityGate_eq htarget]

/-- The answer gives nothing away exactly when the event is open, or the request is turned down
before any lookup. -/
theorem hiddenFrom_answer_iff (call : RegisterCall) (event : Event) (db : Database)
    (h : HiddenFrom call event db) :
    (registerForEvent call db).2 = (registerForEvent call (db.withoutEvent call.eventId)).2 ↔
      event.status.isOpen = true ∨ ∀ target, registerTarget call ≠ .ok target := by
  cases htarget : registerTarget call with
  | error f => simp [registerForEvent_of_unresolved htarget]
  | ok target =>
    have hreads := h.registrationReads_eq (registerTarget_eq_ok htarget)
    rw [registerForEvent_withoutEvent htarget]
    cases hopen : event.status.isOpen with
    | true =>
      rw [openForRegistration, hopen] at hreads
      rw [registerForEvent_of_refused htarget hreads]
      simp
    | false =>
      rw [openForRegistration, hopen] at hreads
      rw [registerForEvent_of_refused htarget hreads]
      simp [eventNotFound]

end

def sampleSchoolEvent (status : EventStatus) : CreateCall where
  payload := { title := "Tryouts", status := status, visibility := .schoolOnly }
  actor := sampleCoach

def sampleSchoolDatabase (status : EventStatus) : Database :=
  (createEvent (sampleSchoolEvent status) {}).1

theorem sampleSchoolEvent_hidden (status : EventStatus) :
    HiddenFrom (sampleRegister sampleFan)
      (newEvent (sampleSchoolEvent status) "school-1" none "Tryouts" 1)
      (sampleSchoolDatabase status) := by
  refine ⟨?_, ?_, by decide, Or.inl ⟨rfl, ?_⟩⟩ <;> cases status <;> decide +kernel

theorem hiddenFrom_answer_sample :
    (registerForEvent (sampleRegister sampleFan) (sampleSchoolDatabase .published)).2 =
      (registerForEvent (sampleRegister sampleFan)
        ((sampleSchoolDatabase .published).withoutEvent 1)).2 :=
  (hiddenFrom_answer_iff _ _ _ (sampleSchoolEvent_hidden .published)).mpr (Or.inl rfl)

/-- A draft answers 409 where no event at all answers 404. -/
theorem hiddenFrom_answer_fails_draft :
    (sampleSchoolEvent .draft).payload.accepted 500 = true ∧
      ¬ ∀ call event db, HiddenFrom call event db →
        (registerForEvent call db).2 =
          (registerForEvent call (db.withoutEvent call.eventId)).2 := by
  refine ⟨by decide +kernel, ?_⟩
  intro h
  have hsame := h _ _ _ (sampleSchoolEvent_hidden .draft)
  revert hsame
  decide +kernel

end CheckinService
