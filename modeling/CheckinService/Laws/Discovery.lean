import CheckinService.Laws.DiscoverPages
import CheckinService.Laws.Responses

namespace CheckinService

open Relational

theorem discoverEvents_mem {call : DiscoverCall} {db : Database} {entry : EventDiscoverResponse}
    (h : entry ∈ (discoverEvents call db).events) :
    ∃ event ∈ db.events.rows, event.id = entry.id ∧ discoverable call.actor event = true := by
  obtain ⟨event, hevent, rfl⟩ := List.mem_map.mp h
  have hfound := List.mem_of_mem_drop (List.mem_of_mem_take hevent)
  rw [List.mem_mergeSort, List.mem_filter, discoverFilter, Bool.and_eq_true] at hfound
  exact ⟨event, hfound.1, rfl, hfound.2.1⟩

theorem discoverable_open (db : Database) (call : RegisterCall) (target : String) {event : Event}
    (h : discoverable call.actor event = true) :
    event.status.isOpen = true ∧ TierOpen db call target event := by
  obtain ⟨hopen, hvisible⟩ := discoverable_iff.mp h
  refine ⟨by simpa [EventStatus.isOpen] using hopen, ?_⟩
  rw [TierOpen]
  rcases hvisible with hpublic | ⟨hschool, hsame⟩
  · rw [hpublic]
    trivial
  · rw [hschool]
    exact hsame

def selfRegister (actor : Actor) (eventId : Int) : RegisterCall where
  eventId := eventId
  payload := .empty
  actor := actor

def InAdminScope (actor : Actor) (event : Event) : Prop :=
  actor.isAdmin = true → ∀ school, Py.orNone actor.schoolId = some school →
    event.schoolId = school

instance (actor : Actor) (event : Event) : Decidable (InAdminScope actor event) :=
  inferInstanceAs (Decidable (actor.isAdmin = true → ∀ school ∈ Py.orNone actor.schoolId,
    event.schoolId = school))

theorem selfRegister_target {actor : Actor} {userId : String} (eventId : Int)
    (hid : actor.userId = some userId) (hne : userId ≠ "") :
    registerTarget (selfRegister actor eventId) = .ok userId := by
  refine registerTarget_eq_ok_iff.mpr ⟨⟨none, rfl⟩, ?_, Or.inl hid⟩
  change (Py.orNone none).orElse (fun _ => Py.orNone actor.userId) = some userId
  rw [hid, Py.orNone_eq_some.mpr ⟨rfl, hne⟩]
  rfl

theorem resolveEventOr404_eq_error {db : Database} {eventId : Int} {school : Option String}
    {f : Failure} (h : resolveEventOr404 db eventId school = .error f) :
    f = .http eventNotFound := by
  rw [resolveEventOr404] at h
  split at h
  · cases h
    rfl
  · cases h

theorem selfRegister_of_out_of_scope {actor : Actor} {userId : String} {db : Database}
    {event : Event} (hid : actor.userId = some userId) (hne : userId ≠ "")
    (hevent : event ∈ db.events.rows) (hscope : ¬ InAdminScope actor event) :
    (registerForEvent (selfRegister actor event.id) db).2 = .error (.http eventNotFound) := by
  have htarget := selfRegister_target event.id hid hne
  rw [InAdminScope] at hscope
  push Not at hscope
  obtain ⟨hadmin, school, hschool, hother⟩ := hscope
  have hfilter := schoolFilter_eq_some.mpr ⟨hadmin, hschool⟩
  have hnone : resolveEventOr404 db event.id (some school) = .error (.http eventNotFound) := by
    cases hfound : resolveEventOr404 db event.id (some school) with
    | ok found =>
      obtain ⟨hfind, hsame⟩ := resolveEventOr404_eq_ok.mp hfound
      obtain ⟨hmem, heq⟩ := findEvent_eq_some.mp hfind
      rw [db.events.eq_of_id hmem hevent heq] at hsame
      exact absurd (hsame school rfl) hother
    | error f => rw [resolveEventOr404_eq_error hfound]
  have hreads : registrationReads (selfRegister actor event.id) userId db =
      .error (.http eventNotFound) := by
    rw [registrationReads]
    simp only [selfRegister, hfilter, hnone]
    rfl
  rw [registerForEvent_of_refused htarget hreads]

/-- A reader who has no registration for an event of the feed gets a 201 for it exactly when the
event is in their admin scope; to everyone else the two endpoints agree. -/
theorem discovered_registers_iff (call : DiscoverCall) (db : Database) (userId : String)
    (hid : call.actor.userId = some userId) (hne : userId ≠ "") (event : Event)
    (hevent : event ∈ db.events.rows)
    (hlisted : event.discoverResponse ∈ (discoverEvents call db).events)
    (hfresh : ∀ r ∈ db.registrations.rows, r.eventId = event.id → r.attendeeUserId ≠ userId) :
    (∃ r, (registerForEvent (selfRegister call.actor event.id) db).2 = .ok r) ↔
      InAdminScope call.actor event := by
  constructor
  · rintro ⟨r, hr⟩
    by_contra hscope
    rw [selfRegister_of_out_of_scope hid hne hevent hscope] at hr
    cases hr
  · intro hscope
    obtain ⟨event', hmem, heq, hshown⟩ := discoverEvents_mem hlisted
    have hsame := db.events.eq_of_id hmem hevent heq
    subst hsame
    obtain ⟨hopen, htier⟩ := discoverable_open db (selfRegister call.actor event'.id) userId hshown
    have hregisters : Registers (selfRegister call.actor event'.id) userId event' db := by
      refine ⟨selfRegister_target _ hid hne, ?_, hopen, visibilityGate_eq_ok.mpr (Or.inr htier),
        unclaimed_iff.mpr ⟨?_, hfresh⟩⟩
      · refine resolveEventOr404_eq_ok.mpr ⟨findEvent_eq_some.mpr ⟨hevent, rfl⟩, ?_⟩
        intro school hschool
        obtain ⟨hadmin, hschool⟩ := schoolFilter_eq_some.mp hschool
        exact hscope hadmin school hschool
      · intro key hkey
        cases hkey
    obtain ⟨registrations, hresult, -⟩ := hregisters.result
    exact ⟨_, by rw [hresult]⟩

def sampleFeed (actor : Actor) : DiscoverCall where
  actor := actor

theorem discovered_registers_sample :
    ∃ r, (registerForEvent (selfRegister sampleFan 1) sampleSmallService.db).2 = .ok r := by
  have hiff := discovered_registers_iff (sampleFeed sampleFan) sampleSmallService.db "fan-1" rfl
    (by decide) (newEvent sampleSmallEvent "user:7" none "Mixer" 1) (by decide +kernel)
    (by decide +kernel) (by decide +kernel)
  exact hiff.mpr (by decide +kernel)

/-- The feed shows a school's admin the public event of a creator; asking for a place, they are
told that it does not exist. -/
theorem discovered_registers_fails_admin :
    ¬ ∀ (call : DiscoverCall) (db : Database) (userId : String) (event : Event),
      call.actor.userId = some userId → userId ≠ "" → event ∈ db.events.rows →
        event.discoverResponse ∈ (discoverEvents call db).events →
          (∀ r ∈ db.registrations.rows, r.eventId = event.id → r.attendeeUserId ≠ userId) →
            ∃ r, (registerForEvent (selfRegister call.actor event.id) db).2 = .ok r := by
  intro h
  obtain ⟨r, hr⟩ := h (sampleFeed sampleSchoolAdmin) sampleSmallService.db "admin-2"
    (newEvent sampleSmallEvent "user:7" none "Mixer" 1) rfl (by decide) (by decide +kernel)
    (by decide +kernel) (by decide +kernel)
  have hrefused : (registerForEvent (selfRegister sampleSchoolAdmin 1) sampleSmallService.db).2 =
      .error (.http eventNotFound) := by decide +kernel
  exact absurd (hrefused.symm.trans hr) (by simp)

end CheckinService
